import Unparsing.Proofs.Grammar.Yield

/-!
# Proofs/Grammar/Choice — what the branches of a choice yield together

Merging is a join.  What branches yield together is ordered by what it is true of
(`Yield.Below`): nothing so far is below everything, a type is below its ancestors, and everything
is below `nothing`, to which branches come that do not fit together.  A merge is the least yield
above both its parts (`Yield.merge_below_iff`), and so is that of a list of branches
(`Yield.foldl_merge_below_iff`).  So it depends on the set of the branches only, not on their order
or on repetitions (`Yield.foldl_merge_congr`).
-/

namespace Unparsing

namespace Yield

variable {ns : NodeTypes} {sofar z : Option Yield} {x y r : Yield} {ys zs : List Yield}

/-! ## Describing -/

theorem Describes.self (ns : NodeTypes) (proper : y ≠ .nothing) : y.Describes ns y := by
  cases y with
  | node n => exact .node (NodeTypes.mem_ancestry_self ns n)
  | token => exact .token
  | nothing => exact absurd rfl proper

theorem Describes.ne_nothing (h : y.Describes ns r) : y ≠ .nothing := by
  rintro rfl
  cases h

theorem Describes.trans (h : x.Describes ns y) (h' : y.Describes ns r) : x.Describes ns r := by
  cases h with
  | node above => exact h'.of_mem_ancestry above
  | token => exact h'

/-- Two yields that are true of each other are the same. -/
theorem Describes.antisymm (h : x.Describes ns y) (h' : y.Describes ns x) : x = y := by
  cases h with
  | node above =>
    cases h' with
    | node below => exact congrArg Yield.node (NodeTypes.eq_of_mem_ancestry below above)
  | token => rfl

/-! ## The order of what choices yield -/

/-- What a branch adds to a choice by what it yields: `nothing` adds nothing. -/
def contribution : Yield → Option Yield
  | node type => some (.node type)
  | token => some .token
  | nothing => none

theorem contribution_of_ne_nothing (proper : y ≠ .nothing) : y.contribution = some y := by
  cases y with
  | node | token => rfl
  | nothing => exact absurd rfl proper

/-- **What some branches yield together is true of less than what others do.**  Before the first
yield it is true of nothing, and branches that do not fit together are above all others. -/
inductive Below (ns : NodeTypes) : Option Yield → Option Yield → Prop
  | start (z : Option Yield) : Below ns none z
  | conflict (z : Option Yield) : Below ns z (some .nothing)
  | describes {y r : Yield} : y.Describes ns r → Below ns (some r) (some y)

theorem Below.refl (ns : NodeTypes) (z : Option Yield) : Below ns z z := by
  cases z with
  | none => exact .start none
  | some y =>
    by_cases idle : y = .nothing
    · exact idle ▸ .conflict _
    · exact .describes (.self ns idle)

theorem Below.antisymm (h : Below ns sofar z) (h' : Below ns z sofar) : sofar = z := by
  cases h with
  | start =>
    cases h'
    rfl
  | conflict =>
    cases h' with
    | conflict => rfl
    | describes above => cases above
  | describes above =>
    cases h' with
    | conflict => cases above
    | describes below => exact congrArg some (below.antisymm above)

theorem Below.contribution_getD (h : Below ns sofar z) :
    Below ns (sofar.getD .nothing).contribution z := by
  cases sofar with
  | none => exact .start z
  | some y =>
    by_cases idle : y = .nothing
    · subst idle
      exact .start z
    · rwa [Option.getD_some, contribution_of_ne_nothing idle]

theorem Below.describes_of_ne_nothing (h : Below ns (some r) (some y)) (proper : y ≠ .nothing) :
    y.Describes ns r := by
  cases h with
  | conflict => exact absurd rfl proper
  | describes above => exact above

theorem below_some_iff (h : z ≠ some .nothing) :
    Below ns (some r) z ↔ ∃ y ∈ z, y.Describes ns r := by
  constructor
  · rintro (_ | _ | above)
    · exact absurd rfl h
    · exact ⟨_, rfl, above⟩
  · rintro ⟨y, rfl, above⟩
    exact .describes above

/-! ## Merging -/

theorem describes_node_iff {m : NodeId} :
    x.Describes ns (.node m) ↔ ∃ n ∈ ns.ancestry m, x = .node n := by
  constructor
  · rintro ⟨above⟩
    exact ⟨_, above, rfl⟩
  · rintro ⟨n, above, rfl⟩
    exact .node above

/-- **Two yields are merged** to what is described by just those that describe both. -/
theorem exists_merge (ns : NodeTypes) (x : Yield) (busy : y ≠ .nothing) :
    ∃ w, merge ns (some x) y = some w ∧
      ∀ v : Yield, v.Describes ns w ↔ v.Describes ns x ∧ v.Describes ns y := by
  have apart (differ : merge ns (some x) y = some .nothing)
      (none : ∀ v : Yield, v.Describes ns x → ¬v.Describes ns y) :
      ∃ w, merge ns (some x) y = some w ∧
        ∀ v : Yield, v.Describes ns w ↔ v.Describes ns x ∧ v.Describes ns y :=
    ⟨_, differ, fun v => ⟨nofun, fun ⟨h, h'⟩ => absurd h' (none v h)⟩⟩
  cases x with
  | nothing =>
    refine apart ?_ nofun
    cases y <;> rfl
  | token =>
    cases y with
    | nothing => exact absurd rfl busy
    | token => exact ⟨.token, rfl, fun v => (and_self_iff).symm⟩
    | node b =>
      refine apart rfl fun v h h' => ?_
      cases h
      cases h'
  | node a =>
    cases y with
    | nothing => exact absurd rfl busy
    | token =>
      refine apart rfl fun v h h' => ?_
      cases h'
      cases h
    | node b =>
      cases meet : ns.commonAncestor a b with
      | none =>
        refine apart (by simp [merge, meet]) fun v h h' => ?_
        obtain ⟨c, above, rfl⟩ := describes_node_iff.mp h
        cases h' with
        | node above' =>
          obtain ⟨d, found⟩ := NodeTypes.exists_commonAncestor above above'
          cases meet.symm.trans found
      | some d =>
        refine ⟨.node d, by simp [merge, meet], fun v => ?_⟩
        cases v with
        | node c =>
          simpa [describes_node_iff] using NodeTypes.mem_ancestry_iff_of_commonAncestor meet
        | token | nothing => simp [describes_node_iff]

/-- **A merge is the least yield above its parts.** -/
theorem merge_below_iff :
    Below ns (merge ns sofar y) z ↔ Below ns sofar z ∧ Below ns y.contribution z := by
  by_cases idle : y = .nothing
  · subst idle
    rw [merge_nothing]
    exact ⟨fun below => ⟨below, .start z⟩, And.left⟩
  rw [contribution_of_ne_nothing idle]
  cases sofar with
  | none =>
    rw [merge_none idle]
    exact ⟨fun below => ⟨.start z, below⟩, And.right⟩
  | some x =>
    obtain ⟨w, merged, both⟩ := exists_merge ns x idle
    rw [merged]
    by_cases top : z = some .nothing
    · subst top
      exact ⟨fun _ => ⟨.conflict _, .conflict _⟩, fun _ => .conflict _⟩
    · rw [below_some_iff top, below_some_iff top, below_some_iff top]
      constructor
      · rintro ⟨v, hv, describes⟩
        obtain ⟨left, right⟩ := (both v).mp describes
        exact ⟨⟨v, hv, left⟩, v, hv, right⟩
      · rintro ⟨⟨v, rfl, left⟩, _, same, right⟩
        cases same
        exact ⟨v, rfl, (both v).mpr ⟨left, right⟩⟩

/-- **What branches yield together is the least yield above all of theirs.** -/
theorem foldl_merge_below_iff :
    Below ns (ys.foldl (merge ns) sofar) z ↔
      Below ns sofar z ∧ ∀ y ∈ ys, Below ns y.contribution z := by
  induction ys generalizing sofar with
  | nil => simp
  | cons y ys ih => rw [List.foldl_cons, ih, merge_below_iff, List.forall_mem_cons, and_assoc]

/-- What a choice yields is true of what each branch yields. -/
theorem getD_foldl_merge_describes
    (busy : (ys.foldl (merge ns) sofar).getD .nothing ≠ .nothing) (h : y ∈ ys)
    (proper : y ≠ .nothing) : ((ys.foldl (merge ns) sofar).getD .nothing).Describes ns y := by
  have below := (foldl_merge_below_iff.mp (Below.refl ns (ys.foldl (merge ns) sofar))).2 y h
  rw [contribution_of_ne_nothing proper] at below
  cases merged : ys.foldl (merge ns) sofar with
  | none => simp [merged] at busy
  | some z =>
    rw [merged] at below busy
    exact below.describes_of_ne_nothing busy

/-- **The order of branches does not matter, nor do repetitions.** -/
theorem foldl_merge_congr (same : ∀ y, y ∈ ys ↔ y ∈ zs) :
    ys.foldl (merge ns) sofar = zs.foldl (merge ns) sofar := by
  have le {ys zs : List Yield} (sub : ∀ y ∈ ys, y ∈ zs) :
      Below ns (ys.foldl (merge ns) sofar) (zs.foldl (merge ns) sofar) := by
    have bound := foldl_merge_below_iff.mp (Below.refl ns (zs.foldl (merge ns) sofar))
    exact foldl_merge_below_iff.mpr ⟨bound.1, fun y hy => bound.2 y (sub y hy)⟩
  exact (le fun y => (same y).mp).antisymm (le fun y => (same y).mpr)

end Yield

end Unparsing
