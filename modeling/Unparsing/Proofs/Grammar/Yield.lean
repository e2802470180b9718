import Unparsing.Grammar.Yield
import Unparsing.Proofs.Grammar.Ancestry

/-!
# Proofs/Grammar/Yield — what a yield tells of results

A yield describes results: nodes of a type and of those that derive from it, or tokens.  The yields
of the branches of a choice are merged one after the other.  What is merged describes the results of
all branches (`Yield.foldl_merge_describesAll`), as long as any two of them have something in
common: then the closest common ancestor is found whatever the branches before have been merged to.
-/

namespace Unparsing

namespace Yield

variable {ns : NodeTypes}

/-- What is yielded is true of a result. -/
inductive Describes (ns : NodeTypes) : Yield → Yield → Prop
  | node {n m : NodeId} : n ∈ ns.ancestry m → Describes ns (.node n) (.node m)
  | token : Describes ns .token .token

/-- What is yielded is true of all results, and says nothing only if there are none. -/
structure DescribesAll (ns : NodeTypes) (y : Yield) (R : Yield → Prop) : Prop where
  each (r : Yield) : R r → y.Describes ns r
  exists_result : y ≠ .nothing → ∃ r, R r

/-- Any two results have something in common. -/
def Compatible (ns : NodeTypes) (R : Yield → Prop) : Prop :=
  ∀ r r', R r → R r' → ∃ y : Yield, y.Describes ns r ∧ y.Describes ns r'

variable {R S : Yield → Prop} {y : Yield}

theorem DescribesAll.congr (h : y.DescribesAll ns R) (same : ∀ r, S r ↔ R r) :
    y.DescribesAll ns S where
  each r hr := h.each r ((same r).mp hr)
  exists_result some := (h.exists_result some).imp fun r => (same r).mpr

theorem describesAll_nothing (none : ∀ r, ¬R r) : nothing.DescribesAll ns R where
  each r hr := absurd hr (none r)
  exists_result some := absurd rfl some

theorem DescribesAll.not_of_nothing (h : nothing.DescribesAll ns R) (r : Yield) : ¬R r :=
  fun hr => nomatch h.each r hr

theorem Describes.of_mem_ancestry {a d : NodeId} {r : Yield} (h : (Yield.node a).Describes ns r)
    (above : d ∈ ns.ancestry a) : (Yield.node d).Describes ns r := by
  cases h with
  | node below => exact .node (NodeTypes.mem_ancestry_trans below above)

/-- Two yields that are true of results with something in common meet. -/
theorem exists_merge_of_compatible {y z r r' : Yield} (hy : y.Describes ns r)
    (hz : z.Describes ns r') (common : ∃ x : Yield, x.Describes ns r ∧ x.Describes ns r') :
    ∃ x, merge ns (some y) z = some x ∧ x ≠ .nothing ∧
      (∀ r, y.Describes ns r → x.Describes ns r) ∧ ∀ r, z.Describes ns r → x.Describes ns r := by
  obtain ⟨x, hr, hr'⟩ := common
  cases hy with
  | token =>
    cases hr
    cases hr'
    cases hz
    exact ⟨.token, rfl, nofun, fun _ => id, fun _ => id⟩
  | @node a m above =>
    cases hr with
    | @node c _ hc =>
      cases hr' with
      | @node _ m' hc' =>
        cases hz with
        | @node b _ above' =>
          obtain ⟨d, meet⟩ := NodeTypes.exists_commonAncestor_of_mem above above' hc hc'
          obtain ⟨hda, hdb⟩ := NodeTypes.mem_ancestry_of_commonAncestor meet
          refine ⟨.node d, by simp [merge, meet], nofun, fun r h => ?_, fun r h => ?_⟩
          · exact h.of_mem_ancestry hda
          · exact h.of_mem_ancestry hdb

theorem merge_nothing (sofar : Option Yield) : merge ns sofar .nothing = sofar := by
  rcases sofar with _ | _ | _ | _ <;> rfl

theorem merge_none (busy : y ≠ .nothing) : merge ns none y = some y := by
  cases y with
  | nothing => exact absurd rfl busy
  | node | token => rfl

/-- **What a choice yields so far, merged with its next branch,** describes the results of both, if
they have something in common. -/
theorem merge_describesAll {sofar : Option Yield} {next : Yield} (proper : sofar ≠ some .nothing)
    (before : (sofar.getD .nothing).DescribesAll ns R) (after : next.DescribesAll ns S)
    (compatible : Compatible ns fun r => R r ∨ S r) :
    merge ns sofar next ≠ some .nothing ∧
      ((merge ns sofar next).getD .nothing).DescribesAll ns fun r => R r ∨ S r := by
  by_cases idle : next = .nothing
  · subst idle
    rw [merge_nothing]
    exact ⟨proper, before.congr fun r => or_iff_left (after.not_of_nothing r)⟩
  cases sofar with
  | none =>
    rw [merge_none idle]
    exact ⟨fun h => idle (Option.some.inj h),
      after.congr fun r => or_iff_right (before.not_of_nothing r)⟩
  | some y =>
    have before : y.DescribesAll ns R := before
    have busy : y ≠ .nothing := fun h => proper (congrArg some h)
    obtain ⟨r, hr⟩ := before.exists_result busy
    obtain ⟨r', hr'⟩ := after.exists_result idle
    obtain ⟨x, merged, some, left, right⟩ := exists_merge_of_compatible (before.each r hr)
      (after.each r' hr') (compatible r r' (.inl hr) (.inr hr'))
    rw [merged]
    refine ⟨fun h => some (Option.some.inj h), ⟨fun r h => ?_, fun _ => ⟨r, .inl hr⟩⟩⟩
    obtain h | h := h
    · exact left r (before.each r h)
    · exact right r (after.each r h)

/-- **What a choice yields** describes the results of all its branches, if they have something in
common. -/
theorem foldl_merge_describesAll {α : Type} {f : α → Yield} {T : α → Yield → Prop} {l : List α}
    {sofar : Option Yield} (proper : sofar ≠ some .nothing)
    (before : (sofar.getD .nothing).DescribesAll ns R)
    (each : ∀ a ∈ l, (f a).DescribesAll ns (T a))
    (compatible : Compatible ns fun r => R r ∨ ∃ a ∈ l, T a r) :
    (((l.map f).foldl (merge ns) sofar).getD .nothing).DescribesAll ns
      fun r => R r ∨ ∃ a ∈ l, T a r := by
  induction l generalizing sofar R with
  | nil => exact before.congr (by simp)
  | cons a l ih =>
    rw [List.forall_mem_cons] at each
    have regroup (r : Yield) : (R r ∨ ∃ b ∈ a :: l, T b r) ↔ (R r ∨ T a r) ∨ ∃ b ∈ l, T b r := by
      simp [or_assoc]
    simp only [regroup] at compatible ⊢
    obtain ⟨proper', merged⟩ := merge_describesAll proper before each.1
      fun r r' h h' => compatible r r' (.inl h) (.inl h')
    exact ih proper' merged each.2 compatible

/-! ## Tokens -/

theorem token_of_merge {sofar : Option Yield} {next : Yield}
    (h : merge ns sofar next = some .token) : sofar = some .token ∨ next = .token := by
  unfold merge at h
  split at h
  · exact .inl h
  · exact .inr (Option.some.inj h)
  next a b =>
    cases meet : ns.commonAncestor a b with
    | none => simp [meet] at h
    | some d => simp [meet] at h
  · exact .inr rfl
  · cases h

/-- A choice yields tokens only if one of its branches does. -/
theorem token_of_foldl_merge {ys : List Yield} {sofar : Option Yield}
    (h : ys.foldl (merge ns) sofar = some .token) : sofar = some .token ∨ .token ∈ ys := by
  induction ys generalizing sofar with
  | nil => exact .inl h
  | cons y ys ih =>
    obtain merged | later := ih h
    · exact (token_of_merge merged).imp_right fun first => List.mem_cons.mpr (.inl first.symm)
    · exact .inr (List.mem_cons_of_mem y later)

end Yield

end Unparsing
