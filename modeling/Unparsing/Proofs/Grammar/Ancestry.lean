import Mathlib.Data.List.Infix
import Unparsing.Grammar.NodeType

/-!
# Proofs/Grammar/Ancestry — the forest of node types

A type has one base at most, so its ancestors form a chain: the ancestry of an ancestor is the rest
of the ancestry (`NodeTypes.ancestry_suffix`), and of two ancestors one derives from the other
(`NodeTypes.mem_ancestry_or`).  So two types meet as soon as anything is an ancestor of both
(`NodeTypes.exists_commonAncestor`), and two types that have descendants which meet, meet
themselves.  They meet in the closest of their common ancestors
(`NodeTypes.mem_ancestry_iff_of_commonAncestor`), since the numbers fall along the chain.  That
makes the common ancestor commutative and associative (`NodeTypes.commonAncestor_eq_some_iff`).
-/

namespace Unparsing

namespace NodeTypes

variable {ns : NodeTypes} {a b c d m n : NodeId}

/-- **The ancestry of an ancestor** is the rest of the ancestry. -/
theorem ancestry_suffix (h : b ∈ ns.ancestry a) : ns.ancestry b <:+ ns.ancestry a := by
  induction hr : a.raw using Nat.strongRecOn generalizing a with
  | ind r ih =>
    subst hr
    by_cases here : b = a
    · exact here ▸ List.suffix_refl _
    rw [ancestry] at h
    have above := List.mem_of_ne_of_mem here h
    split at above
    next base based =>
      split at above
      next lt =>
        rw [ancestry_of_base?_eq_some based lt]
        exact (ih base.raw lt above rfl).trans (List.suffix_cons a _)
      next => cases above
    next => cases above

theorem mem_ancestry_trans (h : b ∈ ns.ancestry a) (h' : c ∈ ns.ancestry b) : c ∈ ns.ancestry a :=
  (ancestry_suffix h).mem h'

/-- Of two ancestors of a type one is an ancestor of the other. -/
theorem mem_ancestry_or (ha : a ∈ ns.ancestry m) (hb : b ∈ ns.ancestry m) :
    b ∈ ns.ancestry a ∨ a ∈ ns.ancestry b := by
  obtain sub | sub := List.suffix_or_suffix_of_suffix (ancestry_suffix ha) (ancestry_suffix hb)
  · exact .inr (sub.mem (mem_ancestry_self ns a))
  · exact .inl (sub.mem (mem_ancestry_self ns b))

/-- The numbers fall along the ancestry of a type. -/
theorem pairwise_ancestry (ns : NodeTypes) (a : NodeId) :
    (ns.ancestry a).Pairwise fun b c => c.raw < b.raw := by
  induction hr : a.raw using Nat.strongRecOn generalizing a with
  | ind r ih =>
    subst hr
    rw [ancestry]
    split
    next base based =>
      split
      next lt =>
        have rest := ih base.raw lt base rfl
        refine List.pairwise_cons.mpr ⟨fun c hc => Nat.lt_of_le_of_lt ?_ lt, rest⟩
        rw [ancestry] at hc rest
        obtain rfl | above := List.mem_cons.mp hc
        · exact Nat.le_refl _
        · exact Nat.le_of_lt ((List.pairwise_cons.mp rest).1 c above)
      next => exact List.pairwise_singleton _ _
    next => exact List.pairwise_singleton _ _

theorem raw_le_of_mem_ancestry (h : b ∈ ns.ancestry a) : b.raw ≤ a.raw := by
  have falling := ns.pairwise_ancestry a
  rw [ancestry] at h falling
  obtain rfl | above := List.mem_cons.mp h
  · exact Nat.le_refl _
  · exact Nat.le_of_lt ((List.pairwise_cons.mp falling).1 b above)

/-- No two types derive from each other. -/
theorem eq_of_mem_ancestry (h : b ∈ ns.ancestry a) (h' : a ∈ ns.ancestry b) : a = b := by
  obtain ⟨a⟩ := a
  obtain ⟨b⟩ := b
  exact congrArg Index.mk (Nat.le_antisymm (raw_le_of_mem_ancestry h') (raw_le_of_mem_ancestry h))

/-- The common ancestor of two types is an ancestor of both. -/
theorem mem_ancestry_of_commonAncestor (h : ns.commonAncestor a b = some c) :
    c ∈ ns.ancestry a ∧ c ∈ ns.ancestry b :=
  ⟨List.mem_of_find?_eq_some h, by simpa using List.find?_some h⟩

/-- **Two types meet in the closest of their common ancestors**: the others are its ancestors. -/
theorem mem_ancestry_iff_of_commonAncestor (h : ns.commonAncestor a b = some d) :
    c ∈ ns.ancestry d ↔ c ∈ ns.ancestry a ∧ c ∈ ns.ancestry b := by
  obtain ⟨hda, hdb⟩ := mem_ancestry_of_commonAncestor h
  refine ⟨fun hc => ⟨mem_ancestry_trans hda hc, mem_ancestry_trans hdb hc⟩, fun ⟨hca, hcb⟩ => ?_⟩
  obtain ⟨-, nearer, farther, split, first⟩ := List.find?_eq_some_iff_append.mp h
  obtain below | above := mem_ancestry_or hca hda
  · -- `c` derives from `d`, and is not nearer to `a` than `d` is: they are the same
    have falling := ns.pairwise_ancestry a
    rw [split] at falling hca
    obtain near | far := List.mem_append.mp hca
    · exact absurd hcb (by simpa using first c near)
    · obtain rfl | far := List.mem_cons.mp far
      · exact mem_ancestry_self ns c
      · have less := (List.pairwise_cons.mp (List.pairwise_append.mp falling).2.1).1 c far
        exact absurd (raw_le_of_mem_ancestry below) (Nat.not_le.mpr less)
  · exact above

/-- **Two types have a common ancestor** as soon as anything is an ancestor of both. -/
theorem exists_commonAncestor (ha : c ∈ ns.ancestry a) (hb : c ∈ ns.ancestry b) :
    ∃ d, ns.commonAncestor a b = some d :=
  Option.isSome_iff_exists.mp (List.find?_isSome.mpr ⟨c, ha, by simpa using hb⟩)

/-- Two types have a common ancestor if types derived from them have. -/
theorem exists_commonAncestor_of_mem {m' : NodeId} (ha : a ∈ ns.ancestry m)
    (hb : b ∈ ns.ancestry m') (hc : c ∈ ns.ancestry m) (hc' : c ∈ ns.ancestry m') :
    ∃ d, ns.commonAncestor a b = some d := by
  obtain above | below := mem_ancestry_or ha hc
  · obtain above' | below' := mem_ancestry_or hb hc'
    · exact exists_commonAncestor above above'
    · exact exists_commonAncestor (mem_ancestry_trans above below') (mem_ancestry_self ns b)
  · obtain above' | below' := mem_ancestry_or hb hc'
    · exact exists_commonAncestor (mem_ancestry_self ns a) (mem_ancestry_trans above' below)
    · obtain under | above := mem_ancestry_or below below'
      · exact exists_commonAncestor under (mem_ancestry_self ns b)
      · exact exists_commonAncestor (mem_ancestry_self ns a) above

/-! ## Meeting

The ancestors of the type in which two types meet are those that they have in common, and a type is
determined by its ancestors.  So meeting is an intersection, and has the laws of one. -/

/-- **Two types meet in the type whose ancestors are their common ones.** -/
theorem commonAncestor_eq_some_iff : ns.commonAncestor a b = some d ↔
    ∀ c, c ∈ ns.ancestry d ↔ c ∈ ns.ancestry a ∧ c ∈ ns.ancestry b := by
  refine ⟨fun meet c => mem_ancestry_iff_of_commonAncestor meet, fun same => ?_⟩
  obtain ⟨ha, hb⟩ := (same d).mp (mem_ancestry_self ns d)
  obtain ⟨d', meet⟩ := exists_commonAncestor ha hb
  have above : d' ∈ ns.ancestry d := (same d').mpr (mem_ancestry_of_commonAncestor meet)
  have below : d ∈ ns.ancestry d' := (mem_ancestry_iff_of_commonAncestor meet).mpr ⟨ha, hb⟩
  rw [meet, eq_of_mem_ancestry below above]

theorem commonAncestor_eq_none_iff :
    ns.commonAncestor a b = none ↔ ∀ c ∈ ns.ancestry a, c ∉ ns.ancestry b := by
  simp [commonAncestor]

theorem commonAncestor_self (ns : NodeTypes) (a : NodeId) : ns.commonAncestor a a = some a :=
  commonAncestor_eq_some_iff.mpr fun _ => and_self_iff.symm

theorem commonAncestor_comm (ns : NodeTypes) (a b : NodeId) :
    ns.commonAncestor a b = ns.commonAncestor b a :=
  Option.ext fun d => by simp only [commonAncestor_eq_some_iff, and_comm]

/-- Three types meet in the type whose ancestors are common to all of them. -/
theorem bind_commonAncestor_eq_some_iff :
    (ns.commonAncestor a b).bind (ns.commonAncestor · c) = some d ↔
      ∀ m, m ∈ ns.ancestry d ↔ (m ∈ ns.ancestry a ∧ m ∈ ns.ancestry b) ∧ m ∈ ns.ancestry c := by
  rw [Option.bind_eq_some_iff]
  constructor
  · rintro ⟨e, meet, meet'⟩ m
    rw [mem_ancestry_iff_of_commonAncestor meet', mem_ancestry_iff_of_commonAncestor meet]
  · intro same
    obtain ⟨⟨ha, hb⟩, -⟩ := (same d).mp (mem_ancestry_self ns d)
    obtain ⟨e, meet⟩ := exists_commonAncestor ha hb
    refine ⟨e, meet, commonAncestor_eq_some_iff.mpr fun m => ?_⟩
    rw [same, mem_ancestry_iff_of_commonAncestor meet]

theorem commonAncestor_assoc (ns : NodeTypes) (a b c : NodeId) :
    (ns.commonAncestor a b).bind (ns.commonAncestor · c) =
      (ns.commonAncestor b c).bind (ns.commonAncestor a) := by
  have turned : (ns.commonAncestor b c).bind (ns.commonAncestor a) =
      (ns.commonAncestor b c).bind (ns.commonAncestor · a) :=
    congrArg _ (funext fun d => ns.commonAncestor_comm a d)
  rw [turned]
  refine Option.ext fun d => ?_
  rw [bind_commonAncestor_eq_some_iff, bind_commonAncestor_eq_some_iff]
  exact forall_congr' fun m => iff_congr Iff.rfl (by rw [and_assoc, and_comm])

end NodeTypes

end Unparsing
