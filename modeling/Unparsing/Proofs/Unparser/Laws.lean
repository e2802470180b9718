import Unparsing.Proofs.Unparser.Compatible

/-!
# Proofs/Unparser/Laws — merging is a partial commutative monoid

A third occurrence is compatible with what two make just if it is with both
(`NodeUnparser.compatible_merge`), so several can be combined just if any two of them can
(`NodeUnparser.foldlM_combine_eq_ok`).  Exchanging two of them changes the numbers of tokens, but
not their texts (`NodeUnparser.merge_comm`), and so does any other order
(`NodeUnparser.foldl_merge_perm`).
-/

namespace Unparsing

variable {lex : Lexicon} {t : TokenTable}

/-! ## Fields -/

namespace FieldUnparser

variable {a b c a' b' : FieldUnparser}

/-- A third occurrence is compatible with what two make just if it is with both. -/
theorem compatible_merge (h : a.Compatible t b) :
    (a.merge b).Compatible t c ↔ a.Compatible t c ∧ b.Compatible t c := by
  cases ha : a.alwaysAbsent with
  | true =>
    rw [merge_of_absent ha]
    refine ⟨fun hbc => ⟨⟨?_, ?_, by simp [ha], by simp [ha]⟩, hbc⟩, And.right⟩
    · exact h.node.trans hbc.node
    · exact h.field.trans hbc.field
  | false =>
    rw [merge_of_shown ha]
    refine ⟨fun hac => ⟨hac, ?_, ?_, fun hb hc => ?_, fun hb hc => ?_⟩, And.left⟩
    · exact h.node.symm.trans hac.node
    · exact h.field.symm.trans hac.field
    · exact (h.pre ha hb).symm.trans (hac.pre ha hc)
    · exact (h.post ha hb).symm.trans (hac.post ha hc)

theorem merge_self (a : FieldUnparser) : a.merge a = a := ite_self a

theorem merge_assoc (a b c : FieldUnparser) : (a.merge b).merge c = a.merge (b.merge c) := by
  cases ha : a.alwaysAbsent with
  | true => rw [merge_of_absent ha, merge_of_absent ha]
  | false => rw [merge_of_shown ha, merge_of_shown ha, merge_of_shown ha]

/-- **Two occurrences of a field exchanged** make the same but for the numbers of tokens. -/
theorem merge_comm (h : a.Compatible t b) (ha : a.Bare) (hb : b.Bare) :
    (a.merge b).Alike (t.SameText t) (b.merge a) := by
  cases absent : a.alwaysAbsent with
  | true =>
    rw [merge_of_absent absent]
    cases absent' : b.alwaysAbsent with
    | true =>
      rw [merge_of_absent absent']
      obtain ⟨pre, post⟩ := ha absent
      obtain ⟨pre', post'⟩ := hb absent'
      exact ⟨h.node.symm, h.field.symm, absent'.trans absent.symm, by rw [pre, pre']; exact .nil,
        by rw [post, post']; exact .nil⟩
    | false =>
      rw [merge_of_shown absent']
      exact .refl t.sameText_refl b
  | false =>
    rw [merge_of_shown absent]
    cases absent' : b.alwaysAbsent with
    | true =>
      rw [merge_of_absent absent']
      exact .refl t.sameText_refl a
    | false =>
      rw [merge_of_shown absent']
      exact ⟨h.node, h.field, absent.trans absent'.symm,
        TokenRun.forall₂_sameText_iff.mpr (h.pre absent absent'),
        TokenRun.forall₂_sameText_iff.mpr (h.post absent absent')⟩

/-- Occurrences with other numbers of tokens make the same but for the numbers of tokens. -/
theorem merge_congr (ha : a.Alike (t.SameText t) a') (hb : b.Alike (t.SameText t) b') :
    (a.merge b).Alike (t.SameText t) (a'.merge b') := by
  cases absent : a.alwaysAbsent with
  | true => rwa [merge_of_absent absent, merge_of_absent (ha.alwaysAbsent.symm.trans absent)]
  | false => rwa [merge_of_shown absent, merge_of_shown (ha.alwaysAbsent.symm.trans absent)]

end FieldUnparser

/-! ## Nodes with fields -/

namespace RegularUnparser

variable {a b c a' b' : RegularUnparser}

theorem compatible_merge_fields {as bs cs : List FieldUnparser}
    (h : List.Forall₂ (FieldUnparser.Compatible t) as bs) :
    List.Forall₂ (FieldUnparser.Compatible t) (as.zipWith FieldUnparser.merge bs) cs ↔
      List.Forall₂ (FieldUnparser.Compatible t) as cs ∧
        List.Forall₂ (FieldUnparser.Compatible t) bs cs := by
  induction h generalizing cs with
  | nil => simp
  | cons first _ ih =>
    cases cs with
    | nil => simp
    | cons c cs =>
      simp only [List.zipWith_cons_cons, List.forall₂_cons, ih,
        FieldUnparser.compatible_merge first, and_and_and_comm]

/-- A third occurrence is compatible with what two make just if it is with both. -/
theorem compatible_merge (h : a.Compatible t b) :
    (a.merge b).Compatible t c ↔ a.Compatible t c ∧ b.Compatible t c := by
  constructor
  · intro hc
    obtain ⟨left, right⟩ := (compatible_merge_fields h.fields).mp hc.fields
    exact ⟨⟨hc.node, hc.pre, left, hc.inter, hc.post⟩,
      ⟨h.node.symm.trans hc.node, h.pre.symm.trans hc.pre, right, h.inter.symm.trans hc.inter,
        h.post.symm.trans hc.post⟩⟩
  · rintro ⟨left, right⟩
    have fields := (compatible_merge_fields h.fields).mpr ⟨left.fields, right.fields⟩
    exact ⟨left.node, left.pre, fields, left.inter, left.post⟩

theorem merge_self (a : RegularUnparser) : a.merge a = a := by
  have fields : a.fields.zipWith FieldUnparser.merge a.fields = a.fields := by
    rw [List.zipWith_self]
    simp [FieldUnparser.merge_self]
  rw [merge, fields]

theorem merge_assoc (a b c : RegularUnparser) : (a.merge b).merge c = a.merge (b.merge c) := by
  have fields (as bs cs : List FieldUnparser) :
      (as.zipWith FieldUnparser.merge bs).zipWith FieldUnparser.merge cs =
        as.zipWith FieldUnparser.merge (bs.zipWith FieldUnparser.merge cs) := by
    induction as generalizing bs cs with
    | nil => simp
    | cons a as ih => cases bs <;> cases cs <;> simp [FieldUnparser.merge_assoc, ih]
  simp only [merge, fields]

theorem merge_fields_comm {as bs : List FieldUnparser}
    (h : List.Forall₂ (FieldUnparser.Compatible t) as bs) (ha : ∀ f ∈ as, f.Bare)
    (hb : ∀ f ∈ bs, f.Bare) :
    List.Forall₂ (FieldUnparser.Alike (t.SameText t)) (as.zipWith FieldUnparser.merge bs)
      (bs.zipWith FieldUnparser.merge as) := by
  induction h with
  | nil => exact .nil
  | cons first _ ih =>
    rw [List.forall_mem_cons] at ha hb
    exact .cons (FieldUnparser.merge_comm first ha.1 hb.1) (ih ha.2 hb.2)

/-- **Two occurrences of a node with fields exchanged** make the same but for the numbers of
tokens. -/
theorem merge_comm (h : a.Compatible t b) (ha : a.Tidy) (hb : b.Tidy) :
    (a.merge b).Alike (t.SameText t) (b.merge a) where
  node := h.node
  pre := TokenRun.forall₂_sameText_iff.mpr h.pre
  fields := merge_fields_comm h.fields ha.bare hb.bare
  inter := TokenRun.forall₂_forall₂_sameText_iff.mpr h.inter
  post := TokenRun.forall₂_sameText_iff.mpr h.post

theorem merge_fields_congr {as as' bs bs' : List FieldUnparser}
    (ha : List.Forall₂ (FieldUnparser.Alike (t.SameText t)) as as')
    (hb : List.Forall₂ (FieldUnparser.Alike (t.SameText t)) bs bs') :
    List.Forall₂ (FieldUnparser.Alike (t.SameText t)) (as.zipWith FieldUnparser.merge bs)
      (as'.zipWith FieldUnparser.merge bs') := by
  induction ha generalizing bs bs' with
  | nil => exact .nil
  | cons first _ ih =>
    cases hb with
    | nil => exact .nil
    | cons first' rest' => exact .cons (FieldUnparser.merge_congr first first') (ih rest')

/-- Occurrences with other numbers of tokens make the same but for the numbers of tokens. -/
theorem merge_congr (ha : a.Alike (t.SameText t) a') (hb : b.Alike (t.SameText t) b') :
    (a.merge b).Alike (t.SameText t) (a'.merge b') :=
  ⟨ha.node, ha.pre, merge_fields_congr ha.fields hb.fields, ha.inter, ha.post⟩

end RegularUnparser

/-! ## Nodes -/

namespace NodeUnparser

variable {a b c a' b' u : NodeUnparser} {node : NodeId}

/-- **A third occurrence is compatible with what two make** just if it is with both. -/
theorem compatible_merge (h : a.Compatible t b) :
    (a.merge b).Compatible t c ↔ a.Compatible t c ∧ b.Compatible t c := by
  cases h with
  | nullLeft node =>
    rw [merge_null_left]
    exact (and_iff_right (.nullLeft node c)).symm
  | nullRight _ node =>
    cases a with
    | null node' => exact (and_iff_right (.nullLeft node' c)).symm
    | regular | list | tokenNode => exact (and_iff_left (.nullLeft node c)).symm
  | regular h =>
    cases c with
    | null node => exact iff_of_true (.nullRight _ node) ⟨.nullRight _ node, .nullRight _ node⟩
    | list | tokenNode => exact iff_of_false nofun nofun
    | regular z =>
      constructor
      · rintro ⟨hc⟩
        obtain ⟨left, right⟩ := (RegularUnparser.compatible_merge h).mp hc
        exact ⟨.regular left, .regular right⟩
      · rintro ⟨⟨left⟩, ⟨right⟩⟩
        exact .regular ((RegularUnparser.compatible_merge h).mpr ⟨left, right⟩)
  | list same =>
    refine ⟨fun hc => ⟨hc, ?_⟩, And.left⟩
    cases hc with
    | list same' => exact .list (same.symm.trans same')
    | nullRight _ node => exact .nullRight _ node
  | tokenNode node => exact (and_self_iff).symm

theorem merge_self (a : NodeUnparser) : a.merge a = a := by
  cases a with
  | regular a => exact congrArg regular a.merge_self
  | list | tokenNode | null => rfl

/-- Merging compatible occurrences does not depend on where one begins. -/
theorem merge_assoc (hab : a.Compatible t b) (hbc : b.Compatible t c) :
    (a.merge b).merge c = a.merge (b.merge c) := by
  cases hab with
  | nullLeft node => rw [merge_null_left, merge_null_left]
  | nullRight _ node =>
    rw [merge_null_left]
    cases a <;> rfl
  | regular =>
    cases hbc with
    | regular => exact congrArg regular (RegularUnparser.merge_assoc _ _ _)
    | nullRight => rfl
  | list | tokenNode =>
    cases hbc <;> rfl

theorem Tidy.merge (ha : a.Tidy) (hb : b.Tidy) (h : a.Compatible t b) : (a.merge b).Tidy := by
  cases h with
  | regular h => exact RegularUnparser.Tidy.merge ha hb h
  | list | tokenNode => trivial
  | nullLeft node => rwa [merge_null_left]
  | nullRight _ node =>
    cases a with
    | regular => exact ha
    | list | tokenNode | null => trivial

theorem Compatible.node_merge (h : a.Compatible t b) (ha : a.node = node) (hb : b.node = node) :
    (a.merge b).node = node := by
  cases h with
  | nullLeft node => rwa [merge_null_left]
  | nullRight _ node =>
    cases a with
    | null => exact hb
    | regular | list | tokenNode => exact ha
  | regular | list | tokenNode => exact ha

/-- **Two occurrences of a node type exchanged** make the same but for the numbers of tokens. -/
theorem merge_comm (h : a.Compatible t b) (node : a.node = b.node) (ha : a.Tidy) (hb : b.Tidy) :
    (a.merge b).Alike (t.SameText t) (b.merge a) := by
  have refl (u : NodeUnparser) : u.Alike (t.SameText t) u := .refl t.sameText_refl u
  cases h with
  | regular h => exact .regular (RegularUnparser.merge_comm h ha hb)
  | list same =>
    exact .list (TokenId.optionRel_sameText_iff.mpr same)
  | tokenNode => exact refl _
  | nullLeft =>
    cases b with
    | null =>
      cases node
      exact refl _
    | regular | list | tokenNode => exact refl _
  | nullRight =>
    cases a with
    | null =>
      cases node
      exact refl _
    | regular | list | tokenNode => exact refl _

/-- Occurrences with other numbers of tokens make the same but for the numbers of tokens. -/
theorem merge_congr (ha : a.Alike (t.SameText t) a') (hb : b.Alike (t.SameText t) b') :
    (a.merge b).Alike (t.SameText t) (a'.merge b') := by
  cases ha with
  | null node => rwa [merge_null_left, merge_null_left]
  | regular ha =>
    cases hb with
    | regular hb => exact .regular (RegularUnparser.merge_congr ha hb)
    | list | tokenNode | null => exact .regular ha
  | list same => exact .list same
  | tokenNode node => exact .tokenNode node

/-! ## Several occurrences -/

variable {us us' : List NodeUnparser}

/-- Any two of several occurrences are compatible just if the first two are, and what they make
takes their place. -/
theorem pairwise_cons_merge : (a :: b :: us).Pairwise (Compatible t) ↔
    a.Compatible t b ∧ (a.merge b :: us).Pairwise (Compatible t) := by
  simp only [List.pairwise_cons, List.forall_mem_cons, and_assoc]
  refine and_congr_right fun h => ?_
  simp only [compatible_merge h, forall_and, and_assoc]

/-- **Several occurrences can be combined** just if any two of them are compatible. -/
theorem foldlM_combine_eq_ok (tidy : ∀ v ∈ a :: us, v.Tidy) :
    us.foldlM (NodeUnparser.combine lex) a = .ok u ↔
      (a :: us).Pairwise (Compatible lex.tokens) ∧ u = us.foldl merge a := by
  induction us generalizing a with
  | nil => simp [pure, Except.pure, eq_comm]
  | cons b us ih =>
    simp only [List.forall_mem_cons] at tidy
    rw [List.foldlM_cons, except_bind_eq_ok, pairwise_cons_merge, List.foldl_cons, and_assoc]
    have rest (h : a.Compatible lex.tokens b) :=
      ih (List.forall_mem_cons.mpr ⟨tidy.1.merge tidy.2.1 h, tidy.2.2⟩)
    constructor
    · rintro ⟨_, both, run⟩
      obtain ⟨h, rfl⟩ := (combine_eq_ok tidy.1).mp both
      exact ⟨h, (rest h).mp run⟩
    · rintro ⟨h, run⟩
      exact ⟨_, (combine_eq_ok tidy.1).mpr ⟨h, rfl⟩, (rest h).mpr run⟩

theorem foldl_merge_congr (ha : a.Alike (t.SameText t) a') (us : List NodeUnparser) :
    (us.foldl merge a).Alike (t.SameText t) (us.foldl merge a') := by
  induction us generalizing a a' with
  | nil => exact ha
  | cons u us ih => exact ih (merge_congr ha (.refl t.sameText_refl u))

/-- **Occurrences in another order** make the same but for the numbers of tokens. -/
theorem foldl_merge_perm (perm : us.Perm us') (nodes : ∀ u ∈ a :: us, u.node = node)
    (tidy : ∀ u ∈ a :: us, u.Tidy) (compatible : (a :: us).Pairwise (Compatible t)) :
    (us.foldl merge a).Alike (t.SameText t) (us'.foldl merge a) := by
  induction perm generalizing a with
  | nil => exact .refl t.sameText_refl a
  | cons b _ ih =>
    obtain ⟨h, compatible⟩ := pairwise_cons_merge.mp compatible
    simp only [List.forall_mem_cons] at nodes tidy
    exact ih (List.forall_mem_cons.mpr ⟨h.node_merge nodes.1 nodes.2.1, nodes.2.2⟩)
      (List.forall_mem_cons.mpr ⟨tidy.1.merge tidy.2.1 h, tidy.2.2⟩) compatible
  | swap b c us =>
    simp only [List.pairwise_cons, List.forall_mem_cons] at nodes tidy compatible
    obtain ⟨⟨hac, hab, -⟩, ⟨hcb, -⟩, -⟩ := compatible
    refine foldl_merge_congr ?_ us
    rw [merge_assoc hac hcb, merge_assoc hab hcb.symm]
    refine merge_congr (.refl t.sameText_refl a) ?_
    exact merge_comm hcb (nodes.2.1.trans nodes.2.2.1.symm) tidy.2.1 tidy.2.2.1
  | @trans us us' us'' perm _ ih ih' =>
    have same := (List.Perm.cons a perm)
    refine (ih nodes tidy compatible).trans (ih' ?_ ?_ ?_)
    · exact fun u hu => nodes u (same.mem_iff.mpr hu)
    · exact fun u hu => tidy u (same.mem_iff.mpr hu)
    · exact (same.pairwise_iff Compatible.symm).mp compatible

end NodeUnparser

end Unparsing
