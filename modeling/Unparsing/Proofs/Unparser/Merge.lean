import Unparsing.Proofs.Unparser.Compatible

/-!
# Proofs/Unparser/Merge — combining unparsers finds the least one that covers them

What two compatible occurrences make covers both, and whatever covers both covers it.  Occurrences
that anything covers are compatible.  So combining covers what it combines (`combine_ok`), and it
succeeds, with the least such unparser, as soon as anything covers both (`combine_of_bound`).
Neither fact mentions an order of the operands, and both pass to whole lists of occurrences
(`foldlM_combine_ok`, `foldlM_combine_of_bound`).
-/

namespace Unparsing

variable {lex : Lexicon} {t t' : TokenTable} {ρ : TokenId → TokenId → Prop}

/-! ## Runs -/

theorem TokenRun.map_text_eq_of_common {a b c : TokenRun}
    (hb : List.Forall₂ (t'.SameText t) a b) (hc : List.Forall₂ (t'.SameText t) a c) :
    b.map t.text = c.map t.text :=
  (forall₂_sameText_iff.mp hb).symm.trans (forall₂_sameText_iff.mp hc)

/-! ## Fields -/

namespace FieldUnparser

variable {u a b : FieldUnparser}

/-- **What two occurrences of a field make** covers both. -/
theorem Compatible.merge_covers (h : a.Compatible t b) :
    (a.merge b).Covers (t.SameText t) a ∧ (a.merge b).Covers (t.SameText t) b := by
  have refl (f : FieldUnparser) : f.Covers (t.SameText t) f := .refl t.sameText_refl f
  cases ha : a.alwaysAbsent with
  | true =>
    rw [merge_of_absent ha]
    exact ⟨⟨h.node.symm, h.field.symm, by simp [ha], by simp [ha], by simp [ha]⟩, refl b⟩
  | false =>
    rw [merge_of_shown ha]
    exact ⟨refl a, h.node, h.field, fun _ => ha,
      fun hb => TokenRun.forall₂_sameText_iff.mpr (h.pre ha hb),
      fun hb => TokenRun.forall₂_sameText_iff.mpr (h.post ha hb)⟩

theorem compatible_of_covers (ha : u.Covers (t'.SameText t) a) (hb : u.Covers (t'.SameText t) b) :
    a.Compatible t b where
  node := ha.node.symm.trans hb.node
  field := ha.field.symm.trans hb.field
  pre shown shown' := TokenRun.map_text_eq_of_common (ha.pre shown) (hb.pre shown')
  post shown shown' := TokenRun.map_text_eq_of_common (ha.post shown) (hb.post shown')

theorem Covers.merge (ha : u.Covers ρ a) (hb : u.Covers ρ b) : u.Covers ρ (a.merge b) := by
  obtain same | same := a.merge_mem b
  · rwa [same]
  · rwa [same]

end FieldUnparser

/-! ## Nodes with fields -/

namespace RegularUnparser

variable {ns : NodeTypes} {u a b : RegularUnparser}

theorem merge_fields_covers {as bs : List FieldUnparser}
    (h : List.Forall₂ (FieldUnparser.Compatible t) as bs) :
    List.Forall₂ (FieldUnparser.Covers (t.SameText t)) (as.zipWith FieldUnparser.merge bs) as ∧
      List.Forall₂ (FieldUnparser.Covers (t.SameText t)) (as.zipWith FieldUnparser.merge bs)
        bs := by
  induction h with
  | nil => exact ⟨.nil, .nil⟩
  | cons first _ ih =>
    obtain ⟨left, right⟩ := first.merge_covers
    exact ⟨.cons left ih.1, .cons right ih.2⟩

/-- **What two occurrences of a node with fields make** covers both. -/
theorem Compatible.merge_covers (h : a.Compatible t b) :
    (a.merge b).Covers (t.SameText t) a ∧ (a.merge b).Covers (t.SameText t) b := by
  obtain ⟨left, right⟩ := merge_fields_covers h.fields
  have run (r : TokenRun) : List.Forall₂ (t.SameText t) r r :=
    TokenRun.forall₂_sameText_iff.mpr rfl
  exact ⟨⟨rfl, run _, left, TokenRun.forall₂_forall₂_sameText_iff.mpr rfl, run _⟩,
    ⟨h.node, TokenRun.forall₂_sameText_iff.mpr h.pre, right,
      TokenRun.forall₂_forall₂_sameText_iff.mpr h.inter,
      TokenRun.forall₂_sameText_iff.mpr h.post⟩⟩

theorem compatible_of_covers (ha : u.Covers (t'.SameText t) a) (hb : u.Covers (t'.SameText t) b) :
    a.Compatible t b where
  node := ha.node.symm.trans hb.node
  pre := TokenRun.map_text_eq_of_common ha.pre hb.pre
  fields := forall₂_comp (R := fun x u => u.Covers (t'.SameText t) x)
    (S := FieldUnparser.Covers (t'.SameText t)) (Q := FieldUnparser.Compatible t)
    (fun _ _ _ => FieldUnparser.compatible_of_covers) ha.fields.flip hb.fields
  inter := (TokenRun.forall₂_forall₂_sameText_iff.mp ha.inter).symm.trans
    (TokenRun.forall₂_forall₂_sameText_iff.mp hb.inter)
  post := TokenRun.map_text_eq_of_common ha.post hb.post

theorem covers_merge_fields {us as bs : List FieldUnparser}
    (ha : List.Forall₂ (FieldUnparser.Covers ρ) us as)
    (hb : List.Forall₂ (FieldUnparser.Covers ρ) us bs) :
    List.Forall₂ (FieldUnparser.Covers ρ) us (as.zipWith FieldUnparser.merge bs) := by
  induction ha generalizing bs with
  | nil => exact .nil
  | cons first _ ih =>
    cases hb with
    | cons first' rest' => exact .cons (first.merge first') (ih rest')

theorem Covers.merge (ha : u.Covers ρ a) (hb : u.Covers ρ b) : u.Covers ρ (a.merge b) :=
  ⟨ha.node, ha.pre, covers_merge_fields ha.fields hb.fields, ha.inter, ha.post⟩

/-- What two occurrences make has the shape of both. -/
theorem WellShaped.merge (ha : a.WellShaped ns) (hb : b.WellShaped ns) (h : a.Compatible t b) :
    (a.merge b).WellShaped ns where
  fields := by
    have names : (a.merge b).fields.map (·.field) = a.fields.map (·.field) := by
      rw [← List.forall₂_eq_eq_eq, List.forall₂_map_left_iff, List.forall₂_map_right_iff]
      exact (merge_fields_covers h.fields).1.imp fun _ _ covers => covers.field
    exact names.trans ha.fields
  node f hf := by
    obtain hf | hf := mem_fields_merge hf
    · exact ha.node f hf
    · exact (hb.node f hf).trans h.node.symm
  inter := (ha.tidy.merge hb.tidy h).inter
  bare := (ha.tidy.merge hb.tidy h).bare

end RegularUnparser

/-! ## Nodes -/

namespace NodeUnparser

variable {ns : NodeTypes} {a b c u : NodeUnparser}

/-- **What two occurrences of a node type make** covers both. -/
theorem Compatible.merge_covers (h : a.Compatible t b) (na : a.isNull = false)
    (nb : b.isNull = false) :
    (a.merge b).Covers (t.SameText t) a ∧ (a.merge b).Covers (t.SameText t) b := by
  have refl (v : NodeUnparser) : v.Covers (t.SameText t) v := .refl t.sameText_refl v
  cases h with
  | nullLeft => cases na
  | nullRight => cases nb
  | regular h => exact ⟨.regular h.merge_covers.1, .regular h.merge_covers.2⟩
  | list same => exact ⟨refl _, .list (TokenId.optionRel_sameText_iff.mpr same)⟩
  | tokenNode => exact ⟨refl _, refl _⟩

theorem compatible_of_covers (ha : u.Covers (t'.SameText t) a) (hb : u.Covers (t'.SameText t) b) :
    a.Compatible t b := by
  cases ha with
  | null => exact .nullLeft _ b
  | regular ha =>
    cases hb with
    | null => exact .nullRight _ _
    | regular hb => exact .regular (RegularUnparser.compatible_of_covers ha hb)
  | list ha =>
    cases hb with
    | null => exact .nullRight _ _
    | list hb =>
      rw [TokenId.optionRel_sameText_iff] at ha hb
      exact .list (ha.symm.trans hb)
  | tokenNode node =>
    cases hb with
    | null => exact .nullRight _ _
    | tokenNode => exact .tokenNode node

theorem Covers.merge (ha : u.Covers ρ a) (hb : u.Covers ρ b) : u.Covers ρ (a.merge b) := by
  cases ha with
  | null => rwa [merge_null_left]
  | regular ha =>
    cases hb with
    | null => exact .regular ha
    | regular hb => exact .regular (ha.merge hb)
  | list ha => exact .list ha
  | tokenNode node => exact .tokenNode node

theorem hides_merge (h : a.Compatible t b) (na : a.isNull = false) (nb : b.isNull = false)
    (i : Nat) : (a.merge b).hides i = (a.hides i && b.hides i) := by
  cases h with
  | nullLeft => cases na
  | nullRight => cases nb
  | list | tokenNode => rfl
  | @regular x y =>
    simp only [merge, hides, RegularUnparser.merge, List.getElem?_zipWith]
    cases x.fields[i]? with
    | none => rfl
    | some f =>
      cases y.fields[i]? with
      | none => exact (Bool.and_false _).symm
      | some f' => exact f.alwaysAbsent_merge f'

/-- What two occurrences make has the shape of both. -/
theorem WellShaped.merge (ha : a.WellShaped ns) (hb : b.WellShaped ns) (h : a.Compatible t b) :
    (a.merge b).WellShaped ns := by
  cases h with
  | regular h => exact RegularUnparser.WellShaped.merge ha hb h
  | list | tokenNode => trivial
  | nullLeft node => rwa [merge_null_left]
  | nullRight _ node =>
    cases a with
    | regular => exact ha
    | list | tokenNode | null => trivial

/-- **What combining two occurrences of a node type makes** covers both, and has their shape; a
field of it is always absent if it is in both. -/
theorem combine_ok (ha : a.WellShaped ns) (hb : b.WellShaped ns) (na : a.isNull = false)
    (nb : b.isNull = false) (h : a.combine lex b = .ok c) :
    c.Covers (lex.tokens.SameText lex.tokens) a ∧ c.Covers (lex.tokens.SameText lex.tokens) b ∧
      c.WellShaped ns ∧ c.isNull = false ∧ ∀ i, c.hides i = (a.hides i && b.hides i) := by
  obtain ⟨compatible, rfl⟩ := (combine_eq_ok ha.tidy).mp h
  obtain ⟨left, right⟩ := compatible.merge_covers na nb
  refine ⟨left, right, ha.merge hb compatible, ?_, hides_merge compatible na nb⟩
  cases compatible with
  | nullLeft => cases na
  | nullRight => cases nb
  | regular | list | tokenNode => rfl

/-- **Two occurrences of a node type that something covers can be combined**, and it covers the
result. -/
theorem combine_of_bound (ha : u.Covers (t'.SameText lex.tokens) a)
    (hb : u.Covers (t'.SameText lex.tokens) b) :
    ∃ c, a.combine lex b = .ok c ∧ u.Covers (t'.SameText lex.tokens) c :=
  ⟨a.merge b, combine_of_compatible (compatible_of_covers ha hb), ha.merge hb⟩

/-! ## Lists of occurrences -/

/-- **What combining all occurrences of a node type makes** covers each of them, and has their
shape; a field of it is always absent if it is in all. -/
theorem foldlM_combine_ok {others : List NodeUnparser} {first : NodeUnparser}
    (shaped : ∀ v ∈ first :: others, v.WellShaped ns)
    (real : ∀ v ∈ first :: others, v.isNull = false)
    (h : others.foldlM (NodeUnparser.combine lex) first = .ok u) :
    (∀ v ∈ first :: others, u.Covers (lex.tokens.SameText lex.tokens) v) ∧ u.WellShaped ns ∧
      u.isNull = false ∧ ∀ i, u.hides i = (first :: others).all (·.hides i) := by
  induction others generalizing first with
  | nil =>
    cases h
    refine ⟨?_, shaped _ List.mem_cons_self, real _ List.mem_cons_self, by simp⟩
    simpa using Covers.refl lex.tokens.sameText_refl u
  | cons second others ih =>
    rw [List.foldlM_cons] at h
    obtain ⟨both, hboth, h⟩ := except_bind_eq_ok.mp h
    simp only [List.forall_mem_cons] at shaped real
    obtain ⟨left, right, hshaped, hreal, hides⟩ :=
      combine_ok shaped.1 shaped.2.1 real.1 real.2.1 hboth
    obtain ⟨covers, hu⟩ := ih (List.forall_mem_cons.mpr ⟨hshaped, shaped.2.2⟩)
      (List.forall_mem_cons.mpr ⟨hreal, real.2.2⟩) h
    simp only [List.forall_mem_cons] at covers ⊢
    exact ⟨⟨covers.1.trans left, covers.1.trans right, covers.2⟩, hu.1, hu.2.1,
      fun i => by simp [hu.2.2, hides, Bool.and_assoc]⟩

/-- **Occurrences that something covers can be combined, in any order**, and it covers the
result. -/
theorem foldlM_combine_of_bound {others : List NodeUnparser} {first : NodeUnparser}
    (h : ∀ v ∈ first :: others, u.Covers (t'.SameText lex.tokens) v) :
    ∃ c, others.foldlM (NodeUnparser.combine lex) first = .ok c ∧
      u.Covers (t'.SameText lex.tokens) c := by
  induction others generalizing first with
  | nil => exact ⟨first, rfl, h first List.mem_cons_self⟩
  | cons second others ih =>
    simp only [List.forall_mem_cons] at h
    obtain ⟨both, hboth, cover⟩ := combine_of_bound h.1 h.2.1
    obtain ⟨c, hc, hu⟩ := ih (List.forall_mem_cons.mpr ⟨cover, h.2.2⟩)
    exact ⟨c, by rw [List.foldlM_cons, hboth]; exact hc, hu⟩

end NodeUnparser

end Unparsing
