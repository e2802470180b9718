import Unparsing.Proofs.Unparser.Merge

/-!
# Proofs/Unparser/Tokens — the tokens that an unparser writes

An unparser that covers another writes every token that the other does
(`NodeUnparser.Covers.exists_mem_tokens`).  One that covers several, and hides a field only if all
of them do, writes nothing else (`NodeUnparser.exists_mem_tokens_of_covers`): combining the
occurrences of a node type neither loses a token nor makes one up.  Nor does it make up a run
(`NodeUnparser.mem_runs_of_foldlM_combine`).
-/

namespace Unparsing

variable {ns : NodeTypes} {ρ : TokenId → TokenId → Prop} {i j : TokenId}

/-- A field with tokens around it is shown. -/
theorem FieldUnparser.Bare.shown {f : FieldUnparser} (h : f.Bare) (hi : i ∈ f.pre ∨ i ∈ f.post) :
    f.alwaysAbsent = false := by
  by_contra absent
  obtain ⟨pre, post⟩ := h (by simpa using absent)
  simp [pre, post] at hi

/-- The runs of a node with fields stand before, around, between and after the fields.  An empty one
stands for the run before the first field. -/
theorem RegularUnparser.WellShaped.mem_runs {u : RegularUnparser} (h : u.WellShaped ns)
    {r : TokenRun} : r ∈ u.runs ↔ r = u.pre ∨ (∃ f ∈ u.fields, r = f.pre ∨ r = f.post) ∨
      (u.fields ≠ [] ∧ r = [] ∨ r ∈ u.inter) ∨ r = u.post := by
  have inner : r ∈ u.zipFields.flatMap (fun slot => [slot.1.pre, slot.1.post, slot.2.getD []]) ↔
      (∃ f ∈ u.fields, r = f.pre ∨ r = f.post) ∨ (u.fields ≠ [] ∧ r = [] ∨ r ∈ u.inter) := by
    simp only [RegularUnparser.zipFields, List.mem_flatMap, List.mem_map, Prod.exists,
      List.mem_zipIdx_iff_getElem?, List.mem_cons, List.not_mem_nil, or_false]
    constructor
    · rintro ⟨f, inter, ⟨_, k, hk, same⟩, hr⟩
      cases same
      have hf := List.mem_of_getElem? hk
      obtain rfl | rfl | rfl := hr
      · exact .inl ⟨f, hf, .inl rfl⟩
      · exact .inl ⟨f, hf, .inr rfl⟩
      · have some : u.fields ≠ [] := List.ne_nil_of_mem hf
        split
        · exact .inr (.inl ⟨some, rfl⟩)
        · cases run : u.inter[k - 1]? with
          | none => exact .inr (.inl ⟨some, rfl⟩)
          | some r => exact .inr (.inr (List.mem_of_getElem? run))
    · rintro (⟨f, hf, hr⟩ | ⟨some, rfl⟩ | hr)
      · obtain ⟨k, hk⟩ := List.mem_iff_getElem?.mp hf
        exact ⟨f, _, ⟨f, k, hk, rfl⟩, hr.imp_right .inl⟩
      · obtain ⟨f, hf⟩ := List.exists_mem_of_ne_nil _ some
        have first : u.fields[0]? = u.fields.head? := (List.head?_eq_getElem?).symm
        rw [List.head?_eq_some_head some] at first
        exact ⟨u.fields.head some, none, ⟨_, 0, first, rfl⟩, .inr (.inr rfl)⟩
      · obtain ⟨k, hk⟩ := List.mem_iff_getElem?.mp hr
        have lt := (List.getElem?_eq_some_iff.mp hk).1
        have within : k + 1 < u.fields.length := by have := h.inter; omega
        exact ⟨u.fields[k + 1], u.inter[k]?, ⟨_, k + 1, List.getElem?_eq_getElem within, rfl⟩,
          .inr (.inr (by rw [hk]; rfl))⟩
  simp only [RegularUnparser.runs, List.mem_append, List.mem_singleton, or_assoc]
  rw [inner]
  simp only [or_assoc]

/-- The tokens of a node with fields stand before, around, between and after the fields. -/
theorem RegularUnparser.WellShaped.mem_tokens {u : RegularUnparser} (h : u.WellShaped ns) :
    i ∈ (NodeUnparser.regular u).tokens ↔ i ∈ u.pre ∨ (∃ f ∈ u.fields, i ∈ f.pre ∨ i ∈ f.post) ∨
      (∃ r ∈ u.inter, i ∈ r) ∨ i ∈ u.post := by
  simp only [NodeUnparser.tokens, List.mem_flatten, h.mem_runs]
  constructor
  · rintro ⟨r, rfl | ⟨f, hf, rfl | rfl⟩ | (⟨-, rfl⟩ | hr) | rfl, hi⟩
    · exact .inl hi
    · exact .inr (.inl ⟨f, hf, .inl hi⟩)
    · exact .inr (.inl ⟨f, hf, .inr hi⟩)
    · cases hi
    · exact .inr (.inr (.inl ⟨r, hr, hi⟩))
    · exact .inr (.inr (.inr hi))
  · rintro (hi | ⟨f, hf, hi | hi⟩ | ⟨r, hr, hi⟩ | hi)
    · exact ⟨_, .inl rfl, hi⟩
    · exact ⟨_, .inr (.inl ⟨f, hf, .inl rfl⟩), hi⟩
    · exact ⟨_, .inr (.inl ⟨f, hf, .inr rfl⟩), hi⟩
    · exact ⟨r, .inr (.inr (.inl (.inr hr))), hi⟩
    · exact ⟨_, .inr (.inr (.inr rfl)), hi⟩

namespace NodeUnparser

/-- **What covers an unparser writes all its tokens.** -/
theorem Covers.exists_mem_tokens {a b : NodeUnparser} (h : a.Covers ρ b) (ha : a.WellShaped ns)
    (hb : b.WellShaped ns) (hj : j ∈ b.tokens) : ∃ i ∈ a.tokens, ρ i j := by
  have run {r r' : TokenRun} (same : List.Forall₂ ρ r r') (hj : j ∈ r') : ∃ i ∈ r, ρ i j :=
    exists_mem_of_forall₂ same.flip hj
  cases h with
  | @regular a b h =>
    obtain hj | ⟨f, hf, hj⟩ | ⟨r, hr, hj⟩ | hj := hb.mem_tokens.mp hj
    · obtain ⟨i, hi, same⟩ := run h.pre hj
      exact ⟨i, ha.mem_tokens.mpr (.inl hi), same⟩
    · obtain ⟨f', hf', covers⟩ := exists_mem_of_forall₂ h.fields.flip hf
      have shown := (hb.bare f hf).shown hj
      obtain hj | hj := hj
      · obtain ⟨i, hi, same⟩ := run (covers.pre shown) hj
        exact ⟨i, ha.mem_tokens.mpr (.inr (.inl ⟨f', hf', .inl hi⟩)), same⟩
      · obtain ⟨i, hi, same⟩ := run (covers.post shown) hj
        exact ⟨i, ha.mem_tokens.mpr (.inr (.inl ⟨f', hf', .inr hi⟩)), same⟩
    · obtain ⟨r', hr', same⟩ := exists_mem_of_forall₂ h.inter.flip hr
      obtain ⟨i, hi, same⟩ := run same hj
      exact ⟨i, ha.mem_tokens.mpr (.inr (.inr (.inl ⟨r', hr', hi⟩))), same⟩
    · obtain ⟨i, hi, same⟩ := run h.post hj
      exact ⟨i, ha.mem_tokens.mpr (.inr (.inr (.inr hi))), same⟩
  | list same =>
    cases same with
    | none => cases hj
    | @some i _ same =>
      obtain rfl := List.mem_singleton.mp hj
      exact ⟨i, List.mem_singleton_self i, same⟩
  | tokenNode => cases hj
  | null => cases hj

/-- A form that covers an unparser of a node with fields is one of a node with fields, too. -/
theorem Covers.eq_regular {a : RegularUnparser} {d : NodeUnparser}
    (h : (NodeUnparser.regular a).Covers ρ d) (real : d.isNull = false) :
    ∃ b, d = NodeUnparser.regular b ∧ a.Covers ρ b := by
  cases h with
  | @regular _ b h => exact ⟨b, rfl, h⟩
  | null => cases real

/-- A field that is shown is so in one of the unparsers covered, if no other fields are hidden than
those that all of them hide. -/
theorem exists_shown_field {a : RegularUnparser} {us : List NodeUnparser} {f : FieldUnparser}
    (real : ∀ d ∈ us, d.isNull = false) (covers : ∀ d ∈ us, (regular a).Covers ρ d)
    (hides : ∀ k, (regular a).hides k = us.all (·.hides k)) (hf : f ∈ a.fields)
    (shown : f.alwaysAbsent = false) :
    ∃ b, regular b ∈ us ∧ ∃ f' ∈ b.fields, f'.alwaysAbsent = false ∧ f.Covers ρ f' := by
  obtain ⟨k, hk⟩ := List.mem_iff_getElem?.mp hf
  have visible : us.all (·.hides k) = false := by
    rw [← hides, NodeUnparser.hides, hk, Option.any_some, shown]
  obtain ⟨d, hd, seen⟩ := List.all_eq_false.mp visible
  obtain ⟨b, rfl, h⟩ := (covers d hd).eq_regular (real d hd)
  obtain ⟨lt, rfl⟩ := List.getElem?_eq_some_iff.mp hk
  have lt' : k < b.fields.length := h.fields.length_eq ▸ lt
  exact ⟨b, hd, b.fields[k], List.getElem_mem lt',
    by simpa [NodeUnparser.hides, lt'] using seen, h.fields.get lt lt'⟩

/-- **What covers several unparsers writes no other tokens**, if it hides the fields that all of
them hide. -/
theorem exists_mem_tokens_of_covers {a : NodeUnparser} {us : List NodeUnparser} (some : us ≠ [])
    (ha : a.WellShaped ns) (shaped : ∀ d ∈ us, d.WellShaped ns) (real : ∀ d ∈ us, d.isNull = false)
    (covers : ∀ d ∈ us, a.Covers ρ d) (hides : ∀ k, a.hides k = us.all (·.hides k))
    (hi : i ∈ a.tokens) : ∃ d ∈ us, ∃ j ∈ d.tokens, ρ i j := by
  obtain ⟨d, hd⟩ := List.exists_mem_of_ne_nil us some
  cases a with
  | regular a =>
    -- Any of the unparsers has the tokens of a run; those of a field, one that shows the field.
    obtain ⟨b, rfl, h⟩ := (covers d hd).eq_regular (real d hd)
    have hb : b.WellShaped ns := shaped _ hd
    obtain hi | ⟨f, hf, hi⟩ | ⟨r, hr, hi⟩ | hi := ha.mem_tokens.mp hi
    · obtain ⟨j, hj, same⟩ := exists_mem_of_forall₂ h.pre hi
      exact ⟨_, hd, j, hb.mem_tokens.mpr (.inl hj), same⟩
    · obtain ⟨b, hd, f', mem, shown, field⟩ :=
        exists_shown_field real covers hides hf ((ha.bare f hf).shown hi)
      have hb : b.WellShaped ns := shaped _ hd
      obtain hi | hi := hi
      · obtain ⟨j, hj, same⟩ := exists_mem_of_forall₂ (field.pre shown) hi
        exact ⟨_, hd, j, hb.mem_tokens.mpr (.inr (.inl ⟨f', mem, .inl hj⟩)), same⟩
      · obtain ⟨j, hj, same⟩ := exists_mem_of_forall₂ (field.post shown) hi
        exact ⟨_, hd, j, hb.mem_tokens.mpr (.inr (.inl ⟨f', mem, .inr hj⟩)), same⟩
    · obtain ⟨r', hr', same⟩ := exists_mem_of_forall₂ h.inter hr
      obtain ⟨j, hj, same⟩ := exists_mem_of_forall₂ same hi
      exact ⟨_, hd, j, hb.mem_tokens.mpr (.inr (.inr (.inl ⟨r', hr', hj⟩))), same⟩
    · obtain ⟨j, hj, same⟩ := exists_mem_of_forall₂ h.post hi
      exact ⟨_, hd, j, hb.mem_tokens.mpr (.inr (.inr (.inr hj))), same⟩
  | list a =>
    cases h : covers d hd with
    | list same =>
      cases same with
      | none => cases hi
      | @some _ j same =>
        obtain rfl := List.mem_singleton.mp hi
        exact ⟨_, hd, j, List.mem_singleton_self j, same⟩
    | null => cases real _ hd
  | tokenNode => cases hi
  | null => cases hi

end NodeUnparser

/-! ## Combined runs -/

variable {lex : Lexicon} {r : TokenRun}

namespace RegularUnparser

variable {a b : RegularUnparser}

/-- Two occurrences of a node with fields in one make up no runs. -/
theorem WellShaped.mem_runs_of_merge {t : TokenTable} (ha : a.WellShaped ns) (hb : b.WellShaped ns)
    (h : a.Compatible t b) (hr : r ∈ (a.merge b).runs) : r ∈ a.runs ∨ r ∈ b.runs := by
  obtain hr | ⟨f, hf, hr⟩ | (⟨some, rfl⟩ | hr) | hr := (ha.merge hb h).mem_runs.mp hr
  · exact .inl (ha.mem_runs.mpr (.inl hr))
  · obtain hf | hf := mem_fields_merge hf
    · exact .inl (ha.mem_runs.mpr (.inr (.inl ⟨f, hf, hr⟩)))
    · exact .inr (hb.mem_runs.mpr (.inr (.inl ⟨f, hf, hr⟩)))
  · have some' : a.fields ≠ [] := fun none => some (by simp [RegularUnparser.merge, none])
    exact .inl (ha.mem_runs.mpr (.inr (.inr (.inl (.inl ⟨some', rfl⟩)))))
  · exact .inl (ha.mem_runs.mpr (.inr (.inr (.inl (.inr hr)))))
  · exact .inl (ha.mem_runs.mpr (.inr (.inr (.inr hr))))

end RegularUnparser

namespace NodeUnparser

variable {a b c u : NodeUnparser}

/-- Combining two occurrences of a node type makes up no runs. -/
theorem mem_runs_of_combine (ha : a.WellShaped ns) (hb : b.WellShaped ns)
    (h : a.combine lex b = .ok c) (hr : r ∈ c.runs) : r ∈ a.runs ∨ r ∈ b.runs := by
  obtain ⟨compatible, rfl⟩ := (combine_eq_ok ha.tidy).mp h
  cases compatible with
  | regular compatible =>
    exact RegularUnparser.WellShaped.mem_runs_of_merge ha hb compatible hr
  | list | tokenNode => cases hr
  | nullLeft node => exact .inr (merge_null_left node b ▸ hr)
  | nullRight =>
    cases a with
    | regular => exact .inl hr
    | list | tokenNode | null => cases hr

/-- **Combining all occurrences of a node type makes up no runs**: each stood in one of them. -/
theorem mem_runs_of_foldlM_combine {others : List NodeUnparser} {first : NodeUnparser}
    (shaped : ∀ v ∈ first :: others, v.WellShaped ns)
    (real : ∀ v ∈ first :: others, v.isNull = false)
    (h : others.foldlM (NodeUnparser.combine lex) first = .ok u) (hr : r ∈ u.runs) :
    ∃ v ∈ first :: others, r ∈ v.runs := by
  induction others generalizing first with
  | nil =>
    cases h
    exact ⟨u, List.mem_singleton_self u, hr⟩
  | cons second others ih =>
    rw [List.foldlM_cons] at h
    obtain ⟨both, hboth, h⟩ := except_bind_eq_ok.mp h
    simp only [List.forall_mem_cons] at shaped real
    obtain ⟨-, -, hshaped, hreal, -⟩ := combine_ok shaped.1 shaped.2.1 real.1 real.2.1 hboth
    obtain ⟨v, hv, hr⟩ := ih (List.forall_mem_cons.mpr ⟨hshaped, shaped.2.2⟩)
      (List.forall_mem_cons.mpr ⟨hreal, real.2.2⟩) h
    obtain rfl | hv := List.mem_cons.mp hv
    · obtain hr | hr := mem_runs_of_combine shaped.1 shaped.2.1 hboth hr
      · exact ⟨first, List.mem_cons_self, hr⟩
      · exact ⟨second, List.mem_cons_of_mem _ List.mem_cons_self, hr⟩
    · exact ⟨v, List.mem_cons_of_mem _ (List.mem_cons_of_mem _ hv), hr⟩

end NodeUnparser

end Unparsing
