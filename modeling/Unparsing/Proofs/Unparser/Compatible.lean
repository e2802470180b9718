import Unparsing.Proofs.General.Computations
import Unparsing.Proofs.Token.Congruence
import Unparsing.Proofs.Unparser.Cover
import Unparsing.Proofs.Unparser.Shape

/-!
# Proofs/Unparser/Compatible — which unparsers can be combined

Two occurrences of a node type are *compatible* if they show no different texts in one place.  They
can be combined just then, and what they make (`merge`) is the first of them, with the fields of the
second where the first leaves a field out (`NodeUnparser.combine_eq_ok`).  What else there is to say
of combining is said of `Compatible` and `merge`.
-/

namespace Unparsing

variable {lex : Lexicon} {t : TokenTable}

theorem TokenRun.checkEquivalent_eq_ok {role : String} {a b : TokenRun} :
    TokenRun.checkEquivalent t role a b = .ok () ↔ a.map t.text = b.map t.text :=
  checkEquivalent_eq_ok_iff.trans equivalent_iff_map_text_eq

theorem TokenTable.equivalent_iff_map_text_eq {a b : Option TokenId} :
    t.equivalent a b = true ↔ a.map t.text = b.map t.text := by
  cases a <;> cases b <;> simp [TokenTable.equivalent]

/-! ## Fields -/

namespace FieldUnparser

variable {a b c : FieldUnparser}

/-- Two occurrences of one field, with tokens of the same texts around it if both show it. -/
structure Compatible (t : TokenTable) (a b : FieldUnparser) : Prop where
  node : a.node = b.node
  field : a.field = b.field
  pre : a.alwaysAbsent = false → b.alwaysAbsent = false → a.pre.map t.text = b.pre.map t.text
  post : a.alwaysAbsent = false → b.alwaysAbsent = false → a.post.map t.text = b.post.map t.text

/-- The first of two occurrences of a field, unless it is always absent. -/
def merge (a b : FieldUnparser) : FieldUnparser := if a.alwaysAbsent then b else a

theorem merge_of_absent (absent : a.alwaysAbsent = true) : a.merge b = b := if_pos absent

theorem merge_of_shown (shown : a.alwaysAbsent = false) : a.merge b = a := by
  rw [merge, shown, if_neg Bool.false_ne_true]

/-- What is made of two occurrences of a field is one of them. -/
theorem merge_mem (a b : FieldUnparser) : a.merge b = a ∨ a.merge b = b := by
  cases ha : a.alwaysAbsent with
  | true => exact .inr (merge_of_absent ha)
  | false => exact .inl (merge_of_shown ha)

/-- A field is left out by both, or shown. -/
theorem alwaysAbsent_merge (a b : FieldUnparser) :
    (a.merge b).alwaysAbsent = (a.alwaysAbsent && b.alwaysAbsent) := by
  cases ha : a.alwaysAbsent with
  | true => rw [merge_of_absent ha, Bool.true_and]
  | false => rw [merge_of_shown ha, ha, Bool.false_and]

theorem Compatible.refl (t : TokenTable) (a : FieldUnparser) : a.Compatible t a :=
  ⟨rfl, rfl, fun _ _ => rfl, fun _ _ => rfl⟩

theorem Compatible.symm (h : a.Compatible t b) : b.Compatible t a :=
  ⟨h.node.symm, h.field.symm, fun hb ha => (h.pre ha hb).symm, fun hb ha => (h.post ha hb).symm⟩

theorem combine_of_compatible (h : a.Compatible lex.tokens b) :
    a.combine lex b = .ok (a.merge b) := by
  simp only [combine, h.node, h.field, bne_self_eq_false, Bool.or_self, Bool.false_eq_true,
    if_false]
  cases ha : a.alwaysAbsent with
  | true =>
    rw [merge_of_absent ha]
    rfl
  | false =>
    rw [merge_of_shown ha]
    cases hb : b.alwaysAbsent with
    | true => rfl
    | false =>
      simp only [TokenRun.checkEquivalent_eq_ok.mpr (h.pre ha hb),
        TokenRun.checkEquivalent_eq_ok.mpr (h.post ha hb)]
      rfl

theorem compatible_of_combine (h : a.combine lex b = .ok c) : a.Compatible lex.tokens b := by
  unfold combine at h
  split at h
  · cases h
  next same =>
  simp only [Bool.or_eq_true, bne_iff_ne, not_or, not_not] at same
  obtain ⟨node, field⟩ := same
  split at h
  next absent => exact ⟨node, field, by simp [absent], by simp [absent]⟩
  split at h
  next absent => exact ⟨node, field, by simp [absent], by simp [absent]⟩
  obtain ⟨⟨⟩, pre, h⟩ := except_bind_eq_ok.mp h
  obtain ⟨⟨⟩, post, -⟩ := except_bind_eq_ok.mp h
  rw [TokenRun.checkEquivalent_eq_ok] at pre post
  exact ⟨node, field, fun _ _ => pre, fun _ _ => post⟩

end FieldUnparser

/-! ## Nodes with fields -/

namespace RegularUnparser

variable {ns : NodeTypes} {a b c : RegularUnparser}

/-- Two occurrences of a node with fields, with tokens of the same texts before, between and after
their fields, and compatible ones in their places. -/
structure Compatible (t : TokenTable) (a b : RegularUnparser) : Prop where
  node : a.node = b.node
  pre : a.pre.map t.text = b.pre.map t.text
  fields : List.Forall₂ (FieldUnparser.Compatible t) a.fields b.fields
  inter : a.inter.map (·.map t.text) = b.inter.map (·.map t.text)
  post : a.post.map t.text = b.post.map t.text

/-- The first of two occurrences of a node with fields, with the fields of both. -/
def merge (a b : RegularUnparser) : RegularUnparser :=
  { a with fields := a.fields.zipWith FieldUnparser.merge b.fields }

/-- One run between any two fields, and no tokens around a field that is always absent. -/
structure Tidy (u : RegularUnparser) : Prop where
  inter : u.inter.length = u.fields.length - 1
  bare : ∀ f ∈ u.fields, f.Bare

theorem Tidy.inter_le (h : a.Tidy) : a.inter.length ≤ a.fields.length := h.inter ▸ Nat.sub_le _ _

theorem WellShaped.tidy (h : a.WellShaped ns) : a.Tidy := ⟨h.inter, h.bare⟩

/-- Every field of what is made of two unparsers comes from one of them. -/
theorem mem_fields_merge {f : FieldUnparser} (hf : f ∈ (a.merge b).fields) :
    f ∈ a.fields ∨ f ∈ b.fields := by
  rw [merge, ← List.map_uncurry_zip_eq_zipWith] at hf
  obtain ⟨⟨x, y⟩, hxy, rfl⟩ := List.mem_map.mp hf
  obtain ⟨hx, hy⟩ := List.of_mem_zip hxy
  rw [Function.uncurry_apply_pair]
  obtain same | same := x.merge_mem y
  · rw [same]
    exact .inl hx
  · rw [same]
    exact .inr hy

theorem Compatible.refl (t : TokenTable) (a : RegularUnparser) : a.Compatible t a :=
  ⟨rfl, rfl, List.forall₂_same.mpr fun f _ => .refl t f, rfl, rfl⟩

theorem Compatible.symm (h : a.Compatible t b) : b.Compatible t a :=
  ⟨h.node.symm, h.pre.symm, h.fields.flip.imp fun _ _ => .symm, h.inter.symm, h.post.symm⟩

/-- What two occurrences make is tidy if both are. -/
theorem Tidy.merge (ha : a.Tidy) (hb : b.Tidy) (h : a.Compatible t b) : (a.merge b).Tidy where
  inter := by simp [RegularUnparser.merge, ha.inter, h.fields.length_eq]
  bare f hf := (mem_fields_merge hf).elim (ha.bare f) (hb.bare f)

theorem combineFields_of_compatible {as bs : List FieldUnparser}
    (h : List.Forall₂ (FieldUnparser.Compatible lex.tokens) as bs) :
    combineFields lex as bs = .ok (as.zipWith FieldUnparser.merge bs) := by
  induction h with
  | nil => rfl
  | cons first _ ih =>
    simp only [combineFields, FieldUnparser.combine_of_compatible first, ih]
    rfl

theorem compatible_of_combineFields {as bs cs : List FieldUnparser}
    (length : as.length = bs.length) (h : combineFields lex as bs = .ok cs) :
    List.Forall₂ (FieldUnparser.Compatible lex.tokens) as bs := by
  induction as generalizing bs cs with
  | nil =>
    obtain rfl := List.length_eq_zero_iff.mp length.symm
    exact .nil
  | cons a as ih =>
    cases bs with
    | nil => simp at length
    | cons b bs =>
      obtain ⟨_, first, h⟩ := except_bind_eq_ok.mp h
      obtain ⟨_, rest, -⟩ := except_bind_eq_ok.mp h
      exact .cons (FieldUnparser.compatible_of_combine first) (ih (Nat.succ.inj length) rest)

/-- The runs after the fields are compared one by one, as long as there is a field before each. -/
theorem checkInter_eq_ok {fields : List FieldUnparser} {as bs : List TokenRun}
    (length : as.length = bs.length) :
    checkInter lex fields as bs = .ok () ↔
      (as.take fields.length).map (·.map lex.tokens.text) =
        (bs.take fields.length).map (·.map lex.tokens.text) := by
  induction fields generalizing as bs with
  | nil => simp [checkInter, pure, Except.pure]
  | cons f fields ih =>
    cases as with
    | nil =>
      obtain rfl := List.length_eq_zero_iff.mp length.symm
      simp [checkInter, pure, Except.pure]
    | cons a as =>
      cases bs with
      | nil => simp at length
      | cons b bs =>
        simp only [List.length_cons, List.take_succ_cons, List.map_cons, List.cons.injEq,
          ← ih (Nat.succ.inj length)]
        rw [checkInter, except_bind_eq_ok, Unique.exists_iff]
        exact and_congr_left' TokenRun.checkEquivalent_eq_ok

theorem combine_of_compatible (h : a.Compatible lex.tokens b) :
    a.combine lex b = .ok (a.merge b) := by
  have runs : a.inter.length = b.inter.length := by simpa using congrArg List.length h.inter
  have inter : checkInter lex a.fields a.inter b.inter = .ok () := by
    rw [checkInter_eq_ok runs, List.map_take, List.map_take, h.inter]
  simp only [combine, h.fields.length_eq, runs, bne_self_eq_false, Bool.or_self,
    Bool.false_eq_true, if_false, TokenRun.checkEquivalent_eq_ok.mpr h.pre, inter,
    TokenRun.checkEquivalent_eq_ok.mpr h.post, combineFields_of_compatible h.fields]
  rfl

theorem compatible_of_combine (node : a.node = b.node) (enough : a.inter.length ≤ a.fields.length)
    (h : a.combine lex b = .ok c) : a.Compatible lex.tokens b := by
  unfold combine at h
  split at h
  · cases h
  next lengths =>
  simp only [Bool.or_eq_true, bne_iff_ne, not_or, not_not] at lengths
  obtain ⟨width, runs⟩ := lengths
  obtain ⟨⟨⟩, pre, h⟩ := except_bind_eq_ok.mp h
  obtain ⟨⟨⟩, inter, h⟩ := except_bind_eq_ok.mp h
  obtain ⟨⟨⟩, post, h⟩ := except_bind_eq_ok.mp h
  obtain ⟨_, fields, -⟩ := except_bind_eq_ok.mp h
  rw [TokenRun.checkEquivalent_eq_ok] at pre post
  rw [checkInter_eq_ok runs, List.take_of_length_le enough,
    List.take_of_length_le (runs ▸ enough)] at inter
  exact ⟨node, pre, compatible_of_combineFields width fields, inter, post⟩

end RegularUnparser

/-! ## Nodes -/

theorem ListUnparser.combine_eq_ok {x y z : ListUnparser} :
    x.combine lex y = .ok z ↔
      x.separator.map lex.tokens.text = y.separator.map lex.tokens.text ∧ z = x := by
  rw [← TokenTable.equivalent_iff_map_text_eq]
  refine except_eq_ok_iff (fun same => if_pos same) fun h => ?_
  unfold combine at h
  split at h
  next same => exact same
  next => cases h

namespace NodeUnparser

variable {ns : NodeTypes} {a b c : NodeUnparser}

/-- Two occurrences of one form that show no different texts in one place.  An absent node is
compatible with anything. -/
inductive Compatible (t : TokenTable) : NodeUnparser → NodeUnparser → Prop
  | regular {a b : RegularUnparser} : a.Compatible t b → Compatible t (.regular a) (.regular b)
  | list {node : NodeId} {a b : Option TokenId} : a.map t.text = b.map t.text →
      Compatible t (.list ⟨node, a⟩) (.list ⟨node, b⟩)
  | tokenNode (node : NodeId) : Compatible t (.tokenNode node) (.tokenNode node)
  | nullLeft (node : NodeId) (u : NodeUnparser) : Compatible t (.null node) u
  | nullRight (u : NodeUnparser) (node : NodeId) : Compatible t u (.null node)

/-- The first of two occurrences, with the fields of both.  An absent node counts for nothing. -/
def merge : NodeUnparser → NodeUnparser → NodeUnparser
  | null _, b => b
  | regular a, regular b => regular (a.merge b)
  | a, _ => a

/-- The form of the parts that combining relies on: only nodes with fields have parts. -/
def Tidy : NodeUnparser → Prop
  | regular u => u.Tidy
  | list _ | tokenNode _ | null _ => True

theorem WellShaped.tidy (h : a.WellShaped ns) : a.Tidy := by
  cases a with
  | regular => exact RegularUnparser.WellShaped.tidy h
  | list | tokenNode | null => trivial

@[simp] theorem merge_null_left (node : NodeId) (u : NodeUnparser) : (null node).merge u = u := by
  cases u <;> rfl

theorem Compatible.refl (t : TokenTable) (a : NodeUnparser) : a.Compatible t a := by
  cases a with
  | regular a => exact .regular (.refl t a)
  | list => exact .list rfl
  | tokenNode node => exact .tokenNode node
  | null node => exact .nullLeft node _

theorem Compatible.symm (h : a.Compatible t b) : b.Compatible t a := by
  cases h with
  | regular h => exact .regular h.symm
  | list same => exact .list same.symm
  | tokenNode node => exact .tokenNode node
  | nullLeft node => exact .nullRight b node
  | nullRight _ node => exact .nullLeft node a

theorem combine_of_compatible (h : a.Compatible lex.tokens b) :
    a.combine lex b = .ok (a.merge b) := by
  cases h with
  | regular h =>
    simp only [combine, h.node, if_true, RegularUnparser.combine_of_compatible h]
    rfl
  | @list node x y same =>
    have both : ListUnparser.combine lex ⟨node, x⟩ ⟨node, y⟩ = .ok ⟨node, x⟩ :=
      ListUnparser.combine_eq_ok.mpr ⟨same, rfl⟩
    simp only [combine, if_true, both]
    rfl
  | tokenNode => exact if_pos rfl
  | nullLeft node => rw [combine_null_left, merge_null_left]
  | nullRight => cases a <;> rfl

theorem compatible_of_combine (tidy : a.Tidy) (h : a.combine lex b = .ok c) :
    a.Compatible lex.tokens b := by
  cases a with
  | null node => exact .nullLeft node b
  | regular x =>
    cases b with
    | null node => exact .nullRight _ node
    | list | tokenNode => cases h
    | regular y =>
      simp only [combine] at h
      split at h
      next node =>
        obtain ⟨_, both, -⟩ := except_map_eq_ok.mp h
        exact .regular (RegularUnparser.compatible_of_combine node
          (RegularUnparser.Tidy.inter_le tidy) both)
      next => cases h
  | list x =>
    cases b with
    | null node => exact .nullRight _ node
    | regular | tokenNode => cases h
    | list y =>
      simp only [combine] at h
      split at h
      next node =>
        obtain ⟨_, both, -⟩ := except_map_eq_ok.mp h
        obtain ⟨same, -⟩ := ListUnparser.combine_eq_ok.mp both
        obtain ⟨xn, xs⟩ := x
        obtain ⟨yn, ys⟩ := y
        obtain rfl : xn = yn := node
        exact .list same
      next => cases h
  | tokenNode x =>
    cases b with
    | null node => exact .nullRight _ node
    | regular | list => cases h
    | tokenNode y =>
      simp only [combine] at h
      split at h
      next node =>
        subst node
        exact .tokenNode x
      next => cases h

/-- **Two occurrences of a node type can be combined** just if they are compatible, and make what
`merge` says. -/
theorem combine_eq_ok (tidy : a.Tidy) :
    a.combine lex b = .ok c ↔ a.Compatible lex.tokens b ∧ c = a.merge b :=
  except_eq_ok_iff combine_of_compatible (compatible_of_combine tidy)

end NodeUnparser

end Unparsing
