import Unparsing.Proofs.General.Lists
import Unparsing.Unparser.Node

/-!
# Proofs/Unparser/Cover — what one unparser shows of another

Unparsers of a node type are compared part by part, by a relation `ρ` on the tokens that stand in
the same place.

* `Alike ρ` — the same parts, tokens in the same places related by `ρ`.
* `Covers ρ` — the first shows all that the second does.  A field that is always absent shows
  nothing, and neither does an absent node: anything covers them.

`ρ` is mostly `TokenTable.SameText`, so that the unparsers are written alike.
-/

namespace Unparsing

/-- Two numbers, of two tables, whose tokens are written alike. -/
def TokenTable.SameText (t₁ t₂ : TokenTable) (i j : TokenId) : Prop := t₁.text i = t₂.text j

theorem TokenTable.sameText_refl (t : TokenTable) (i : TokenId) : t.SameText t i i := rfl

theorem TokenTable.SameText.trans {t₁ t₂ t₃ : TokenTable} {i j k : TokenId}
    (h : t₁.SameText t₂ i j) (h' : t₂.SameText t₃ j k) : t₁.SameText t₃ i k :=
  Eq.trans h h'

/-- Runs in step are written alike, one token after the other. -/
theorem TokenRun.forall₂_sameText_iff {t₁ t₂ : TokenTable} {a b : TokenRun} :
    List.Forall₂ (t₁.SameText t₂) a b ↔ a.map t₁.text = b.map t₂.text := by
  rw [← List.forall₂_eq_eq_eq, List.forall₂_map_left_iff, List.forall₂_map_right_iff]
  rfl

/-- Lists of runs in step are written alike, one run after the other. -/
theorem TokenRun.forall₂_forall₂_sameText_iff {t₁ t₂ : TokenTable} {as bs : List TokenRun} :
    List.Forall₂ (List.Forall₂ (t₁.SameText t₂)) as bs ↔
      as.map (·.map t₁.text) = bs.map (·.map t₂.text) := by
  rw [← List.forall₂_eq_eq_eq, List.forall₂_map_left_iff, List.forall₂_map_right_iff]
  exact ⟨fun h => h.imp fun _ _ => TokenRun.forall₂_sameText_iff.mp,
    fun h => h.imp fun _ _ => TokenRun.forall₂_sameText_iff.mpr⟩

theorem TokenId.optionRel_sameText_iff {t₁ t₂ : TokenTable} {a b : Option TokenId} :
    Option.Rel (t₁.SameText t₂) a b ↔ a.map t₁.text = b.map t₂.text := by
  cases a <;> cases b <;> simp [TokenTable.SameText]

variable {ρ σ τ : TokenId → TokenId → Prop}

/-! ## Alike -/

/-- Two unparsers of a field, the same but for their tokens. -/
structure FieldUnparser.Alike (ρ : TokenId → TokenId → Prop) (a b : FieldUnparser) : Prop where
  node : a.node = b.node
  field : a.field = b.field
  alwaysAbsent : a.alwaysAbsent = b.alwaysAbsent
  pre : List.Forall₂ ρ a.pre b.pre
  post : List.Forall₂ ρ a.post b.post

/-- Two unparsers of a node with fields, the same but for their tokens. -/
structure RegularUnparser.Alike (ρ : TokenId → TokenId → Prop) (a b : RegularUnparser) : Prop where
  node : a.node = b.node
  pre : List.Forall₂ ρ a.pre b.pre
  fields : List.Forall₂ (FieldUnparser.Alike ρ) a.fields b.fields
  inter : List.Forall₂ (List.Forall₂ ρ) a.inter b.inter
  post : List.Forall₂ ρ a.post b.post

/-- Two unparsers, the same but for their tokens. -/
inductive NodeUnparser.Alike (ρ : TokenId → TokenId → Prop) : NodeUnparser → NodeUnparser → Prop
  | regular {a b : RegularUnparser} : a.Alike ρ b → Alike ρ (.regular a) (.regular b)
  | list {node : NodeId} {a b : Option TokenId} : Option.Rel ρ a b →
      Alike ρ (.list ⟨node, a⟩) (.list ⟨node, b⟩)
  | tokenNode (node : NodeId) : Alike ρ (.tokenNode node) (.tokenNode node)
  | null (node : NodeId) : Alike ρ (.null node) (.null node)

theorem FieldUnparser.Alike.mono (h : ∀ i j, ρ i j → σ i j) {a b : FieldUnparser}
    (hab : a.Alike ρ b) : a.Alike σ b where
  node := hab.node
  field := hab.field
  alwaysAbsent := hab.alwaysAbsent
  pre := hab.pre.imp h
  post := hab.post.imp h

theorem FieldUnparser.Alike.refl (h : ∀ i, ρ i i) (a : FieldUnparser) : a.Alike ρ a :=
  ⟨rfl, rfl, rfl, List.forall₂_same.mpr fun i _ => h i, List.forall₂_same.mpr fun i _ => h i⟩

theorem FieldUnparser.Alike.comp (h : ∀ i j k, ρ i j → σ j k → τ i k) {a b c : FieldUnparser}
    (hab : a.Alike ρ b) (hbc : b.Alike σ c) : a.Alike τ c where
  node := hab.node.trans hbc.node
  field := hab.field.trans hbc.field
  alwaysAbsent := hab.alwaysAbsent.trans hbc.alwaysAbsent
  pre := forall₂_comp h hab.pre hbc.pre
  post := forall₂_comp h hab.post hbc.post

theorem NodeUnparser.Alike.mono (h : ∀ i j, ρ i j → σ i j) {a b : NodeUnparser}
    (hab : a.Alike ρ b) : a.Alike σ b := by
  cases hab with
  | regular hab =>
    refine .regular ⟨hab.node, hab.pre.imp h, hab.fields.imp fun _ _ => .mono h, ?_, hab.post.imp h⟩
    exact hab.inter.imp fun _ _ runs => runs.imp h
  | list hab => exact .list (optionRel_mono h hab)
  | tokenNode node => exact .tokenNode node
  | null node => exact .null node

theorem NodeUnparser.Alike.refl (h : ∀ i, ρ i i) (a : NodeUnparser) : a.Alike ρ a := by
  have run (r : TokenRun) : List.Forall₂ ρ r r := List.forall₂_same.mpr fun i _ => h i
  cases a with
  | regular a =>
    exact .regular ⟨rfl, run _, List.forall₂_same.mpr fun f _ => .refl h f,
      List.forall₂_same.mpr fun r _ => run r, run _⟩
  | list a =>
    obtain ⟨node, separator⟩ := a
    cases separator with
    | none => exact .list .none
    | some i => exact .list (.some (h i))
  | tokenNode node => exact .tokenNode node
  | null node => exact .null node

theorem NodeUnparser.Alike.comp (h : ∀ i j k, ρ i j → σ j k → τ i k) {a b c : NodeUnparser}
    (hab : a.Alike ρ b) (hbc : b.Alike σ c) : a.Alike τ c := by
  cases hab with
  | regular hab =>
    cases hbc with
    | regular hbc =>
      refine .regular ⟨hab.node.trans hbc.node, forall₂_comp h hab.pre hbc.pre, ?_, ?_,
        forall₂_comp h hab.post hbc.post⟩
      · exact forall₂_comp (fun _ _ _ => .comp h) hab.fields hbc.fields
      · exact forall₂_comp (R := List.Forall₂ ρ) (S := List.Forall₂ σ) (Q := List.Forall₂ τ)
          (fun _ _ _ => forall₂_comp h) hab.inter hbc.inter
  | list hab =>
    cases hbc with
    | list hbc => exact .list (optionRel_comp h hab hbc)
  | tokenNode node =>
    cases hbc
    exact .tokenNode node
  | null node =>
    cases hbc
    exact .null node

theorem NodeUnparser.Alike.trans {t₁ t₂ t₃ : TokenTable} {a b c : NodeUnparser}
    (hab : a.Alike (t₁.SameText t₂) b) (hbc : b.Alike (t₂.SameText t₃) c) :
    a.Alike (t₁.SameText t₃) c :=
  .comp (ρ := t₁.SameText t₂) (σ := t₂.SameText t₃) (fun _ _ _ => .trans) hab hbc

/-! ## Covering -/

/-- **One unparser of a field shows all that another does**: unless the other is always absent, this
one is not either, and has the same tokens around the field. -/
structure FieldUnparser.Covers (ρ : TokenId → TokenId → Prop) (a b : FieldUnparser) : Prop where
  node : a.node = b.node
  field : a.field = b.field
  present : b.alwaysAbsent = false → a.alwaysAbsent = false
  pre : b.alwaysAbsent = false → List.Forall₂ ρ a.pre b.pre
  post : b.alwaysAbsent = false → List.Forall₂ ρ a.post b.post

/-- **One unparser of a node with fields shows all that another does**: the same tokens before,
between and after the fields, and all that the other shows of the fields. -/
structure RegularUnparser.Covers (ρ : TokenId → TokenId → Prop) (a b : RegularUnparser) : Prop where
  node : a.node = b.node
  pre : List.Forall₂ ρ a.pre b.pre
  fields : List.Forall₂ (FieldUnparser.Covers ρ) a.fields b.fields
  inter : List.Forall₂ (List.Forall₂ ρ) a.inter b.inter
  post : List.Forall₂ ρ a.post b.post

/-- **One unparser shows all that another does**: both are of one form, unless the other stands for
an absent node. -/
inductive NodeUnparser.Covers (ρ : TokenId → TokenId → Prop) : NodeUnparser → NodeUnparser → Prop
  | regular {a b : RegularUnparser} : a.Covers ρ b → Covers ρ (.regular a) (.regular b)
  | list {node : NodeId} {a b : Option TokenId} : Option.Rel ρ a b →
      Covers ρ (.list ⟨node, a⟩) (.list ⟨node, b⟩)
  | tokenNode (node : NodeId) : Covers ρ (.tokenNode node) (.tokenNode node)
  | null (a : NodeUnparser) : Covers ρ a (.null a.node)

/-- A field written alike is covered. -/
theorem FieldUnparser.Alike.covers {a b : FieldUnparser} (h : a.Alike ρ b) : a.Covers ρ b where
  node := h.node
  field := h.field
  present absent := h.alwaysAbsent.trans absent
  pre _ := h.pre
  post _ := h.post

/-- An unparser covers each that is written alike. -/
theorem NodeUnparser.Alike.covers {a b : NodeUnparser} (h : a.Alike ρ b) : a.Covers ρ b := by
  cases h with
  | regular h =>
    exact .regular ⟨h.node, h.pre, h.fields.imp fun _ _ same => same.covers, h.inter, h.post⟩
  | list h => exact .list h
  | tokenNode node => exact .tokenNode node
  | null node => exact .null (.null node)

theorem FieldUnparser.Covers.refl (h : ∀ i, ρ i i) (a : FieldUnparser) : a.Covers ρ a :=
  (Alike.refl h a).covers

theorem FieldUnparser.Covers.comp (h : ∀ i j k, ρ i j → σ j k → τ i k) {a b c : FieldUnparser}
    (hab : a.Covers ρ b) (hbc : b.Covers σ c) : a.Covers τ c where
  node := hab.node.trans hbc.node
  field := hab.field.trans hbc.field
  present absent := hab.present (hbc.present absent)
  pre absent := forall₂_comp h (hab.pre (hbc.present absent)) (hbc.pre absent)
  post absent := forall₂_comp h (hab.post (hbc.present absent)) (hbc.post absent)

theorem NodeUnparser.Covers.refl (h : ∀ i, ρ i i) (a : NodeUnparser) : a.Covers ρ a :=
  (Alike.refl h a).covers

theorem RegularUnparser.Covers.comp (h : ∀ i j k, ρ i j → σ j k → τ i k) {a b c : RegularUnparser}
    (hab : a.Covers ρ b) (hbc : b.Covers σ c) : a.Covers τ c where
  node := hab.node.trans hbc.node
  pre := forall₂_comp h hab.pre hbc.pre
  fields := forall₂_comp (fun _ _ _ => .comp h) hab.fields hbc.fields
  inter := forall₂_comp (R := List.Forall₂ ρ) (S := List.Forall₂ σ) (Q := List.Forall₂ τ)
    (fun _ _ _ => forall₂_comp h) hab.inter hbc.inter
  post := forall₂_comp h hab.post hbc.post

/-- Covering unparsers are of one node type. -/
theorem NodeUnparser.Covers.node_eq {a b : NodeUnparser} (h : a.Covers ρ b) : a.node = b.node := by
  cases h with
  | regular h => exact h.node
  | list => rfl
  | tokenNode => rfl
  | null => rfl

theorem NodeUnparser.Covers.comp (h : ∀ i j k, ρ i j → σ j k → τ i k) {a b c : NodeUnparser}
    (hab : a.Covers ρ b) (hbc : b.Covers σ c) : a.Covers τ c := by
  cases hbc with
  | regular hbc =>
    cases hab with
    | regular hab => exact .regular (hab.comp h hbc)
  | list hbc =>
    cases hab with
    | list hab => exact .list (optionRel_comp h hab hbc)
  | tokenNode node =>
    cases hab
    exact .tokenNode node
  | null =>
    rw [← hab.node_eq]
    exact .null a

theorem NodeUnparser.Covers.trans {t₁ t₂ t₃ : TokenTable} {a b c : NodeUnparser}
    (hab : a.Covers (t₁.SameText t₂) b) (hbc : b.Covers (t₂.SameText t₃) c) :
    a.Covers (t₁.SameText t₃) c :=
  .comp (ρ := t₁.SameText t₂) (σ := t₂.SameText t₃) (fun _ _ _ => .trans) hab hbc

end Unparsing
