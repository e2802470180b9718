import Unparsing.Proofs.Unparser.Cover
import Unparsing.Proofs.Unparser.Shape

/-!
# Proofs/Unparser/Listing — unparsers that are written alike have one listing

Two unparsers of a node type that cover each other differ in the numbers of their tokens only
(`NodeUnparser.alike_of_covers`), and a listing shows the texts of tokens, not their numbers
(`NodeUnparser.listing_eq`).
-/

namespace Unparsing

variable {ns : NodeTypes} {t₁ t₂ : TokenTable}

/-! ## Covering both ways -/

theorem FieldUnparser.alike_of_covers {ρ : TokenId → TokenId → Prop} {a b : FieldUnparser}
    (ha : a.Bare) (hb : b.Bare) (hab : a.Covers ρ b)
    (hidden : b.alwaysAbsent = true → a.alwaysAbsent = true) : a.Alike ρ b := by
  have absent : a.alwaysAbsent = b.alwaysAbsent := by
    cases h : b.alwaysAbsent with
    | false => exact hab.present h
    | true => exact hidden h
  refine ⟨hab.node, hab.field, absent, ?_, ?_⟩
  · cases h : b.alwaysAbsent with
    | false => exact hab.pre h
    | true =>
      rw [(ha (absent.trans h)).1, (hb h).1]
      exact .nil
  · cases h : b.alwaysAbsent with
    | false => exact hab.post h
    | true =>
      rw [(ha (absent.trans h)).2, (hb h).2]
      exact .nil

/-- **An unparser that covers another** and hides all that it hides is the same but for the numbers
of its tokens. -/
theorem NodeUnparser.alike_of_hides {ρ : TokenId → TokenId → Prop} {a b : NodeUnparser}
    (ha : a.WellShaped ns) (hb : b.WellShaped ns) (real : b.isNull = false) (hab : a.Covers ρ b)
    (hidden : ∀ i, b.hides i = true → a.hides i = true) : a.Alike ρ b := by
  cases hab with
  | @regular x y hxy =>
    refine .regular ⟨hxy.node, hxy.pre, ?_, hxy.inter, hxy.post⟩
    refine List.forall₂_iff_get.mpr ⟨hxy.fields.length_eq, fun i hx hy => ?_⟩
    refine FieldUnparser.alike_of_covers (ha.bare _ (List.get_mem ..)) (hb.bare _ (List.get_mem ..))
      (hxy.fields.get hx hy) ?_
    simpa [hides, hx, hy] using hidden i
  | list h => exact .list h
  | tokenNode node => exact .tokenNode node
  | null => cases real

/-- A field that is hidden by an unparser that covers another is hidden by the other. -/
theorem NodeUnparser.Covers.hides {σ : TokenId → TokenId → Prop} {a b : NodeUnparser}
    (h : b.Covers σ a) (real : a.isNull = false) {i : Nat} (hidden : b.hides i = true) :
    a.hides i = true := by
  cases h with
  | @regular y x hyx =>
    have both := hyx.fields.length_eq
    simp only [NodeUnparser.hides, Option.any_eq_true] at hidden ⊢
    obtain ⟨f, found, absent⟩ := hidden
    obtain ⟨inside, rfl⟩ := List.getElem?_eq_some_iff.mp found
    refine ⟨_, List.getElem?_eq_getElem (both ▸ inside), ?_⟩
    by_contra shown
    have present := (hyx.fields.get inside (both ▸ inside)).present (by simpa using shown)
    cases absent.symm.trans present
  | list | tokenNode => cases hidden
  | null => cases real

/-- **Unparsers that cover each other** are the same but for the numbers of their tokens. -/
theorem NodeUnparser.alike_of_covers {ρ σ : TokenId → TokenId → Prop} {a b : NodeUnparser}
    (ha : a.WellShaped ns) (hb : b.WellShaped ns) (real : b.isNull = false) (hab : a.Covers ρ b)
    (hba : b.Covers σ a) : a.Alike ρ b := by
  refine alike_of_hides ha hb real hab fun i => hba.hides ?_
  cases hab with
  | null => cases real
  | _ => rfl

/-! ## Listings -/

theorem TokenRun.render_eq {a b : TokenRun} (h : List.Forall₂ (t₁.SameText t₂) a b) :
    render t₁ a = render t₂ b := by
  rw [render, forall₂_sameText_iff.mp h, render]

theorem FieldUnparser.listing_eq {a b : FieldUnparser} (h : a.Alike (t₁.SameText t₂) b) :
    a.listing ⟨ns, t₁⟩ = b.listing ⟨ns, t₂⟩ := by
  unfold listing
  rw [h.field, TokenRun.render_eq h.pre, TokenRun.render_eq h.post]

namespace RegularUnparser

theorem slotListing_eq {a b : FieldUnparser} {r r' : Option TokenRun}
    (h : a.Alike (t₁.SameText t₂) b) (hr : Option.Rel (List.Forall₂ (t₁.SameText t₂)) r r') :
    slotListing ⟨ns, t₁⟩ a r = slotListing ⟨ns, t₂⟩ b r' := by
  have run : List.Forall₂ (t₁.SameText t₂) (r.getD []) (r'.getD []) := by
    cases hr with
    | some hr => exact hr
    | none => exact .nil
  unfold slotListing
  dsimp only
  rw [isEmpty_eq_of_forall₂ run, TokenRun.render_eq run, FieldUnparser.listing_eq h]

/-- The fields, each with the run before it, stand in step. -/
theorem forall₂_zipFields {a b : RegularUnparser} (h : a.Alike (t₁.SameText t₂) b) :
    List.Forall₂ (fun x y => x.1.Alike (t₁.SameText t₂) y.1 ∧
      Option.Rel (List.Forall₂ (t₁.SameText t₂)) x.2 y.2) a.zipFields b.zipFields := by
  refine List.forall₂_iff_get.mpr ⟨by simp [zipFields, h.fields.length_eq], fun i hi hi' => ?_⟩
  have hf : i < a.fields.length := by simpa [zipFields] using hi
  have hf' : i < b.fields.length := by simpa [zipFields] using hi'
  have field := h.fields.get hf hf'
  simp only [zipFields, List.get_eq_getElem, List.getElem_map, List.getElem_zipIdx, Nat.zero_add]
  refine ⟨field, ?_⟩
  split
  · exact .none
  · exact optionRel_getElem? h.inter _

theorem map_slotListing_eq {a b : RegularUnparser} (h : a.Alike (t₁.SameText t₂) b) :
    (a.zipFields.map fun x => slotListing ⟨ns, t₁⟩ x.1 x.2) =
      b.zipFields.map fun x => slotListing ⟨ns, t₂⟩ x.1 x.2 := by
  rw [← List.forall₂_eq_eq_eq, List.forall₂_map_left_iff, List.forall₂_map_right_iff]
  exact (forall₂_zipFields h).imp fun x y same => slotListing_eq same.1 same.2

theorem listing_eq {a b : RegularUnparser} (h : a.Alike (t₁.SameText t₂) b) :
    a.listing ⟨ns, t₁⟩ = b.listing ⟨ns, t₂⟩ := by
  unfold listing
  dsimp only
  rw [h.node, isEmpty_eq_of_forall₂ h.pre, isEmpty_eq_of_forall₂ h.post,
    isEmpty_eq_of_forall₂ h.fields, TokenRun.render_eq h.pre, TokenRun.render_eq h.post,
    map_slotListing_eq h]

end RegularUnparser

theorem ListUnparser.listing_eq {node : NodeId} {a b : Option TokenId}
    (h : Option.Rel (t₁.SameText t₂) a b) :
    ListUnparser.listing ⟨ns, t₁⟩ ⟨node, a⟩ = ListUnparser.listing ⟨ns, t₂⟩ ⟨node, b⟩ := by
  cases h with
  | @some i j same =>
    have text : t₁.text i = t₂.text j := same
    unfold listing
    dsimp only [Option.elim_some]
    rw [text]
  | none => rfl

/-- **The listing of an unparser shows the texts of its tokens**, not their numbers. -/
theorem NodeUnparser.listing_eq {a b : NodeUnparser} (h : a.Alike (t₁.SameText t₂) b) :
    a.listing ⟨ns, t₁⟩ = b.listing ⟨ns, t₂⟩ := by
  cases h with
  | regular h => exact RegularUnparser.listing_eq h
  | list h => exact ListUnparser.listing_eq h
  | tokenNode node => rfl
  | null node => rfl

end Unparsing
