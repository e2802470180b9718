import Unparsing.Proofs.Derivation.Written
import Unparsing.Proofs.Session.Producers

/-!
# Proofs/Derivation/Outcomes — the ways in which the parser of a field matches

The tokens around a field are written if the field is shown.  They are parsed by a `pick`, whether
the item picked shows anything or not, so the two need not fit: an optional *around* a `pick` leaves
out the tokens together with the field, one *inside* it leaves out just the field.

* `Parser.Matches` — the tokens that are parsed around a field, and whether the field is shown.
* `Parser.Joined` — the parsers of fields for which tokens and field come together.
* `Parser.IsField.joined_iff` — just then, whatever is matched is what is written, or nothing.
-/

namespace Unparsing

namespace Parser

/-! ## Tokens in the tree -/

/-- All tokens in a parser, in order. -/
def tokens (p : Parser) : List Parser := p.preorder.filter (·.isToken)

theorem tokens_eq (p : Parser) :
    p.tokens = (if p.isToken then [p] else []) ++ p.children.flatMap tokens := by
  rw [tokens, preorder_eq, List.filter_cons, List.filter_flatMap]
  split <;> rfl

theorem tokens_row (id : ParserId) (items : List Parser) :
    (row id items).tokens = items.flatMap tokens := tokens_eq _

@[simp] theorem tokens_opt (id : ParserId) (inner : Parser) (tolerant : Bool) :
    (opt id inner tolerant).tokens = inner.tokens := by
  simp [tokens_eq (opt id inner tolerant), isToken, children]

@[simp] theorem tokens_dontSkip (id : ParserId) (inner : Parser) :
    (dontSkip id inner).tokens = inner.tokens := by
  simp [tokens_eq (dontSkip id inner), isToken, children]

/-- What a parser exposes are tokens in it. -/
theorem exposed_sublist_tokens (p : Parser) : p.exposed.Sublist p.tokens := by
  induction p using Parser.induction with
  | row id items ih | choice id items ih =>
    rw [exposed, exposedAll_eq_flatMap, tokens_eq]
    exact List.Sublist.flatMap_right _ ih
  | pick id rowId items index ih =>
    rw [exposed, exposedAll_eq_flatMap, tokens_eq]
    simpa [children, isToken, tokens_row] using List.Sublist.flatMap_right _ ih
  | opt id inner tolerant ih =>
    rw [exposed, tokens_opt]
    exact ih
  | predicate id inner property ih =>
    rw [exposed, tokens_eq]
    simpa [children, isToken] using ih
  | token id kind text => exact .refl _
  | dontSkip id inner ih =>
    rw [exposed_dontSkip, tokens_dontSkip]
    split
    · exact List.nil_sublist _
    · exact ih
  | transform | list | optBool | defer | null | skip | noBacktrack => exact List.nil_sublist _

/-! ## Outcomes -/

/-- **The outcomes of the parser of a field**: the tokens that it matches before and after the
field, and whether the field is shown. -/
inductive Matches : Parser → List Parser → Bool → List Parser → Prop
  | bare {p : Parser} : p.isBareField = true → p.isNull = false → Matches p [] true []
  | null (id : ParserId) (node : NodeId) : Matches (.null id node) [] false []
  | absent (id : ParserId) (inner : Parser) (tolerant : Bool) :
      Matches (.opt id inner tolerant) [] false []
  | opt {id : ParserId} {inner : Parser} {tolerant shown : Bool} {before after : List Parser} :
      Matches inner before shown after → Matches (.opt id inner tolerant) before shown after
  | pick {id rowId : ParserId} {items : List Parser} {index : Nat} {item : Parser} {shown : Bool}
      {before after : List Parser} : items[index]? = some item →
      Matches item before shown after →
      Matches (.pick id rowId items index) ((items.take index).flatMap tokens ++ before) shown
        (after ++ (items.drop (index + 1)).flatMap tokens)
  | dontSkip {id : ParserId} {inner : Parser} {shown : Bool} {before after : List Parser} :
      Matches inner before shown after → Matches (.dontSkip id inner) before shown after

/-- The parsers that show their field whenever they match: there is neither an optional nor an
absent node on the way to it. -/
inductive Shows : Parser → Prop
  | bare {p : Parser} : p.isBareField = true → p.isNull = false → Shows p
  | pick {id rowId : ParserId} {items : List Parser} {index : Nat} {item : Parser} :
      items[index]? = some item → Shows item → Shows (.pick id rowId items index)
  | dontSkip {id : ParserId} {inner : Parser} : Shows inner → Shows (.dontSkip id inner)

/-- **The parsers of fields for which tokens and field come together.**  What a `pick` drops has no
token; or the item picked is always shown, and what is dropped exposes all its tokens. -/
inductive Joined : Parser → Prop
  | bare {p : Parser} : p.isBareField = true → Joined p
  | opt {id : ParserId} {inner : Parser} {tolerant : Bool} :
      Joined inner → Joined (.opt id inner tolerant)
  | silent {id rowId : ParserId} {items : List Parser} {index : Nat} {item : Parser} :
      items[index]? = some item → (∀ p ∈ items.eraseIdx index, p.tokens = []) → Joined item →
      Joined (.pick id rowId items index)
  | always {id rowId : ParserId} {items : List Parser} {index : Nat} {item : Parser} :
      items[index]? = some item → (∀ p ∈ items.eraseIdx index, p.tokens = p.exposed) →
      Shows item → Joined item → Joined (.pick id rowId items index)
  | dontSkip {id : ParserId} {inner : Parser} : Joined inner → Joined (.dontSkip id inner)

variable {p : Parser} {before after b a : List Parser} {shown : Bool}

theorem Shows.eq_true (h : p.Shows) (outcome : p.Matches before shown after) : shown = true := by
  induction h generalizing before after with
  | bare bare real =>
    cases outcome with
    | bare => rfl
    | null => cases real
    | absent | opt | pick | dontSkip => cases bare
  | pick found _ ih =>
    cases outcome with
    | bare bare => cases bare
    | pick found' outcome =>
      cases found.symm.trans found'
      exact ih outcome
  | dontSkip _ ih =>
    cases outcome with
    | bare bare => cases bare
    | dontSkip outcome => exact ih outcome

/-- A parser of a field may leave the field out, unless it always shows it. -/
theorem IsField.shows_or (h : p.IsField b a) :
    p.Shows ∨ ∃ before after, p.Matches before false after := by
  induction h with
  | @bare p bare =>
    cases p with
    | null id node => exact .inr ⟨[], [], .null id node⟩
    | transform | list | optBool | defer | choice => exact .inl (.bare rfl rfl)
    | row | pick | opt | token | predicate | skip | noBacktrack | dontSkip => cases bare
  | opt => exact .inr ⟨[], [], .absent ..⟩
  | pick found _ _ _ ih =>
    obtain shows | ⟨before, after, outcome⟩ := ih
    · exact .inl (.pick found shows)
    · exact .inr ⟨_, _, .pick found outcome⟩
  | dontSkip _ _ ih =>
    obtain shows | ⟨before, after, outcome⟩ := ih
    · exact .inl (.dontSkip shows)
    · exact .inr ⟨before, after, .dontSkip outcome⟩

theorem IsField.exists_matches (h : p.IsField b a) :
    ∃ before shown after, p.Matches before shown after := by
  induction h with
  | @bare p bare =>
    cases null : p.isNull with
    | false => exact ⟨[], true, [], .bare bare null⟩
    | true =>
      cases p with
      | null id node => exact ⟨[], false, [], .null id node⟩
      | _ => cases null
  | opt => exact ⟨[], false, [], .absent ..⟩
  | pick found _ _ _ ih =>
    obtain ⟨before, shown, after, outcome⟩ := ih
    exact ⟨_, shown, _, .pick found outcome⟩
  | dontSkip _ _ ih =>
    obtain ⟨before, shown, after, outcome⟩ := ih
    exact ⟨before, shown, after, .dontSkip outcome⟩

theorem sublist_tokens (items : List Parser) :
    (items.flatMap exposed).Sublist (items.flatMap tokens) :=
  List.Sublist.flatMap_right _ fun p _ => p.exposed_sublist_tokens

/-- Where the field is shown, the tokens written around it are among those matched. -/
theorem IsField.sublist (h : p.IsField b a) (outcome : p.Matches before true after) :
    b.Sublist before ∧ a.Sublist after := by
  induction h generalizing before after with
  | bare => exact ⟨List.nil_sublist _, List.nil_sublist _⟩
  | opt _ ih =>
    cases outcome with
    | bare bare => cases bare
    | opt outcome => exact ih outcome
  | pick found _ _ _ ih =>
    cases outcome with
    | bare bare => cases bare
    | pick found' outcome =>
      cases found.symm.trans found'
      obtain ⟨ahead, behind⟩ := ih outcome
      exact ⟨(sublist_tokens _).append ahead, behind.append (sublist_tokens _)⟩
  | dontSkip _ _ ih =>
    cases outcome with
    | bare bare => cases bare
    | dontSkip outcome => exact ih outcome

/-- Whether an outcome is what is written: all tokens around the field if it is shown, and nothing
if it is not. -/
def Fits (b a before : List Parser) (shown : Bool) (after : List Parser) : Prop :=
  if shown then before = b ∧ after = a else before = [] ∧ after = []

/-- What is dropped around an item, taken together. -/
theorem forall_mem_dropped {items : List Parser} {index : Nat} {P : Parser → Prop} :
    (∀ p ∈ items.eraseIdx index, P p) ↔
      (∀ p ∈ items.take index, P p) ∧ ∀ p ∈ items.drop (index + 1), P p := by
  rw [List.eraseIdx_eq_take_drop_succ, List.forall_mem_append]

theorem fits_nil : Fits ([] ++ b) (a ++ []) ([] ++ before) shown (after ++ []) ↔
    Fits b a before shown after := by
  simp

theorem flatMap_of_silent {items : List Parser} (silent : ∀ p ∈ items, p.tokens = []) :
    items.flatMap tokens = [] ∧ items.flatMap exposed = [] := by
  have none : items.flatMap tokens = [] := List.flatMap_eq_nil_iff.mpr silent
  exact ⟨none, List.sublist_nil.mp (none ▸ sublist_tokens items)⟩

section Pick

variable {id rowId : ParserId} {items : List Parser} {index : Nat} {item : Parser}

/-- What a joined `pick` matches fits if what the item picked matches does. -/
theorem fits_of_joined_pick (found : items[index]? = some item)
    (inner : item.Joined → ∀ before shown after, item.Matches before shown after →
      Fits b a before shown after)
    (joined : (pick id rowId items index).Joined)
    (outcome : (pick id rowId items index).Matches before shown after) :
    Fits ((items.take index).flatMap exposed ++ b) (a ++ (items.drop (index + 1)).flatMap exposed)
      before shown after := by
  cases outcome with
  | bare bare => cases bare
  | @pick _ _ _ _ _ _ before after found' outcome =>
  cases found.symm.trans found'
  cases joined with
  | bare bare => cases bare
  | silent found' silent joined =>
    cases found.symm.trans found'
    obtain ⟨ahead, behind⟩ := forall_mem_dropped.mp silent
    rw [(flatMap_of_silent ahead).1, (flatMap_of_silent ahead).2, (flatMap_of_silent behind).1,
      (flatMap_of_silent behind).2, fits_nil]
    exact inner joined before shown after outcome
  | always found' open' shows joined =>
    cases found.symm.trans found'
    cases shows.eq_true outcome
    obtain ⟨ahead, behind⟩ := forall_mem_dropped.mp open'
    obtain ⟨rfl, rfl⟩ := inner joined before true after outcome
    rw [List.flatMap_congr ahead, List.flatMap_congr behind]
    exact ⟨rfl, rfl⟩

/-- A `pick` is joined if all that it matches fits. -/
theorem IsField.joined_pick (field : item.IsField b a) (found : items[index]? = some item)
    (inner : (∀ before shown after, item.Matches before shown after →
      Fits b a before shown after) → item.Joined)
    (fits : ∀ before shown after, (Parser.pick id rowId items index).Matches before shown after →
      Fits ((items.take index).flatMap exposed ++ b)
        (a ++ (items.drop (index + 1)).flatMap exposed) before shown after) :
    (Parser.pick id rowId items index).Joined := by
  obtain shows | ⟨before, after, outcome⟩ := field.shows_or
  · -- an outcome with the field has as many tokens as are written only if none is hidden
    obtain ⟨before, shown, after, outcome⟩ := field.exists_matches
    cases shows.eq_true outcome
    obtain ⟨hb, ha⟩ := field.sublist outcome
    obtain ⟨ahead, behind⟩ := fits _ _ _ (.pick found outcome)
    obtain ⟨ahead, -⟩ := append_inj_of_sublist (sublist_tokens _) hb ahead
    obtain ⟨-, behind⟩ := append_inj_of_sublist ha (sublist_tokens _) behind
    refine .always found (forall_mem_dropped.mpr ⟨?_, ?_⟩) shows (inner ?_)
    · exact eq_of_flatMap_eq (fun p _ => p.exposed_sublist_tokens) ahead
    · exact eq_of_flatMap_eq (fun p _ => p.exposed_sublist_tokens) behind
    · intro before shown after outcome
      cases shows.eq_true outcome
      obtain ⟨same, same'⟩ := fits _ _ _ (.pick found outcome)
      rw [ahead] at same
      rw [behind] at same'
      exact ⟨List.append_cancel_left same, List.append_cancel_right same'⟩
  · -- an outcome without the field has no token only if none is dropped
    obtain ⟨ahead, behind⟩ := fits _ _ _ (.pick found outcome)
    have ahead := List.flatMap_eq_nil_iff.mp (List.append_eq_nil_iff.mp ahead).1
    have behind := List.flatMap_eq_nil_iff.mp (List.append_eq_nil_iff.mp behind).2
    refine .silent found (forall_mem_dropped.mpr ⟨ahead, behind⟩) (inner ?_)
    intro before shown after outcome
    have fits := fits _ _ _ (.pick found outcome)
    rwa [(flatMap_of_silent ahead).1, (flatMap_of_silent ahead).2, (flatMap_of_silent behind).1,
      (flatMap_of_silent behind).2, fits_nil] at fits

end Pick

/-- **Tokens and field come together** just for the joined parsers. -/
theorem IsField.joined_iff (h : p.IsField b a) : p.Joined ↔
    ∀ before shown after, p.Matches before shown after → Fits b a before shown after := by
  induction h with
  | @bare p bare =>
    refine iff_of_true (.bare bare) fun before shown after outcome => ?_
    cases outcome with
    | bare => exact ⟨rfl, rfl⟩
    | null => exact ⟨rfl, rfl⟩
    | absent | opt | pick | dontSkip => cases bare
  | opt field ih =>
    constructor
    · intro joined before shown after outcome
      cases joined with
      | bare bare => cases bare
      | opt joined =>
        cases outcome with
        | bare bare => cases bare
        | absent => exact ⟨rfl, rfl⟩
        | opt outcome => exact ih.mp joined _ _ _ outcome
    · exact fun fits => .opt (ih.mpr fun _ _ _ outcome => fits _ _ _ (.opt outcome))
  | dontSkip _ _ ih =>
    constructor
    · intro joined before shown after outcome
      cases joined with
      | bare bare => cases bare
      | dontSkip joined =>
        cases outcome with
        | bare bare => cases bare
        | dontSkip outcome => exact ih.mp joined _ _ _ outcome
    · exact fun fits => .dontSkip (ih.mpr fun _ _ _ outcome => fits _ _ _ (.dontSkip outcome))
  | pick found _ _ field ih =>
    exact ⟨fun joined _ _ _ => fits_of_joined_pick found ih.mp joined,
      field.joined_pick found ih.mpr⟩

end Parser

end Unparsing
