import Unparsing.Proofs.Derivation.Row
import Unparsing.Proofs.Refusal
import Unparsing.Proofs.Unparser.Listing

/-!
# Proofs/Canonical — a canonical producer shows what is written

The canonical producer of a node type is the first without an absent node inside, if there is one.
Such a producer shows every field, so it derives what the unparsers of all producers are combined to
(`Session.final_alike_canonical`).

A boolean optional shows no fields, though it may have no absent node inside; but then all producers
of the node type are boolean optionals (`Session.Derives.hides_of_hides`).
-/

namespace Unparsing

namespace Parser

/-- Where no absent node occurs in a list, none occurs in its parsers. -/
theorem hasNull_of_mem {items : List Parser} (full : anyHasNull items = false) {p : Parser}
    (hp : p ∈ items) : p.hasNull = false := by
  rw [anyHasNull_eq_any, List.any_eq_false] at full
  simpa using full p hp

end Parser

namespace Grammar

variable {g : Grammar} {t t' : TokenTable} {node : NodeId} {p q : Parser} {d e : NodeUnparser}

/-! ## Fields that are shown -/

/-- **A field whose parser has no absent node inside** is shown. -/
theorem shown_of_emitField {f f' : FieldUnparser} (full : p.hasNull = false)
    (run : g.emitField p f t = .ok f' t') : f'.alwaysAbsent = false := by
  induction p using Parser.induction generalizing t f with
  | defer | list | transform | optBool =>
    cases run
    rfl
  | opt id inner tolerant ih => exact ih full (f := { f with alwaysAbsent := false }) run
  | choice id branches =>
    obtain ⟨_, _, _, run⟩ := estate_bind_eq_ok.mp run
    cases run
    rfl
  | pick id rowId items index ih =>
    obtain ⟨⟨pre, item, post⟩, _, picked, run⟩ := estate_bind_eq_ok.mp run
    obtain ⟨found, -⟩ := splitPick_names picked
    simp only [emitPicked_eq, found, Option.elim_some] at run
    have inside := List.mem_of_getElem? found
    exact ih item inside (Parser.hasNull_of_mem full inside) run
  | dontSkip id inner ih =>
    rw [emitField_dontSkip] at run
    split at run
    · cases run
    · exact ih full run
  | null => cases full
  | row | token | predicate | skip | noBacktrack => cases run

/-- A transform without an absent node inside hides no field. -/
theorem hides_of_transform {id rowId : ParserId} {type : NodeId} {items : List Parser}
    (full : (Parser.transform id type rowId items).hasNull = false)
    (run : g.deriveNode node (.transform id type rowId items) t = .ok d t') (i : Nat) :
    d.hides i = false := by
  obtain ⟨concrete, ⟨-, -, rfl⟩ | regular⟩ := deriveNode_cases run
  · rfl
  obtain ⟨_, r, filled, width, rfl⟩ := fillRow_of_deriveNode concrete regular run
  have fields := (fillRow_filled filled (.refl t')).filledBy width
  rw [NodeUnparser.hides, Option.any_eq_false]
  intro f found
  obtain ⟨p, hp, told⟩ := exists_mem_of_forall₂ fields (List.mem_of_getElem? found)
  exact shown_of_emitField (Parser.hasNull_of_mem full (List.mem_of_mem_filter hp)) told.told

/-- A list hides no field, for it has none. -/
theorem hides_of_list {id : ParserId} {type : NodeId} {element : Parser} {separator : Option Parser}
    (run : g.deriveNode node (.list id type element separator) t = .ok d t') (i : Nat) :
    d.hides i = false := by
  obtain ⟨concrete, ⟨-, -, rfl⟩ | regular⟩ := deriveNode_cases run
  · rfl
  cases separator with
  | none =>
    rw [deriveNode_list_none concrete regular] at run
    cases run
    rfl
  | some separator =>
    rw [deriveNode_list_some concrete regular] at run
    obtain ⟨_, _, _, run⟩ := estate_bind_eq_ok.mp run
    cases run
    rfl

/-- A boolean optional hides all fields. -/
theorem hides_of_optBool {id : ParserId} {inner : Parser} {alternatives : BoolAlternatives}
    (run : g.deriveNode node (.optBool id inner alternatives) t = .ok d t') (i : Nat) :
    d.hides i = (NodeUnparser.regular (.blank g.nodes node)).hides i := by
  obtain ⟨concrete, ⟨-, wraps, -⟩ | regular⟩ := deriveNode_cases run
  · cases wraps
  rw [deriveNode_optBool concrete regular] at run
  split at run
  · obtain ⟨_, _, _, run⟩ := estate_bind_eq_ok.mp run
    cases run
    rfl
  · cases run
    rfl

/-- **What a producer without an absent node inside hides**, every producer of its kind hides. -/
theorem hides_of_hides {s s' : TokenTable} (producer : p.isProducer = true)
    (producer' : q.isProducer = true) (full : p.hasNull = false) (same : q.kind = p.kind)
    (run : g.deriveNode node p t = .ok d t')
    (run' : g.deriveNode node q s = .ok e s') {i : Nat} (hidden : d.hides i = true) :
    e.hides i = true := by
  cases p with
  | transform => cases hidden.symm.trans (hides_of_transform full run i)
  | list => cases hidden.symm.trans (hides_of_list run i)
  | optBool =>
    cases q with
    | optBool => rw [hides_of_optBool run', ← hides_of_optBool run, hidden]
    | opt => cases producer'
    | _ => cases same
  | _ => cases producer

end Grammar

namespace Session

variable {g : Grammar} {settings : Settings} {queue : DiagnosticQueue} {s : Session} {n : NodeId}

/-! ## The theorem -/

/-- The canonical producer is the first without an absent node inside, if there is one. -/
theorem canonical?_of_exists {ps : List Parser} (shown : ∃ p ∈ ps, p.hasNull = false) :
    ∃ p, Grammar.canonical? ps = some p ∧ p.hasNull = false ∧
      ∃ before after, ps = before ++ p :: after ∧ ∀ q ∈ before, q.hasNull = true := by
  cases first : ps.find? (!·.hasNull) with
  | none =>
    obtain ⟨p, hp, full⟩ := shown
    simpa [full] using List.find?_eq_none.mp first p hp
  | some p =>
    obtain ⟨full, before, after, split, passed⟩ := List.find?_eq_some_iff_append.mp first
    refine ⟨p, by simp [Grammar.canonical?, first], by simpa using full, before, after, split, ?_⟩
    simpa using passed

/-- **The canonical producer shows what is written.**  In a derivation that goes through, take a
node type of which some producer has no absent node inside.  The first of these is canonical.  What
it derives and the combined unparser have the same parts, written alike, and hide the same fields:
none, if the producer is a transform. -/
theorem final_alike_canonical (built : g.Built)
    (run : (g.buildUnparsers settings queue).1 = .ok s) (enabled : s.enabled = true)
    (shown : ∃ p ∈ s.producers n, p.hasNull = false) :
    ∃ before p after d u, s.producers n = before ++ p :: after ∧
      (∀ q ∈ before, q.hasNull = true) ∧ p.hasNull = false ∧ s.canonical? n = some p ∧
      g.deriveNode n p s.tokens = .ok d s.tokens ∧ s.final? n = some u ∧
      u.Alike (s.tokens.SameText s.tokens) d ∧
      (p.kind = .transform → ∀ i, u.hides i = false) := by
  have wf := built.wellFormed
  have h := outcome_of_buildUnparsers run enabled
  obtain ⟨p, canonical, full, before, after, split, passed⟩ := canonical?_of_exists shown
  have hp : p ∈ s.producers n := by simp [split]
  have hn := (h.of_mem_producers wf hp).2
  have producers (q : Parser) (hq : q ∈ s.producers n) : q.isProducer = true :=
    isProducer_of_produced h.produced hq
  obtain ⟨us, u, derived, final, -, shaped, covers, hides⟩ :=
    h.final_eq hn (List.ne_nil_of_mem hp)
  obtain ⟨d, hd, runs⟩ := exists_mem_of_forall₂ derived hp
  -- All producers are of one kind, as they have been compared.
  have agreed := h.agreed n hn
  rw [h.currentProducers_eq wf] at agreed
  have kinds (q : Parser) (hq : q ∈ s.producers n) : q.kind = p.kind := by
    rw [← comparable_of_producers producers] at hq hp
    exact Grammar.kind_eq_of_agree agreed hq hp
  have hidden (i : Nat) (hidden : d.hides i = true) : u.hides i = true := by
    rw [hides, List.all_eq_true]
    intro e he
    obtain ⟨q, hq, runs'⟩ := exists_mem_of_forall₂ derived.flip he
    exact Grammar.hides_of_hides (producers p hp) (producers q hq) full (kinds q hq) runs runs'
      hidden
  have alike := NodeUnparser.alike_of_hides shaped (derived.wellShaped d hd)
    (derived.isNull_eq_false producers d hd) (covers d hd) hidden
  refine ⟨before, p, after, d, u, split, passed, full, ?_, runs, final, alike, fun kind i => ?_⟩
  · rw [h.canonical, if_pos hn, h.currentProducers_eq wf, canonical]
  · cases p with
    | transform =>
      rw [hides, List.all_eq_false]
      exact ⟨d, hd, by simp [Grammar.hides_of_transform full runs i]⟩
    | _ => cases kind

/-- Links are written as one that has a rest, whether they have one or not. -/
theorem final_alike_link : ∃ s p d u, (Chain.grammar.buildUnparsers {} {}).1 = .ok s ∧
    s.canonical? ⟨0⟩ = some p ∧ p.hasNull = false ∧
    Chain.grammar.deriveNode ⟨0⟩ p s.tokens = .ok d s.tokens ∧ s.final? ⟨0⟩ = some u ∧
    u.Alike (s.tokens.SameText s.tokens) d ∧ ∀ i, u.hides i = false := by
  have computed : (Chain.grammar.buildUnparsers {} {}).1.toOption.any (fun s => s.enabled &&
      (s.producers ⟨0⟩).any (!·.hasNull) &&
      (s.producers ⟨0⟩).all (·.kind == .transform)) = true := by with_unfolding_all rfl
  obtain ⟨s, run, found⟩ := exists_ok_of_any computed
  simp only [Bool.and_eq_true, List.any_eq_true, List.all_eq_true, beq_iff_eq,
    Bool.not_eq_true'] at found
  obtain ⟨⟨enabled, shown⟩, transforms⟩ := found
  obtain ⟨before, p, after, d, u, split, -, full, canonical, derived, final, alike, shows⟩ :=
    final_alike_canonical Chain.built run enabled shown
  have transform := transforms p (by simp [split])
  exact ⟨s, p, d, u, run, canonical, full, derived, final, alike, shows transform⟩

end Session

end Unparsing
