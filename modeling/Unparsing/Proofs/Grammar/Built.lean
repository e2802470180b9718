import Unparsing.Grammar.Basic
import Unparsing.Proofs.General.Lists
import Unparsing.Proofs.Session.Survey

/-!
# Proofs/Grammar/Built — what holds of every grammar that was declared step by step

A grammar is built by declaring node types, token kinds, parsers and rules, each over what has been
declared before (`Grammar.Built`).  So every parser carries its own number, holds declared parsers
only, and builds declared node types only (`Grammar.WellFormed`), and the same holds of everything
that a survey of a rule comes upon (`WellFormed.of_mem_surveyUnder`).
-/

namespace Unparsing

/-! ## Registries -/

/-- One declaration in the taxonomy of node types. -/
inductive NodeTypes.Step (ns : NodeTypes) : NodeTypes → Prop
  | declare (name : String) (base : Option NodeId) (traits : NodeTraits)
      (declared : ∀ b ∈ base, b ∈ ns.ids) : Step ns (ns.declare name base traits).2
  | addField (owner : NodeId) (name : String) (declared : owner ∈ ns.ids) :
      Step ns (ns.addField owner name).2
  | declareList (name : String) (element : NodeId) (traits : NodeTraits)
      (declared : element ∈ ns.ids) : Step ns (ns.declareList name element traits).2
  | listOf (element : NodeId) (declared : element ∈ ns.ids) : Step ns (ns.listOf element).2
  | declareBool (name : String) : Step ns (ns.declareBool name).2

/-- One declaration of a token kind. -/
inductive TokenKinds.Step (ks : TokenKinds) : TokenKinds → Prop
  | declareLiteral (name text : String) : Step ks (ks.declareLiteral name text).2
  | declarePattern (name : String) : Step ks (ks.declarePattern name).2

/-- The first kind that is declared comes right after the end of the input. -/
theorem TokenKinds.first_mem_ids {name : String} (fresh : name ≠ "Termination")
    (literal : Option String) : ⟨1⟩ ∈ (({} : TokenKinds).declare name literal).2.ids := by
  simp [declare, find?, ids, size, fresh.symm]

/-- Node types are never taken back. -/
theorem NodeTypes.Step.size_le {ns ns' : NodeTypes} (h : ns.Step ns') : ns.size ≤ ns'.size := by
  cases h with
  | declare => simp [NodeTypes.declare, size]
  | addField => simp [NodeTypes.addField, size]
  | declareList => simp [NodeTypes.declareList, size]
  | listOf element =>
    unfold NodeTypes.listOf
    split
    · exact Nat.le_refl _
    · simp [NodeTypes.declareList, size]
  | declareBool => simp +arith [NodeTypes.declareBool, NodeTypes.declare, size]

theorem NodeTypes.Step.mem_ids {ns ns' : NodeTypes} (h : ns.Step ns') {n : NodeId}
    (hn : n ∈ ns.ids) : n ∈ ns'.ids := by
  rw [ids, Index.mem_upTo] at hn ⊢
  exact Nat.lt_of_lt_of_le hn h.size_le

/-! ## Grammars -/

namespace Grammar

variable {g g' : Grammar}

/-- One declaration in a grammar, over what it declares already. -/
inductive Step (g : Grammar) : Grammar → Prop
  | nodes {ns : NodeTypes} (step : g.nodes.Step ns) : Step g { g with nodes := ns }
  | kinds {ks : TokenKinds} (step : g.kinds.Step ks) : Step g { g with kinds := ks }
  | row (items : List Parser) (declared : ∀ p ∈ items, p ∈ g.parsers) : Step g (g.row items).2
  | transform (node : NodeId) (items : List Parser) (typed : node ∈ g.nodes.ids)
      (declared : ∀ p ∈ items, p ∈ g.parsers) : Step g (g.transform node items).2
  | pick (items : List Parser) (index : Nat) (declared : ∀ p ∈ items, p ∈ g.parsers) :
      Step g (g.pick items index).2
  | list (node : NodeId) (element : Parser) (separator : Option Parser)
      (typed : node ∈ g.nodes.ids) (declared : element ∈ g.parsers)
      (separated : ∀ p ∈ separator, p ∈ g.parsers) : Step g (g.list node element separator).2
  | opt (inner : Parser) (declared : inner ∈ g.parsers) : Step g (g.opt inner).2
  | optTolerant (inner : Parser) (declared : inner ∈ g.parsers) : Step g (g.optTolerant inner).2
  | optBool (inner : Parser) (alternatives : BoolAlternatives)
      (typed : ∀ n ∈ alternatives.toList, n ∈ g.nodes.ids) (declared : inner ∈ g.parsers) :
      Step g (g.optBool inner alternatives).2
  | choice (branches : List Parser) (declared : ∀ p ∈ branches, p ∈ g.parsers) :
      Step g (g.choice branches).2
  | defer (rule : RuleId) (declared : rule ∈ g.ruleIds) : Step g (g.defer rule).2
  | token (kind : KindId) (text : Option String) (declared : kind ∈ g.kinds.ids) :
      Step g (g.token kind text).2
  | null (node : NodeId) (typed : node ∈ g.nodes.ids) : Step g (g.null node).2
  | predicate (inner : Parser) (property : String) (declared : inner ∈ g.parsers) :
      Step g (g.predicate inner property).2
  | skip (node : NodeId) (typed : node ∈ g.nodes.ids) : Step g (g.skip node).2
  | noBacktrack : Step g g.noBacktrack.2
  | dontSkip (inner : Parser) (declared : inner ∈ g.parsers) : Step g (g.dontSkip inner).2
  | setSpan (id : ParserId) (span : Span) : Step g (g.setSpan id span)
  | declareRule (name : String) : Step g (g.declareRule name).2
  | defineRule (id : RuleId) (root : Parser) (declared : root ∈ g.parsers) :
      Step g (g.defineRule id root)
  | addRule (name : String) (root : Parser) (declared : root ∈ g.parsers) :
      Step g (g.addRule name root).2
  | addDontSkipRule (name : String) (root : Parser) (declared : root ∈ g.parsers) :
      Step g (g.addDontSkipRule name root).2
  | fork : Step g g.fork

/-- A grammar that was declared step by step, from nothing. -/
inductive Built : Grammar → Prop
  | empty : Built {}
  | step {g g' : Grammar} : Built g → g.Step g' → Built g'

/-- The parsers of a grammar, their parts and their node types belong together. -/
structure WellFormed (g : Grammar) : Prop where
  numbered : ∀ p ∈ g.parsers, g.parser? p.id = some p
  closed : ∀ p ∈ g.parsers, ∀ q ∈ p.children, q ∈ g.parsers
  typed : ∀ p ∈ g.parsers, ∀ top n q, .builds n q ∈ p.findings top → n ∈ g.nodes.ids
  rooted : ∀ rule ∈ g.rules.toList, ∀ root ∈ rule.root, root ∈ g.parsers

/-- A declaration adds one parser, with the next number. -/
theorem parsers_add (g : Grammar) (form : ParserId → Parser) :
    (g.add form).2.parsers = g.parsers ++ [form ⟨g.located.size⟩] := by
  simp [parsers]

theorem parser?_eq_getElem? (g : Grammar) (id : ParserId) : g.parser? id = g.parsers[id.raw]? := by
  simp [parser?, parsers]

/-- What is looked up was declared. -/
theorem mem_parsers {p : Parser} (h : g.parser? p.id = some p) : p ∈ g.parsers := by
  rw [parser?_eq_getElem?] at h
  exact List.mem_of_getElem? h

/-- Parsers have been declared if their numbers lead back to them. -/
theorem forall_mem_parsers {ps : List Parser} (h : ps.map (g.parser? ·.id) = ps.map some) :
    ∀ p ∈ ps, p ∈ g.parsers :=
  fun p hp => mem_parsers (List.map_inj_left.mp h p hp)

theorem length_parsers (g : Grammar) : g.parsers.length = g.located.size := by simp [parsers]

/-- **A new parser keeps a grammar well formed** if it carries its number and holds what has been
declared. -/
theorem WellFormed.add (wf : g.WellFormed) {form : ParserId → Parser}
    (numbered : ∀ id, (form id).id = id) (closed : ∀ id, ∀ q ∈ (form id).children, q ∈ g.parsers)
    (typed : ∀ id top n q, .builds n q ∈ (form id).findings top → n ∈ g.nodes.ids) :
    (g.add form).2.WellFormed where
  numbered p hp := by
    rw [parsers_add, List.mem_append, List.mem_singleton] at hp
    rw [parser?_eq_getElem?, parsers_add]
    obtain hp | rfl := hp
    · have old := wf.numbered p hp
      rw [parser?_eq_getElem?] at old
      rw [List.getElem?_append_left (List.getElem?_eq_some_iff.mp old).1, old]
    · rw [numbered, ← length_parsers, List.getElem?_concat_length]
  closed p hp q hq := by
    rw [parsers_add, List.mem_append, List.mem_singleton] at hp ⊢
    obtain hp | rfl := hp
    · exact .inl (wf.closed p hp q hq)
    · exact .inl (closed _ q hq)
  typed p hp := by
    rw [parsers_add, List.mem_append, List.mem_singleton] at hp
    obtain hp | rfl := hp
    · exact wf.typed p hp
    · exact typed _
  rooted rule hrule root hroot := by
    rw [parsers_add]
    exact List.mem_append_left _ (wf.rooted rule hrule root hroot)

/-- A new parser that builds no nodes itself brings no node type along. -/
theorem WellFormed.addPlain (wf : g.WellFormed) {form : ParserId → Parser}
    (numbered : ∀ id, (form id).id = id) (closed : ∀ id, ∀ q ∈ (form id).children, q ∈ g.parsers)
    (plain : ∀ id, (form id).isProducer = false) : (g.add form).2.WellFormed := by
  refine wf.add numbered closed fun id top n q hq => ?_
  have producer := (Parser.findings_producer hq).2
  rw [plain id] at producer
  cases producer

/-- A grammar without parsers and rules is well formed. -/
theorem wellFormed_of_registries (nodes : NodeTypes) (kinds : TokenKinds) :
    WellFormed { nodes, kinds } :=
  ⟨by simp [parsers], by simp [parsers], by simp [parsers], by simp⟩

/-- New rules keep a grammar well formed if their roots are declared. -/
theorem WellFormed.withRules (wf : g.WellFormed) {rules : Array Rule}
    (rooted : ∀ rule ∈ rules.toList, ∀ root ∈ rule.root, root ∈ g.parsers) :
    WellFormed { g with rules } :=
  ⟨wf.numbered, wf.closed, wf.typed, rooted⟩

/-- A new row with declared items, and a new parser around it. -/
theorem WellFormed.addAround (wf : g.WellFormed) {items : List Parser}
    (form : ParserId → ParserId → Parser) (declared : ∀ p ∈ items, p ∈ g.parsers)
    (numbered : ∀ rowId id, (form rowId id).id = id)
    (children : ∀ rowId id, (form rowId id).children = [.row rowId items])
    (typed : ∀ rowId id top n q, .builds n q ∈ (form rowId id).findings top → n ∈ g.nodes.ids) :
    ((g.row items).2.add (form (g.row items).1.id)).2.WellFormed := by
  have row : (g.row items).2.WellFormed :=
    wf.addPlain (fun _ => rfl) (fun _ => declared) fun _ => rfl
  refine row.add (numbered _) (fun id q hq => ?_) (typed _)
  rw [children, List.mem_singleton] at hq
  rw [hq, Grammar.row, parsers_add]
  exact List.mem_append_right _ List.mem_cons_self

theorem parsers_setSpan (g : Grammar) (id : ParserId) (span : Span) :
    (g.setSpan id span).parsers = g.parsers := by
  refine List.ext_getElem? fun i => ?_
  simp only [parsers, setSpan, List.getElem?_map, Array.getElem?_toList, Array.getElem?_modify]
  split
  · cases g.located[i]? <;> rfl
  · rfl

/-- Spans do not matter. -/
theorem WellFormed.setSpan (wf : g.WellFormed) (id : ParserId) (span : Span) :
    (g.setSpan id span).WellFormed := by
  have same := parsers_setSpan g id span
  refine ⟨fun p hp => ?_, same ▸ wf.closed, same ▸ wf.typed, same ▸ wf.rooted⟩
  rw [parser?_eq_getElem?, same, ← parser?_eq_getElem?]
  exact wf.numbered p (same ▸ hp)

theorem Step.wellFormed (step : g.Step g') (wf : g.WellFormed) : g'.WellFormed := by
  cases step with
  | nodes step =>
    exact ⟨wf.numbered, wf.closed, fun p hp top n q hq => step.mem_ids (wf.typed p hp top n q hq),
      wf.rooted⟩
  | kinds step => exact ⟨wf.numbered, wf.closed, wf.typed, wf.rooted⟩
  | row items declared => exact wf.addPlain (fun _ => rfl) (fun _ => declared) fun _ => rfl
  | transform node items typed declared =>
    refine wf.addAround (fun rowId id => .transform id node rowId items) declared (fun _ _ => rfl)
      (fun _ _ => rfl) fun _ _ _ n q hq => ?_
    cases List.mem_singleton.mp hq
    exact typed
  | pick items index declared =>
    refine wf.addAround (fun rowId id => .pick id rowId items index) declared (fun _ _ => rfl)
      (fun _ _ => rfl) fun _ _ _ _ _ hq => ?_
    cases (Parser.findings_producer hq).2
  | list node element separator typed declared separated =>
    refine wf.add (fun _ => rfl) (fun _ q hq => ?_) fun _ _ n q hq => ?_
    · obtain rfl | hq := List.mem_cons.mp hq
      · exact declared
      · exact separated q (Option.mem_toList.mp hq)
    · cases List.mem_singleton.mp hq
      exact typed
  | optBool inner alternatives typed declared =>
    refine wf.add (fun _ => rfl) (fun _ => by simpa [Parser.children] using declared)
      fun _ _ n q hq => ?_
    obtain ⟨m, hm, same⟩ := List.mem_map.mp hq
    cases same
    exact typed n hm
  | opt inner declared | optTolerant inner declared | predicate inner property declared
  | dontSkip inner declared =>
    exact wf.addPlain (fun _ => rfl) (fun _ => by simpa [Parser.children] using declared)
      fun _ => rfl
  | choice branches declared => exact wf.addPlain (fun _ => rfl) (fun _ => declared) fun _ => rfl
  | defer | token | null | skip | noBacktrack =>
    exact wf.addPlain (fun _ => rfl) (fun _ => List.forall_mem_nil _) fun _ => rfl
  | setSpan id span => exact wf.setSpan id span
  | declareRule name =>
    refine wf.withRules fun rule hrule root hroot => ?_
    rw [Array.toList_push, List.mem_append, List.mem_singleton] at hrule
    obtain hrule | rfl := hrule
    · exact wf.rooted rule hrule root hroot
    · cases hroot
  | defineRule id root declared =>
    refine wf.withRules fun rule hrule root' hroot => ?_
    obtain hrule | ⟨r, -, rfl⟩ := mem_toList_modify hrule
    · exact wf.rooted rule hrule root' hroot
    · cases hroot
      exact declared
  | addRule name root declared | addDontSkipRule name root declared =>
    refine wf.withRules fun rule hrule root' hroot => ?_
    rw [Array.toList_push, List.mem_append, List.mem_singleton] at hrule
    obtain hrule | rfl := hrule
    · exact wf.rooted rule hrule root' hroot
    · cases hroot
      exact declared
  | fork => exact wellFormed_of_registries g.nodes g.kinds

theorem Built.wellFormed (h : g.Built) : g.WellFormed := by
  induction h with
  | empty => exact wellFormed_of_registries {} {}
  | step _ step ih => exact step.wellFormed ih

/-! ## What a survey comes upon -/

/-- A declared parser is looked up by its number as it is. -/
theorem WellFormed.current_eq (wf : g.WellFormed) {p : Parser} (hp : p ∈ g.parsers) :
    g.current p = p :=
  current_of_parser? (wf.numbered p hp)

/-- The root of a rule was declared. -/
theorem WellFormed.mem_of_root? (wf : g.WellFormed) {id : RuleId} {root : Parser}
    (h : g.root? id = some root) : root ∈ g.parsers := by
  obtain ⟨rule, hrule, hroot⟩ := Option.bind_eq_some_iff.mp h
  exact wf.rooted rule (Array.mem_toList_iff.mpr (Array.mem_of_getElem? hrule)) root hroot

/-- **What a survey of a declared parser comes upon is declared**, parsers and node types. -/
theorem WellFormed.of_mem_surveyUnder (wf : g.WellFormed) {p q : Parser} (hp : p ∈ g.parsers)
    {top : Bool} {n : NodeId} (h : .builds n q ∈ p.surveyUnder top) :
    q ∈ g.parsers ∧ n ∈ g.nodes.ids := by
  obtain ⟨hq, -, top, here⟩ := Parser.of_mem_surveyUnder (P := (· ∈ g.parsers)) wf.closed hp h
  exact ⟨hq, wf.typed q hq top n q here⟩

end Grammar

end Unparsing
