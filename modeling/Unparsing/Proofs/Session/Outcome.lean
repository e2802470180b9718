import Unparsing.Build
import Unparsing.Proofs.Session.Consistency
import Unparsing.Proofs.Session.Merging
import Unparsing.Proofs.Session.Survey
import Unparsing.Proofs.Unparser.Merge

/-!
# Proofs/Session/Outcome — how a derivation ends

The three steps of a derivation are put together, over rules in any order (`Session.passOver`).
Where it ends with unparsers still derived, everything that is known of the session is an `Outcome`:
every producer derives an unparser again from the final table, and the combined unparser of a node
type is made of just these (`Session.outcome_of_passOver`).  The runs collected are those of the
combined unparsers (`Session.runTable_of_passOver`).  Conversely the derivation ends so as soon as
no step has a reason to stop (`Session.passOver_of_sound`).  Where unparsers have been given up,
nothing is left of them (`Session.blank_of_passOver`).
-/

namespace Unparsing

/-- A list of unparsers that are combined to `u`, from the left. -/
def NodeUnparser.Combines (lex : Lexicon) (us : List NodeUnparser) (u : NodeUnparser) : Prop :=
  ∃ first others, us = first :: others ∧ others.foldlM (NodeUnparser.combine lex) first = .ok u

theorem NodeUnparser.Combines.unique {lex : Lexicon} {us : List NodeUnparser} {u v : NodeUnparser}
    (hu : Combines lex us u) (hv : Combines lex us v) : u = v := by
  obtain ⟨first, others, rfl, hu⟩ := hu
  obtain ⟨_, _, same, hv⟩ := hv
  cases same
  exact Except.ok.inj (hu.symm.trans hv)

namespace Session

variable {g : Grammar} {settings : Settings} {rules : List RuleId} {queue : DiagnosticQueue}
variable {s : Session} {q q' : Progress} {n : NodeId} {p : Parser}

/-- All steps of a derivation, over rules in an order of their own. -/
def passOver (g : Grammar) (rules : List RuleId) : Pass Unit := do
  rules.forM (compute g)
  modify (check g)
  finalizePass g

/-- A derivation goes over the rules in the order of their declaration. -/
theorem pass_eq_passOver (g : Grammar) : pass g = passOver g g.ruleIds := rfl

/-- How a derivation starts. -/
def start (settings : Settings) (queue : DiagnosticQueue) : Progress :=
  { session := { settings }, queue }

/-- Each parser of a list derives the unparser in its place, from a table with all its tokens. -/
abbrev Derives (g : Grammar) (t : TokenTable) (node : NodeId) (ps : List Parser)
    (us : List NodeUnparser) : Prop :=
  List.Forall₂ (fun p u => g.deriveNode node p t = .ok u t) ps us

/-- A session in which unparsers of a grammar have been derived, from rules in that order. -/
structure Outcome (g : Grammar) (settings : Settings) (rules : List RuleId) (s : Session) :
    Prop where
  wanted : settings.wantsUnparsers = true
  sound : ∀ rule ∈ rules, g.Sound settings rule
  produced : s.produced.toList = rules.flatMap g.productions
  derivable : ∀ a ∈ rules.flatMap g.productions, g.Derivable a.1 a.2
  faithful : s.tokens.Faithful g.kinds
  tokens : ∀ v, v ∈ s.tokens.tokens.toList ↔
    ∃ a ∈ rules.flatMap g.productions, v ∈ g.vocabulary a.1 a.2
  agreed : ∀ n ∈ g.nodes.ids, g.agree (s.currentProducers g n) = true
  canonical : ∀ n, s.canonical? n =
    if n ∈ g.nodes.ids then Grammar.canonical? (s.currentProducers g n) else none
  pending : ∀ n, n ∈ g.nodes.ids ∨ s.producers n = [] → s.occurrences n = []
  derives : ∀ n, ∃ us, Derives g s.tokens n (s.producers n) us ∧
    (n ∈ g.nodes.ids → us ≠ [] →
      ∃ u, NodeUnparser.Combines (s.lexicon g) us u ∧ s.final? n = some u) ∧
    (n ∉ g.nodes.ids ∨ us = [] → s.final? n = none)

/-! ## The unparsers of a node type -/

/-- In a settled session the producers of a node type derive its unparsers. -/
theorem Settled.derives_occurrences (h : s.Settled g) (n : NodeId) :
    Derives g s.tokens n (s.producers n) (s.occurrences n) := by
  refine List.rel_filterMap ?_ h.derives
  rintro ⟨node, p⟩ ⟨_, u⟩ ⟨rfl, derived⟩
  by_cases here : node = n
  · subst here
    simpa using derived
  · simp [here]

theorem isProducer_of_mem_productions {rule : RuleId} (h : (n, p) ∈ g.productions rule) :
    p.isProducer = true := by
  obtain ⟨-, _, -, found⟩ := Grammar.mem_productions.mp h
  exact Parser.isProducer_of_mem_surveyUnder found

theorem mem_producers : p ∈ s.producers n ↔ (n, p) ∈ s.produced.toList := by
  simp [producers, and_comm, eq_comm]

/-- Unparsers derived from parsers that build nodes are not of absent nodes. -/
theorem Derives.isNull_eq_false {t : TokenTable} {ps : List Parser} {us : List NodeUnparser}
    (h : Derives g t n ps us) (producers : ∀ p ∈ ps, p.isProducer = true) :
    ∀ u ∈ us, u.isNull = false := by
  intro u hu
  obtain ⟨p, hp, derived⟩ := exists_mem_of_forall₂ h.flip hu
  exact (Grammar.deriveNode_ok derived).2.2.2 (producers p hp)

/-- Derived unparsers are well shaped. -/
theorem Derives.wellShaped {t : TokenTable} {ps : List Parser} {us : List NodeUnparser}
    (h : Derives g t n ps us) : ∀ u ∈ us, u.WellShaped g.nodes := by
  intro u hu
  obtain ⟨p, -, derived⟩ := exists_mem_of_forall₂ h.flip hu
  exact (Grammar.deriveNode_ok derived).2.2.1

theorem isProducer_of_produced (h : s.produced.toList = rules.flatMap g.productions)
    (hp : p ∈ s.producers n) : p.isProducer = true := by
  rw [mem_producers, h, List.mem_flatMap] at hp
  obtain ⟨rule, -, hp⟩ := hp
  exact isProducer_of_mem_productions hp

/-! ## A derivation that goes through -/

theorem finalizePass_eq_ok :
    finalizePass g q = .ok () q' ↔
      ∃ s', finalize g q.session = .ok () s' ∧ q' = { q with session := s' } := by
  unfold finalizePass EStateM.run
  split
  next s' done => simp [done, eq_comm]
  next problem s' failed => simp [failed]

theorem passOver_eq_ok :
    passOver g rules q = .ok () q' ↔ ∃ middle s', forM rules (compute g) q = .ok () middle ∧
      finalize g (check g middle).session = .ok () s' ∧
      q' = { check g middle with session := s' } := by
  constructor
  · intro run
    obtain ⟨⟨⟩, middle, first, rest⟩ := estate_bind_eq_ok.mp run
    obtain ⟨⟨⟩, checked, modified, last⟩ := estate_bind_eq_ok.mp rest
    cases modified
    obtain ⟨s', done, rfl⟩ := finalizePass_eq_ok.mp last
    exact ⟨middle, s', first, done, rfl⟩
  · rintro ⟨middle, s', first, done, rfl⟩
    refine estate_bind_eq_ok.mpr ⟨(), middle, first, ?_⟩
    exact estate_bind_eq_ok.mpr ⟨(), check g middle, rfl, finalizePass_eq_ok.mpr ⟨s', done, rfl⟩⟩

/-- A session just started is settled. -/
theorem settled_start (g : Grammar) (settings : Settings) (queue : DiagnosticQueue) :
    (start settings queue).session.Settled g :=
  ⟨TokenTable.faithful_empty g.kinds, .nil⟩

theorem merges_iff_combines (real : ∀ u ∈ s.occurrences n, u.isNull = false) {u : NodeUnparser} :
    Merges g s n u ↔ NodeUnparser.Combines (s.lexicon g) (s.occurrences n) u := by
  have all : (s.occurrences n).filter (!·.isNull) = s.occurrences n :=
    List.filter_eq_self.mpr fun u hu => by simp [real u hu]
  rw [Merges, all, NodeUnparser.Combines]

/-- Where unparsers are still derived at the end, those of every node type have been combined. -/
theorem merging_of_passOver (run : passOver g rules q = .ok () q')
    (enabled : q'.session.enabled = true) :
    ∃ middle s', forM rules (compute g) q = .ok () middle ∧
      (check g middle).session.enabled = true ∧
      forM g.nodes.ids (finalizeNode g) (check g middle).session = .ok () s' ∧
      q' = { check g middle with session := s' } := by
  obtain ⟨middle, s', first, last, rfl⟩ := passOver_eq_ok.mp run
  have checked : (check g middle).session.enabled = true := by
    by_contra disabled
    rw [finalize_of_disabled (by simpa using disabled)] at last
    cases last
    exact disabled enabled
  rw [finalize_of_enabled checked] at last
  exact ⟨middle, s', first, checked, last, rfl⟩

/-- **The runs of a derivation that ends with unparsers still derived** are those of the combined
unparsers, in the order of the node types. -/
theorem runTable_of_passOver (run : passOver g rules (start settings queue) = .ok () q')
    (enabled : q'.session.enabled = true) :
    q'.session.runTable = RunTable.addAll .empty
      ((g.nodes.ids.filterMap q'.session.final?).flatMap NodeUnparser.runs) := by
  obtain ⟨middle, s', first, -, last, rfl⟩ := merging_of_passOver run enabled
  have frame : Continues (start settings queue).session (check g middle).session :=
    (continues_of_forM_compute first).trans continues_check
  obtain ⟨new, adds⟩ := adds_forM_finalizeNode g (nodup_ids g.nodes) (check g middle).session
  rw [stateAfter_of_ok last] at adds
  have before (n : NodeId) : (check g middle).session.final? n = none := by
    rw [final?, frame.final]
    rfl
  have found : s'.final? = new := funext fun n => by rw [adds.final?, before, Option.or_none]
  rw [found, adds.runTable, frame.runTable]
  rfl

/-- **A derivation that ends with unparsers still derived** has this outcome. -/
theorem outcome_of_passOver (run : passOver g rules (start settings queue) = .ok () q')
    (enabled : q'.session.enabled = true) : Outcome g settings rules q'.session := by
  obtain ⟨middle, s', first, checked, last, rfl⟩ := merging_of_passOver run enabled
  obtain ⟨enabled₁, agreed⟩ := enabled_check.mp checked
  obtain ⟨wanted, sound, s₁, recorded, rfl⟩ := forM_compute_eq_ok.mp ⟨first, enabled₁⟩
  obtain ⟨known, derivable⟩ := recordAll_ok wanted (settled_start g settings queue) recorded
  obtain ⟨frame, canonical⟩ := check_session checked
  have merged := forM_finalizeNode_ok last
  generalize check g { start settings queue with session := s₁ } = reached at *
  have tokens : s'.tokens = s₁.tokens := by rw [merged.frame, frame]
  have produced : s'.produced = s₁.produced := by rw [merged.frame, frame]
  have producers (n : NodeId) : s'.producers n = s₁.producers n := by
    rw [Session.producers, produced]
    rfl
  have current (n : NodeId) : s'.currentProducers g n = s₁.currentProducers g n := by
    rw [currentProducers, producers]
    rfl
  have occurrences (n : NodeId) : reached.session.occurrences n = s₁.occurrences n := by
    rw [Session.occurrences, frame]
    rfl
  have all : s'.produced.toList = rules.flatMap g.productions := by
    rw [produced, known.produced]
    rfl
  refine ⟨wanted, sound, all, derivable, tokens ▸ known.settled.faithful, fun v => ?_,
    fun n hn => ?_, fun n => ?_, fun n h => ?_, fun n => ?_⟩
  · rw [tokens, known.tokens]
    simp [start]
  · rw [current]
    exact agreed n hn
  · have noted : s'.canonical? n = reached.session.canonical? n := by
      rw [canonical?, merged.frame]
      rfl
    have before : s₁.canonical? n = none := by
      rw [canonical?, known.frame]
      rfl
    rw [noted, canonical, current, before, Option.or_none]
  · rw [merged.occurrences]
    split
    · rfl
    next out =>
      have derived := known.settled.derives_occurrences n
      rw [occurrences, ← List.length_eq_zero_iff, ← derived.length_eq, ← producers,
        h.resolve_left out, List.length_nil]
  · have derived := known.settled.derives_occurrences n
    have occurrences := occurrences n
    have lexicon : reached.session.lexicon g = s'.lexicon g := by
      rw [Session.lexicon, Session.lexicon, tokens, frame]
    have before : reached.session.final? n = none := by
      rw [final?, frame, known.frame]
      rfl
    have real := derived.isNull_eq_false fun p => isProducer_of_produced known.produced
    refine ⟨s₁.occurrences n, ?_, fun hn some => ?_, fun none => ?_⟩
    · rw [tokens, producers]
      exact derived
    · obtain ⟨u, merges, final⟩ := merged.found n hn (occurrences ▸ some)
      rw [merges_iff_combines (occurrences ▸ real), occurrences, lexicon] at merges
      exact ⟨u, merges, final⟩
    · rw [merged.kept n (none.imp_right occurrences.trans), before]

/-- **A derivation goes through** if unparsers are wanted, the rules are sound, their productions
can be derived and agree, and the unparsers of each node type can be combined. -/
theorem passOver_of_sound (queue : DiagnosticQueue) (wanted : settings.wantsUnparsers = true)
    (sound : ∀ rule ∈ rules, g.Sound settings rule)
    (derivable : ∀ a ∈ rules.flatMap g.productions, g.Derivable a.1 a.2)
    (agreed : ∀ s : Session, s.produced.toList = rules.flatMap g.productions →
      ∀ n ∈ g.nodes.ids, g.agree (s.currentProducers g n) = true)
    (combines : ∀ s : Session, s.produced.toList = rules.flatMap g.productions →
      s.tokens.Faithful g.kinds → ∀ n ∈ g.nodes.ids, ∀ us,
      Derives g s.tokens n (s.producers n) us → us ≠ [] →
        ∃ u, NodeUnparser.Combines (s.lexicon g) us u) :
    ∃ q', passOver g rules (start settings queue) = .ok () q' ∧ q'.session.enabled = true := by
  obtain ⟨s₁, recorded⟩ := recordAll_of_derivable wanted (settled_start g settings queue) derivable
  obtain ⟨known, -⟩ := recordAll_ok wanted (settled_start g settings queue) recorded
  obtain ⟨first, enabled₁⟩ := forM_compute_eq_ok.mpr ⟨wanted, sound, s₁, recorded, rfl⟩
  have all : s₁.produced.toList = rules.flatMap g.productions := known.produced
  have checked : (check g { start settings queue with session := s₁ }).session.enabled = true :=
    enabled_check.mpr ⟨enabled₁, agreed s₁ all⟩
  obtain ⟨frame, -⟩ := check_session checked
  have merge : ∀ n ∈ g.nodes.ids,
      (check g { start settings queue with session := s₁ }).session.occurrences n ≠ [] →
        ∃ u, Merges g (check g { start settings queue with session := s₁ }).session n u := by
    rw [frame]
    intro n hn some
    have derived := known.settled.derives_occurrences n
    have real := derived.isNull_eq_false fun p => isProducer_of_produced all
    obtain ⟨u, combined⟩ := combines s₁ all known.settled.faithful n hn _ derived some
    exact ⟨u, (merges_iff_combines real).mpr combined⟩
  obtain ⟨s', last⟩ := forM_finalizeNode_of_merges merge
  refine ⟨_, passOver_eq_ok.mpr ⟨_, s', first, (finalize_of_enabled checked).trans last, rfl⟩, ?_⟩
  have still : s'.enabled = true := by rw [(forM_finalizeNode_ok last).frame, checked]
  exact still

/-- **The combined unparser of a node type** covers what each producer derives, and hides a field
only if all do. -/
theorem Outcome.final_eq (h : Outcome g settings rules s) (hn : n ∈ g.nodes.ids)
    (some : s.producers n ≠ []) :
    ∃ us u, Derives g s.tokens n (s.producers n) us ∧ s.final? n = Option.some u ∧
      u.isNull = false ∧ u.WellShaped g.nodes ∧
      (∀ d ∈ us, u.Covers (s.tokens.SameText s.tokens) d) ∧
      ∀ i, u.hides i = us.all (·.hides i) := by
  obtain ⟨us, derived, found, -⟩ := h.derives n
  have real := derived.isNull_eq_false fun p => isProducer_of_produced h.produced
  have shaped := derived.wellShaped
  have nonempty : us ≠ [] := by
    rintro rfl
    exact some (List.forall₂_nil_right_iff.mp derived)
  obtain ⟨u, ⟨first, others, rfl, combined⟩, final⟩ := found hn nonempty
  obtain ⟨covers, shape, notNull, hides⟩ := NodeUnparser.foldlM_combine_ok shaped real combined
  exact ⟨_, u, derived, final, notNull, shape, covers, hides⟩

/-- Only a node type with producers has a combined unparser. -/
theorem Outcome.producers_ne_nil (h : Outcome g settings rules s) {u : NodeUnparser}
    (final : s.final? n = some u) : s.producers n ≠ [] := by
  intro none
  obtain ⟨us, derived, -, absent⟩ := h.derives n
  rw [none] at derived
  cases final.symm.trans (absent (.inr (List.forall₂_nil_left_iff.mp derived)))

/-! ## A derivation that is given up -/

/-- **Where unparsers have been given up, nothing is left of them.** -/
theorem blank_of_passOver (run : passOver g rules (start settings queue) = .ok () q')
    (disabled : q'.session.enabled = false) :
    q'.session.final = [] ∧ q'.session.derived = #[] ∧ q'.session.runs = #[] := by
  obtain ⟨middle, s', first, last, rfl⟩ := passOver_eq_ok.mp run
  have runs : (check g middle).session.runs = #[] :=
    congrArg RunTable.runs ((continues_of_forM_compute first).trans continues_check).runTable
  by_cases checked : (check g middle).session.enabled = true
  · rw [finalize_of_enabled checked] at last
    have still : s'.enabled = true := by rw [(forM_finalizeNode_ok last).frame, checked]
    cases still.symm.trans disabled
  · rw [finalize_of_disabled (by simpa using checked)] at last
    cases last
    exact ⟨rfl, rfl, runs⟩

end Session

end Unparsing
