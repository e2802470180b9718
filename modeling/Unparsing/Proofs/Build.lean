import Unparsing.Proofs.Grammar.Built
import Unparsing.Proofs.Session.Outcome

/-!
# Proofs/Build — what the unparsers of a grammar are worth

For grammars that were declared step by step, over any settings and any queue:

* `Session.final_covers_producers` — the combined unparser of a node type writes it as each of its
  producers does, and leaves out only the fields that none of them shows.
* `Session.all_or_nothing` — either every node type that is built has a canonical producer and a
  combined unparser, or no node type has any.

`Chain.grammar` is a small grammar to try them on: a node type with one field, built by two parsers,
one of which never fills the field.
-/

namespace Unparsing

/-! ## A grammar of chains

A link is a dot followed by the rest of the chain, or by nothing. -/

namespace Chain

open Grammar

/-- The token `.`. -/
def dot : Parser := .token ⟨0⟩ ⟨1⟩ none
/-- The end of a chain, which is written as nothing. -/
def stop : Parser := .null ⟨1⟩ ⟨0⟩
/-- A reference to the rule of chains. -/
def next : Parser := .defer ⟨2⟩ ⟨0⟩
/-- A dot, with nothing behind it. -/
def last : Parser := .transform ⟨4⟩ ⟨0⟩ ⟨3⟩ [dot, stop]
/-- A dot, with a chain behind it. -/
def link : Parser := .transform ⟨6⟩ ⟨0⟩ ⟨5⟩ [dot, next]
/-- A link, whichever it is. -/
def chain : Parser := .choice ⟨7⟩ [link, last]

/-- The node types and token kinds of chains. -/
def registries : Grammar where
  nodes := (({} : NodeTypes).declare "Link" none {} |>.2.addField ⟨0⟩ "rest").2
  kinds := (({} : TokenKinds).declareLiteral "Dot" ".").2

/-- The rule of chains, and one for the last link. -/
def grammar : Grammar :=
  registries.declareRule "chain" |>.2.token ⟨1⟩ none |>.2.null ⟨0⟩ |>.2.defer ⟨0⟩
    |>.2.transform ⟨0⟩ [dot, stop] |>.2.transform ⟨0⟩ [dot, next] |>.2.choice [link, last]
    |>.2.defineRule ⟨0⟩ chain |>.addRule "last" last |>.2

theorem built_registries : registries.Built :=
  Built.empty.step (.nodes (.declare "Link" none {} nofun))
    |>.step (.nodes (.addField ⟨0⟩ "rest" (by decide)))
    |>.step (.kinds (.declareLiteral "Dot" "."))

/-- Chains are declared step by step. -/
theorem built : grammar.Built := by
  refine built_registries.step (.declareRule "chain")
    |>.step (.token ⟨1⟩ none (TokenKinds.first_mem_ids (by decide) _)) |>.step (.null ⟨0⟩ ?_)
    |>.step (.defer ⟨0⟩ ?_)
    |>.step (.transform ⟨0⟩ [dot, stop] ?_ ?_)
    |>.step (.transform ⟨0⟩ [dot, next] ?_ ?_)
    |>.step (.choice [link, last] ?_) |>.step (.defineRule ⟨0⟩ chain ?_)
    |>.step (.addRule "last" last ?_)
  all_goals
    first
    | exact mem_parsers rfl
    | exact forall_mem_parsers rfl
    | exact Index.mem_upTo.mpr (by decide)

/-- Chains have unparsers. -/
theorem generated : ∃ s, (grammar.buildUnparsers {} {}).1 = .ok s ∧ s.enabled = true ∧
    s.producers ⟨0⟩ ≠ [] := by
  have computed : (grammar.buildUnparsers {} {}).1.toOption.any
      (fun s => s.enabled && !(s.producers ⟨0⟩).isEmpty) = true := by decide +kernel
  obtain ⟨s, run, found⟩ := exists_ok_of_any computed
  exact ⟨s, run, by simpa using found⟩

end Chain

namespace Session

variable {g : Grammar} {settings : Settings} {queue : DiagnosticQueue} {s : Session}
variable {rules : List RuleId} {n : NodeId} {p : Parser}

/-! ## Sessions that were built -/

/-- The derivation of a grammar goes through if the pass over its rules does. -/
theorem buildUnparsers_eq {queue' : DiagnosticQueue} :
    g.buildUnparsers settings queue = (.ok s, queue') ↔
      passOver g g.ruleIds (start settings queue) = .ok () ⟨s, queue'⟩ := by
  unfold Grammar.buildUnparsers
  rw [pass_eq_passOver, EStateM.run, start]
  split
  next q' run =>
    simp only [run, Prod.mk.injEq, Except.ok.injEq, EStateM.Result.ok.injEq, true_and]
    constructor
    · rintro ⟨rfl, rfl⟩
      rfl
    · rintro rfl
      exact ⟨rfl, rfl⟩
  next problem q' run => simp [run]

/-- So a session comes of a grammar if one comes of the pass over its rules. -/
theorem buildUnparsers_eq_ok :
    (g.buildUnparsers settings queue).1 = .ok s ↔
      ∃ queue', passOver g g.ruleIds (start settings queue) = .ok () ⟨s, queue'⟩ := by
  simp only [← buildUnparsers_eq, Prod.ext_iff, exists_and_left, exists_eq', and_true]

/-- The problem that ends the pass over its rules is what is reported of a grammar. -/
theorem buildUnparsers_of_error {problem : Problem} {q : Progress}
    (run : passOver g g.ruleIds (start settings queue) = .error problem q) :
    g.buildUnparsers settings queue = (.error {}, (q.queue.add problem.diagnostic).2) := by
  rw [start] at run
  simp only [Grammar.buildUnparsers, pass_eq_passOver, EStateM.run, run, DiagnosticQueue.emitError]

/-- Where unparsers are still derived at the end, they have been from all rules in their order. -/
theorem outcome_of_buildUnparsers (run : (g.buildUnparsers settings queue).1 = .ok s)
    (enabled : s.enabled = true) : Outcome g settings g.ruleIds s := by
  obtain ⟨queue', run⟩ := buildUnparsers_eq_ok.mp run
  exact outcome_of_passOver run enabled

/-- What a rule of a well-formed grammar builds is declared. -/
theorem of_mem_productions (wf : g.WellFormed) {rule : RuleId} (h : (n, p) ∈ g.productions rule) :
    p ∈ g.parsers ∧ n ∈ g.nodes.ids := by
  obtain ⟨-, _, rooted, found⟩ := Grammar.mem_productions.mp h
  exact wf.of_mem_surveyUnder (wf.mem_of_root? rooted) found

/-- A producer of a well-formed grammar is declared, and so is its node type. -/
theorem of_mem_producers (wf : g.WellFormed)
    (produced : s.produced.toList = rules.flatMap g.productions) (hp : p ∈ s.producers n) :
    p ∈ g.parsers ∧ n ∈ g.nodes.ids := by
  rw [mem_producers, produced, List.mem_flatMap] at hp
  obtain ⟨rule, -, hp⟩ := hp
  exact of_mem_productions wf hp

/-- In a well-formed grammar, producers are compared as they were recorded. -/
theorem currentProducers_eq_of_produced (wf : g.WellFormed)
    (produced : s.produced.toList = rules.flatMap g.productions) (n : NodeId) :
    s.currentProducers g n = s.producers n :=
  (List.map_congr_left fun _ hp => wf.current_eq (of_mem_producers wf produced hp).1).trans
    (List.map_id _)

/-- What builds a node type is declared, and so is the node type. -/
theorem Outcome.of_mem_producers (h : Outcome g settings rules s) (wf : g.WellFormed)
    (hp : p ∈ s.producers n) : p ∈ g.parsers ∧ n ∈ g.nodes.ids :=
  Session.of_mem_producers wf h.produced hp

/-- A node type that is built is declared. -/
theorem Outcome.mem_ids (h : Outcome g settings rules s) (wf : g.WellFormed)
    (some : s.producers n ≠ []) : n ∈ g.nodes.ids := by
  obtain ⟨p, hp⟩ := List.exists_mem_of_ne_nil _ some
  exact (h.of_mem_producers wf hp).2

/-- Producers found in a grammar are what the grammar has under their numbers. -/
theorem Outcome.currentProducers_eq (h : Outcome g settings rules s) (wf : g.WellFormed)
    (n : NodeId) : s.currentProducers g n = s.producers n :=
  currentProducers_eq_of_produced wf h.produced n

/-! ## The canonical producer -/

/-- There is a canonical producer just if there is any. -/
theorem isSome_canonical? {ps : List Parser} :
    (Grammar.canonical? ps).isSome = true ↔ ps ≠ [] := by
  cases ps <;> simp [Grammar.canonical?]

/-- The canonical producer is one of the producers. -/
theorem mem_of_canonical? {ps : List Parser} (h : Grammar.canonical? ps = some p) : p ∈ ps := by
  rw [Grammar.canonical?, Option.or_eq_some_iff] at h
  obtain h | ⟨-, h⟩ := h
  · exact List.mem_of_find?_eq_some h
  · exact List.mem_of_head? h

/-! ## The theorems -/

/-- **The unparser of a node type agrees with each of its producers.**  Every producer derives an
unparser; the combined one is of the same node type and the same form, and its tokens are written
alike wherever the producer shows anything.  It leaves out just the fields that no producer
shows. -/
theorem final_covers_producers (built : g.Built)
    (run : (g.buildUnparsers settings queue).1 = .ok s) (enabled : s.enabled = true) (n : NodeId) :
    (∀ p ∈ s.producers n, ∃ d u, g.deriveNode n p s.tokens = .ok d s.tokens ∧
      s.final? n = some u ∧ d.node = n ∧ d.isNull = false ∧
      u.Covers (s.tokens.SameText s.tokens) d) ∧
    ∀ u, s.final? n = some u → ∀ i, u.hides i = true ↔
      ∀ p ∈ s.producers n, ∀ d, g.deriveNode n p s.tokens = .ok d s.tokens → d.hides i = true := by
  have wf := built.wellFormed
  have h := outcome_of_buildUnparsers run enabled
  constructor
  · intro p hp
    obtain ⟨us, u, derived, final, -, -, covers, -⟩ :=
      h.final_eq (h.of_mem_producers wf hp).2 (List.ne_nil_of_mem hp)
    obtain ⟨d, hd, runs⟩ := exists_mem_of_forall₂ derived hp
    obtain ⟨-, node, -, real⟩ := Grammar.deriveNode_ok runs
    exact ⟨d, u, runs, final, node, real (isProducer_of_produced h.produced hp), covers d hd⟩
  · intro u final i
    have some := h.producers_ne_nil final
    obtain ⟨us, u', derived, final', -, -, -, hides⟩ := h.final_eq (h.mem_ids wf some) some
    cases final.symm.trans final'
    rw [hides, List.all_eq_true]
    constructor
    · intro all p hp d runs
      obtain ⟨d', hd, runs'⟩ := exists_mem_of_forall₂ derived hp
      cases runs.symm.trans runs'
      exact all d hd
    · intro all d hd
      obtain ⟨p, hp, runs⟩ := exists_mem_of_forall₂ derived.flip hd
      exact all p hp d runs

/-- The combined unparser of a link covers those of both of its producers. -/
theorem final_covers_chain : ∃ s, (Chain.grammar.buildUnparsers {} {}).1 = .ok s ∧
    s.enabled = true ∧ s.producers ⟨0⟩ ≠ [] ∧ ∀ p ∈ s.producers ⟨0⟩, ∃ d u,
      Chain.grammar.deriveNode ⟨0⟩ p s.tokens = .ok d s.tokens ∧ s.final? ⟨0⟩ = some u ∧
      u.Covers (s.tokens.SameText s.tokens) d := by
  obtain ⟨s, run, enabled, some⟩ := Chain.generated
  refine ⟨s, run, enabled, some, fun p hp => ?_⟩
  obtain ⟨d, u, derived, final, -, -, covers⟩ :=
    (final_covers_producers Chain.built run enabled ⟨0⟩).1 p hp
  exact ⟨d, u, derived, final, covers⟩

/-- **Unparsers for all node types or for none.**  While unparsers are derived, a node type has a
combined unparser, of that type and not of an absent node, if and only if it has a canonical
producer, if and only if it has a producer at all; only types that parsers may build have one, and
nothing is left to combine.  Once they are given up, no node type has any. -/
theorem all_or_nothing (built : g.Built) (run : (g.buildUnparsers settings queue).1 = .ok s) :
    (s.enabled = true → ∀ n,
      (s.producers n ≠ [] ↔ (s.final? n).isSome = true) ∧
      (s.producers n ≠ [] ↔ (s.canonical? n).isSome = true) ∧
      (∀ u, s.final? n = some u → u.node = n ∧ u.isNull = false ∧
        g.nodes.isAbstract n = false ∧ g.nodes.isSynthetic n = false) ∧
      (∀ p, s.canonical? n = some p → p ∈ s.producers n) ∧
      s.occurrences n = []) ∧
    (s.enabled = false → (∀ n, s.final? n = none ∧ s.occurrences n = []) ∧ s.runs = #[]) := by
  have wf := built.wellFormed
  refine ⟨fun enabled n => ?_, fun disabled => ?_⟩
  · have h := outcome_of_buildUnparsers run enabled
    have canonical := h.canonical n
    rw [h.currentProducers_eq wf] at canonical
    refine ⟨⟨fun some => ?_, fun some => ?_⟩, ⟨fun some => ?_, fun some => ?_⟩, fun u final => ?_,
      fun p hp => ?_, h.pending n ?_⟩
    · obtain ⟨_, u, -, final, -⟩ := h.final_eq (h.mem_ids wf some) some
      rw [final, Option.isSome_some]
    · obtain ⟨u, final⟩ := Option.isSome_iff_exists.mp some
      exact h.producers_ne_nil final
    · rw [canonical, if_pos (h.mem_ids wf some)]
      exact isSome_canonical?.mpr some
    · rw [canonical] at some
      split at some
      · exact isSome_canonical?.mp some
      · cases some
    · have some := h.producers_ne_nil final
      obtain ⟨us, u', derived, final', notNull, -, covers, -⟩ := h.final_eq (h.mem_ids wf some) some
      cases final.symm.trans final'
      obtain ⟨p, hp⟩ := List.exists_mem_of_ne_nil _ some
      obtain ⟨d, hd, runs⟩ := exists_mem_of_forall₂ derived hp
      obtain ⟨concrete, node, -⟩ := Grammar.deriveNode_ok runs
      rw [NodeTypes.isConcrete, Bool.and_eq_true, Bool.not_eq_true', Bool.not_eq_true'] at concrete
      exact ⟨(covers d hd).node_eq.trans node, notNull, concrete⟩
    · rw [canonical] at hp
      split at hp
      · exact mem_of_canonical? hp
      · cases hp
    · by_cases none : s.producers n = []
      · exact .inr none
      · exact .inl (h.mem_ids wf none)
  · obtain ⟨queue', run⟩ := buildUnparsers_eq_ok.mp run
    obtain ⟨final, derived, runs⟩ := blank_of_passOver run disabled
    exact ⟨fun n => ⟨by simp [final?, show s.final = [] from final],
      by simp [occurrences, show s.derived = #[] from derived]⟩, runs⟩

/-- Links have a combined unparser and a canonical producer. -/
theorem all_of_chain : ∃ s, (Chain.grammar.buildUnparsers {} {}).1 = .ok s ∧ s.enabled = true ∧
    (s.final? ⟨0⟩).isSome = true ∧ (s.canonical? ⟨0⟩).isSome = true := by
  obtain ⟨s, run, enabled, some⟩ := Chain.generated
  obtain ⟨final, canonical, -⟩ := (all_or_nothing Chain.built run).1 enabled ⟨0⟩
  exact ⟨s, run, enabled, final.mp some, canonical.mp some⟩

end Session

end Unparsing
