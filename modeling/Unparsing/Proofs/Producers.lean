import Unparsing.Proofs.Build
import Unparsing.Proofs.Session.Producers

/-!
# Proofs/Producers — the producers of a node type are read off the rules

`Session.recorded_exactly` puts together what is known of recording: the producers of a node type
are listed from the roots of the rules, whatever is derived from them, and a derivation that goes
through in any mode does so without unparsers, with the same producers.

A boolean optional counts once for each of its alternatives.  So one whose two alternatives are of
the same type stands twice in the list (`Session.listed_twice`).
-/

namespace Unparsing

/-! ## A grammar of flags

A flag is set by a dot.  Its alternatives are of one type. -/

namespace Flags

open Grammar

/-- The token `.`. -/
def dot : Parser := .token ⟨0⟩ ⟨1⟩ none
/-- A flag whose two alternatives are of one type. -/
def flag : Parser := .optBool ⟨1⟩ dot ⟨⟨0⟩, ⟨1⟩, ⟨1⟩⟩

/-- The rule of flags. -/
def grammar : Grammar :=
  ({ nodes := (({} : NodeTypes).declare "Flag" none { abstract := true } |>.2
        |>.declare "Flag.Present" (some ⟨0⟩) {}).2
     kinds := (({} : TokenKinds).declareLiteral "Dot" ".").2 } : Grammar)
    |>.token ⟨1⟩ none |>.2.optBool dot ⟨⟨0⟩, ⟨1⟩, ⟨1⟩⟩ |>.2.addRule "flag" flag |>.2

end Flags

namespace Session

/-- **Recording is exact, and independent of what is derived.**

* Over any rules that are recorded without a problem, the producers of a node type are those listed
  from the roots of the rules, in order.
* Without unparsers, every rule is recorded that is passed over or has a root, whatever was called
  before.
* A derivation that goes through does so without unparsers, with the same producers and the same
  reports of unused node types; then the table of tokens is empty, and nothing is combined. -/
theorem recorded_exactly (g : Grammar) (settings : Settings) (queue : DiagnosticQueue) :
    (∀ (rules : List RuleId) q, forM rules (compute g) (start settings queue) = .ok () q →
      ∀ n, q.session.producers n = rules.flatMap (g.listed n)) ∧
    (∀ cs rule queue, g.Recordable rule → ∃ q,
      compute g rule ⟨calls g { settings := { settings with mode := .disabled } } cs, queue⟩ =
        .ok () q) ∧
    ∀ s queue', g.buildUnparsers settings queue = (.ok s, queue') →
      ∃ s₀ queue₀,
        g.buildUnparsers { settings with mode := .disabled } queue = (.ok s₀, queue₀) ∧
        (∀ n, s₀.producers n = s.producers n) ∧
        queue₀.coded .unusedNodeType = queue'.coded .unusedNodeType ∧
        s₀.tokens = {} ∧ ∀ n, s₀.final? n = none := by
  refine ⟨fun rules q run => ?_, fun cs rule queue ready => ?_, fun s queue' run => ?_⟩
  · have recorded : q.session.produced.toList = rules.flatMap g.productions :=
      (produced_of_forM_compute run).1
    exact producers_of_produced recorded
  · have idle : Idle _ (calls g { settings := { settings with mode := .disabled } } cs) :=
      idle_calls rfl cs
    obtain ⟨queue', run⟩ := compute_of_disabled (q := ⟨_, queue⟩) idle.enabled ready
    exact ⟨_, run⟩
  · obtain ⟨q, without, producers, reports, tokens, final⟩ :=
      passOver_disabled (buildUnparsers_eq.mp run)
    refine ⟨q.session, q.queue, buildUnparsers_eq.mpr without, producers, reports.coded, tokens,
      fun n => ?_⟩
    rw [final?, final]
    rfl

/-- The producers of a link are recorded rule by rule, whether unparsers are derived or not. -/
theorem recorded_exactly_of_chain :
    (∃ q, forM Chain.grammar.ruleIds (compute Chain.grammar) (start {} {}) = .ok () q ∧
      q.session.producers ⟨0⟩ = Chain.grammar.ruleIds.flatMap (Chain.grammar.listed ⟨0⟩)) ∧
    (∃ q, compute Chain.grammar ⟨0⟩ ⟨calls Chain.grammar { settings := ⟨.disabled, .all⟩ }
      [.compute ⟨1⟩ {}, .finalize], {}⟩ = .ok () q) ∧
    ∃ s queue s₀ queue₀, Chain.grammar.buildUnparsers {} {} = (.ok s, queue) ∧
      Chain.grammar.buildUnparsers ⟨.disabled, .all⟩ {} = (.ok s₀, queue₀) ∧
      ∀ n, s₀.producers n = s.producers n := by
  obtain ⟨listed, without, same⟩ := recorded_exactly Chain.grammar {} {}
  obtain ⟨s, run, -⟩ := Chain.generated
  have built : Chain.grammar.buildUnparsers {} {} =
      (.ok s, (Chain.grammar.buildUnparsers {} {}).2) := Prod.ext run rfl
  obtain ⟨middle, _, first, -⟩ := passOver_eq_ok.mp (buildUnparsers_eq.mp built)
  obtain ⟨s₀, queue₀, disabled, producers, -⟩ := same s _ built
  exact ⟨⟨middle, first, listed _ _ first ⟨0⟩⟩, without _ _ _ (.inr rfl),
    s, _, s₀, queue₀, built, disabled, producers⟩

/-- A boolean optional is not listed once for each path to it, if its alternatives are of one
type. -/
theorem listed_twice : ∃ q,
    forM [⟨0⟩] (compute Flags.grammar) (start {} {}) = .ok () q ∧
    q.session.producers ⟨1⟩ ≠ Flags.flag.preorder.filter (·.builds.contains ⟨1⟩) := by
  have computed : (((forM [⟨0⟩] (compute Flags.grammar) >>= fun _ => get :
      Pass Progress).run' (start {} {})).any fun q =>
        (q.session.producers ⟨1⟩).length !=
          (Flags.flag.preorder.filter (·.builds.contains ⟨1⟩)).length) = true := by
    decide +kernel
  obtain ⟨q, passed, differ⟩ := (Option.any_eq_true ..).mp computed
  obtain ⟨_, passed⟩ := estate_run'_eq_some.mp passed
  obtain ⟨⟨⟩, q, run, got⟩ := estate_bind_eq_ok.mp passed
  cases got
  exact ⟨q, run, fun same => bne_iff_ne.mp differ (congrArg List.length same)⟩

end Session

end Unparsing
