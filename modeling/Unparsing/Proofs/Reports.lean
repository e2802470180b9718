import Unparsing.Proofs.Mode
import Unparsing.Proofs.Session.Warnings

/-!
# Proofs/Reports — the reports of a derivation

What a derivation adds to its queue:

* `Session.transcript_of_buildUnparsers` — if it goes through, and the queue keeps everything, then
  its reports are the warnings of the grammar, exactly and in order.
* `Session.errors_are_reported` — if it fails, then the queue knows of an error, whatever the limits
  of the queue and whatever it was used for before.
* `Session.warnings_are_observational` — which warnings are enabled decides on nothing but the
  warnings reported.
-/

namespace Unparsing

/-! ## A grammar with a bare dot

The only rule is a dot, so it loses what it parsed, and nothing builds a unit. -/

namespace Bare

open Grammar

/-- The token `.`. -/
def dot : Parser := .token ⟨0⟩ ⟨1⟩ none

/-- The node types and token kinds. -/
def registries : Grammar where
  nodes := (({} : NodeTypes).declare "Unit" none {}).2
  kinds := (({} : TokenKinds).declareLiteral "Dot" ".").2

/-- The rule of a bare dot. -/
def grammar : Grammar := registries.token ⟨1⟩ none |>.2.addRule "dot" dot |>.2

theorem built_registries : registries.Built :=
  Built.empty.step (.nodes (.declare "Unit" none {} nofun))
    |>.step (.kinds (.declareLiteral "Dot" "."))

/-- The bare dot is declared step by step. -/
theorem built : grammar.Built :=
  built_registries.step (.token ⟨1⟩ none (TokenKinds.first_mem_ids (by decide) _))
    |>.step (.addRule "dot" dot (mem_parsers rfl))

/-- The derivation goes through, to a queue that keeps everything. -/
theorem generated : ∃ s queue,
    grammar.buildUnparsers {} { limits := .unlimited } = (.ok s, queue) := by
  obtain ⟨s, run⟩ := eq_ok_of_isSome (r := grammar.buildUnparsers {} { limits := .unlimited })
    (by decide +kernel)
  exact ⟨s, _, run⟩

end Bare

namespace Grammar

variable {g : Grammar} {settings : Settings} {n : NodeId}

/-- The first node type whose producers do not agree is the one with the smallest number. -/
theorem irregular?_eq_some : g.irregular? = some n ↔ n ∈ g.nodes.ids ∧
    g.agree (g.producers n) = false ∧ ∀ m, m.raw < n.raw → g.agree (g.producers m) = true := by
  obtain ⟨n⟩ := n
  have found (i : Nat) : (List.range g.nodes.size).find?
      ((fun node : NodeId => !g.agree (g.producers node)) ∘ Index.mk) = some i ↔
      g.agree (g.producers ⟨i⟩) = false ∧ i < g.nodes.size ∧
        ∀ j, j < i → g.agree (g.producers ⟨j⟩) = true := by
    simp [List.find?_range_eq_some]
  rw [irregular?, NodeTypes.ids, Index.mem_upTo, Index.upTo, List.find?_map,
    Option.map_eq_some_iff]
  constructor
  · rintro ⟨i, first, same⟩
    obtain rfl : i = n := congrArg Index.raw same
    obtain ⟨disagree, declared, before⟩ := (found i).mp first
    exact ⟨declared, disagree, fun m hm => before m.raw hm⟩
  · rintro ⟨declared, disagree, before⟩
    exact ⟨n, (found n).mpr ⟨disagree, declared, fun j hj => before ⟨j⟩ hj⟩, rfl⟩

/-- A warning that unparsers are given up is reported if and only if there is a reason to. -/
theorem exists_badGrammar_mem_transcript (reports : settings.reportsGivingUp = true) :
    (∃ d ∈ g.transcript settings, d.code = .badGrammar) ↔
      ¬ ((∀ rule ∈ g.ruleIds, g.loses rule = false) ∧ g.irregular? = none) := by
  have lost : (∃ d ∈ g.lossReports g.ruleIds, d.code = .badGrammar) ↔
      ∃ rule ∈ g.ruleIds, g.loses rule = true := by
    simp [lossReports, Diagnostic.givesUp]
  have unused : ¬ ∃ d ∈ g.unusedReports, d.code = .badGrammar := by
    simp [unusedReports, Session.unusedDiagnostic]
  have irregular : (∃ d ∈ g.irregularReports g.irregular?, d.code = .badGrammar) ↔
      g.irregular? ≠ none := by
    cases g.irregular? <;> simp [irregularReports, Diagnostic.givesUp]
  simp only [transcript, reports, if_true, Bool.true_and, List.mem_append, or_and_right, exists_or,
    lost]
  by_cases losing : ∃ rule ∈ g.ruleIds, g.loses rule = true
  · obtain ⟨rule, hrule, loses⟩ := losing
    refine iff_of_true (.inl (.inl ⟨rule, hrule, loses⟩)) fun sound => ?_
    cases loses.symm.trans (sound.1 rule hrule)
  · have sound : ∀ rule ∈ g.ruleIds, g.loses rule = false := by simpa using losing
    have none : g.ruleIds.any g.loses = false := by simpa using losing
    rw [none, iff_false_intro losing, false_or, and_iff_right sound, ← ne_eq, ← irregular]
    split
    · simp [unused]
    · simp

end Grammar

namespace Session

variable {g : Grammar} {settings : Settings} {s : Session} {queue : DiagnosticQueue}

/-- **The reports of a derivation that goes through**, to a queue that keeps everything, are the
warnings of the grammar, in order.  So where it is reported that unparsers are given up, they are if
and only if such a report is there. -/
theorem transcript_of_buildUnparsers (built : g.Built)
    (run : g.buildUnparsers settings { limits := .unlimited } = (.ok s, queue)) :
    queue.diagnostics.toList = g.transcript settings ∧
    (∀ n, g.irregular? = some n ↔ n ∈ g.nodes.ids ∧ g.agree (g.producers n) = false ∧
      ∀ m, m.raw < n.raw → g.agree (g.producers m) = true) ∧
    (settings.wantsUnparsers = true → settings.warnings.badGrammar = true →
      (s.enabled = false ↔ ∃ d ∈ queue.diagnostics.toList, d.code = .badGrammar)) := by
  obtain ⟨reports, enabled⟩ := reports_of_passOver built.wellFormed (buildUnparsers_eq.mp run)
  have all : queue.diagnostics.toList = g.transcript settings := by
    rw [show queue = _ from reports, DiagnosticQueue.toList_addAll_of_unlimited rfl]
    rfl
  refine ⟨all, fun n => Grammar.irregular?_eq_some, fun wants reported => ?_⟩
  have reports : settings.reportsGivingUp = true := by
    rw [Settings.reportsGivingUp, wants, reported, Bool.and_self]
  rw [all, Grammar.exists_badGrammar_mem_transcript reports, ← Bool.not_eq_true, enabled, wants,
    eq_self, true_and]

/-- The bare dot is reported first, then that nothing builds a unit. -/
theorem transcript_of_bare : ∃ s queue,
    Bare.grammar.buildUnparsers {} { limits := .unlimited } = (.ok s, queue) ∧
    queue.diagnostics.toList = [
      .givesUp "'dot' toplevel rule loses information.",
      unusedDiagnostic Bare.grammar ⟨0⟩] ∧
    s.enabled = false := by
  obtain ⟨s, queue, run⟩ := Bare.generated
  obtain ⟨all, -, givenUp⟩ := transcript_of_buildUnparsers Bare.built run
  have transcript : Bare.grammar.transcript {} = [
      .givesUp "'dot' toplevel rule loses information.",
      unusedDiagnostic Bare.grammar ⟨0⟩] := by decide +kernel
  rw [transcript] at all
  refine ⟨s, queue, run, all, (givenUp rfl rfl).mpr ?_⟩
  rw [all]
  exact ⟨_, List.mem_cons_self, rfl⟩

/-- **An error that was offered is known of**, whatever the limits of the queue and whatever it was
used for before.  So a derivation that fails leaves a queue that knows of errors: it has added
warnings, and then at most one error.  A derivation that goes through has added only warnings. -/
theorem errors_are_reported {limits : QueueLimits} {cs : List DiagnosticQueue.Call}
    {q : DiagnosticQueue} (reached : q = DiagnosticQueue.calls { limits } cs) :
    (∀ d : Diagnostic, d.isError = true → (q.emitError d).2.hasErrors?.isSome = true ∧
      ∃ e ∈ (q.emitError d).2.diagnostics.toList, e.isError = true) ∧
    ∀ (g : Grammar) (settings : Settings) (q' : DiagnosticQueue),
      (∀ reported, g.buildUnparsers settings q = (.error reported, q') →
        q'.hasErrors?.isSome = true ∧ ∃ ws es, (∀ d ∈ ws, d.isWarning = true) ∧
          (∀ d ∈ es, d.isError = true) ∧ es.length ≤ 1 ∧
          q'.diagnostics.toList = q.diagnostics.toList ++ ws ++ es) ∧
      ∀ s, g.buildUnparsers settings q = (.ok s, q') → q'.errorCount = q.errorCount ∧
        ∃ ws, (∀ d ∈ ws, d.isWarning = true) ∧
          q'.diagnostics.toList = q.diagnostics.toList ++ ws := by
  have counted : q.Counted := by
    rw [reached]
    exact (DiagnosticQueue.counted_empty limits).calls cs
  refine ⟨fun d error => ?_, fun g settings q' => ⟨fun reported run => ?_, fun s run => ?_⟩⟩
  · have known := counted.errorCount_add error
    exact ⟨DiagnosticQueue.isSome_hasErrors?.mpr known, (counted.add d).exists_isError known⟩
  · obtain ⟨q₁, warned, ⟨s, run'⟩ | ⟨problem, run'⟩⟩ := reports_of_buildUnparsers g settings q
    · cases run.symm.trans run'
    cases run.symm.trans run'
    obtain ⟨-, ws, warnings, kept⟩ := warned.kept
    have known := (warned.counted counted).errorCount_add problem.isError_diagnostic
    refine ⟨DiagnosticQueue.isSome_hasErrors?.mpr known, ws, _, warnings, ?_, ?_,
      (DiagnosticQueue.toList_add ..).trans (congrArg (· ++ _) kept)⟩
    · intro d hd
      rw [List.mem_ite_nil_right, List.mem_singleton] at hd
      exact hd.2 ▸ problem.isError_diagnostic
    · split <;> simp
  · obtain ⟨q₁, warned, ⟨s', run'⟩ | ⟨problem, run'⟩⟩ := reports_of_buildUnparsers g settings q
    · cases run.symm.trans run'
      exact warned.kept
    · cases run.symm.trans run'

/-- A queue at its limit leaves the next error out, and knows of errors. -/
theorem errors_are_reported_of_full : ∃ q d s q' q'',
    q = DiagnosticQueue.calls { limits := ⟨1, true⟩ } [.emitError d] ∧ q.isFull = true ∧
    (q.emitError d).2 = q ∧ (q.emitError d).2.hasErrors?.isSome = true ∧
    Lossy.grammar.buildUnparsers {} q = (.error {}, q') ∧ q'.hasErrors?.isSome = true ∧
    Chain.grammar.buildUnparsers {} q = (.ok s, q'') ∧ q''.errorCount = q.errorCount := by
  let d := (Problem.internal (.ruleUndefined "open")).diagnostic
  let q := DiagnosticQueue.calls { limits := ⟨1, true⟩ } [.emitError d]
  obtain ⟨known, passes⟩ := errors_are_reported (q := q) rfl
  obtain ⟨_, failed⟩ := eq_error_of_isNone (r := Lossy.grammar.buildUnparsers {} q)
    (by decide +kernel)
  obtain ⟨s, passed⟩ := eq_ok_of_isSome (r := Chain.grammar.buildUnparsers {} q)
    (by decide +kernel)
  exact ⟨q, d, s, _, _, rfl, by decide +kernel, by decide +kernel, (known d rfl).1, failed,
    ((passes Lossy.grammar {} _).1 _ failed).1, passed, ((passes Chain.grammar {} _).2 s passed).1⟩

/-- **The categories of warnings that are enabled decide on nothing but the warnings reported.**
With any two sets of them, a derivation has the same result, the settings aside.  Its reports are
those of a derivation with all categories enabled, without the warnings that are not enabled, and
with the same errors. -/
theorem warnings_are_observational (g : Grammar) (mode : Mode) (limits : QueueLimits)
    (w w' : WarningSet) :
    (g.buildUnparsers ⟨mode, w'⟩ { limits }).1 =
      (g.buildUnparsers ⟨mode, w⟩ { limits }).1.map (·.withWarnings w') ∧
    (g.buildUnparsers ⟨mode, w⟩ { limits }).2 =
      (g.buildUnparsers ⟨mode, .all⟩ { limits }).2.restrict w ∧
    (g.buildUnparsers ⟨mode, w⟩ { limits }).2.diagnostics.toList.filter (·.isError) =
      (g.buildUnparsers ⟨mode, .all⟩ { limits }).2.diagnostics.toList.filter (·.isError) := by
  have restricted (w : WarningSet) : g.buildUnparsers ⟨mode, w⟩ { limits } =
      ((g.buildUnparsers ⟨mode, .all⟩ { limits }).1.map (·.withWarnings w),
        (g.buildUnparsers ⟨mode, .all⟩ { limits }).2.restrict w) :=
    buildUnparsers_restrict g mode { limits } w
  have counted (settings : Settings) := counted_buildUnparsers g settings
    (DiagnosticQueue.counted_empty limits)
  have fewer := counted ⟨mode, w⟩
  rw [restricted w']
  rw [restricted w] at fewer ⊢
  refine ⟨?_, rfl, ?_⟩
  · cases (g.buildUnparsers ⟨mode, .all⟩ { limits }).1 <;> rfl
  · -- the errors left are some of all, and as many
    refine List.Sublist.eq_of_length ?_ ?_
    · exact (Array.toList_filter ▸ List.filter_sublist).filter _
    · rw [← List.countP_eq_length_filter, ← List.countP_eq_length_filter, ← fewer.errors,
        ← (counted ⟨mode, .all⟩).errors]
      rfl

end Session

end Unparsing
