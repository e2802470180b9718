import Unparsing.Proofs.Session.Calls

/-!
# Proofs/GivenUp — a session after unparsers have been given up

However the steps of a derivation are called:

* `Session.idle_of_given_up` — unparsers given up are never taken up again, nothing more is derived,
  and only a rule without a root is refused.
* `Session.left_of_given_up` — combining unparsers then drops them all.  The runs that earlier ones
  wrote stay.
-/

namespace Unparsing

/-! ## A grammar that gives unparsers up late

A unit is written as a dot, and a rule of its own is just the dot. -/

namespace Dotted

open Grammar

/-- The token `.`. -/
def dot : Parser := .token ⟨0⟩ ⟨1⟩ none
/-- A unit, written as a dot. -/
def unit : Parser := .transform ⟨2⟩ ⟨0⟩ ⟨1⟩ [dot]

/-- The rule of units, the rule of a bare dot, and a rule that is never defined. -/
def grammar : Grammar :=
  ({ nodes := (({} : NodeTypes).declare "Unit" none {}).2
     kinds := (({} : TokenKinds).declareLiteral "Dot" ".").2 } : Grammar)
    |>.token ⟨1⟩ none |>.2.transform ⟨0⟩ [dot] |>.2.addRule "unit" unit |>.2.addRule "dot" dot |>.2
    |>.declareRule "open" |>.2

/-- All steps, and then a rule that loses something. -/
def course : List Session.Call :=
  [.compute ⟨0⟩ {}, .check {}, .finalize, .compute ⟨1⟩ {}]

/-- The bare dot makes the session give unparsers up. -/
theorem given_up : (Session.calls grammar {} course).enabled = false := by decide +kernel

end Dotted

namespace Session

/-- **Unparsers given up stay given up.**  From then on nothing is derived or combined, whatever is
called, and a rule is refused only because it has no root. -/
theorem idle_of_given_up (g : Grammar) (s : Session) (cs : List Call) :
    ((calls g s cs).enabled = true → s.enabled = true) ∧
    (s.enabled = false → Idle s (calls g s cs) ∧
      ∀ rule queue problem q, compute g rule ⟨calls g s cs, queue⟩ = .error problem q →
        (g.rule? rule).any (·.dontSkip) = false ∧ g.root? rule = none ∧
          problem = .internal (.ruleUndefined (g.ruleName rule)) ∧
          problem.code.isUnparserError = false) := by
  refine ⟨fun enabled => ?_, fun disabled => ?_⟩
  · by_contra disabled
    cases enabled.symm.trans (idle_calls (by simpa using disabled) cs).enabled
  · have idle := idle_calls (g := g) disabled cs
    refine ⟨idle, fun rule queue problem q run => ?_⟩
    by_cases ready : g.Recordable rule
    · obtain ⟨_, done⟩ := compute_of_disabled (q := ⟨calls g s cs, queue⟩) idle.enabled ready
      cases run.symm.trans done
    · obtain ⟨user, undefined⟩ := Grammar.not_recordable.mp ready
      cases run.symm.trans (compute_of_undefined user undefined)
      exact ⟨user, undefined, rfl, rfl⟩

/-- From then on the session is idle, and fails only for the rule that is not defined. -/
theorem idle_of_dotted :
    (calls Dotted.grammar {} Dotted.course).enabled = false ∧
    (∃ q, compute Dotted.grammar ⟨2⟩ ⟨calls Dotted.grammar {} Dotted.course, {}⟩ =
      .error (.internal (.ruleUndefined "open")) q) ∧
    Idle (calls Dotted.grammar {} Dotted.course)
      (calls Dotted.grammar (calls Dotted.grammar {} Dotted.course) [.compute ⟨0⟩ {}, .finalize]) ∧
    Dotted.grammar.root? ⟨2⟩ = none := by
  have refused : compute Dotted.grammar ⟨2⟩ ⟨calls Dotted.grammar {} Dotted.course, {}⟩ =
      .error (.internal (.ruleUndefined "open")) ⟨calls Dotted.grammar {} Dotted.course, {}⟩ :=
    compute_of_undefined rfl rfl
  exact ⟨Dotted.given_up, ⟨_, refused⟩,
    ((idle_of_given_up Dotted.grammar _ _).2 Dotted.given_up).1,
    (((idle_of_given_up Dotted.grammar _ []).2 Dotted.given_up).2 _ _ _ _ refused).2.1⟩

/-- **What is left of unparsers given up**, once they have been dropped: no unparser, combined or
pending, and just the runs collected before.  There are none if and only if no combined unparser
ever wrote any. -/
theorem left_of_given_up (g : Grammar) (settings : Settings) (cs : List Call)
    (disabled : (calls g { settings } cs).enabled = false) :
    (∀ n, (calls g { settings } (cs ++ [.finalize])).final? n = none ∧
      (calls g { settings } (cs ++ [.finalize])).occurrences n = []) ∧
    (calls g { settings } (cs ++ [.finalize])).runTable = (calls g { settings } cs).runTable ∧
    ((∀ run, (calls g { settings } (cs ++ [.finalize])).runIndex? run = none) ↔
      (calls g { settings } (cs ++ [.finalize])).runs = #[]) ∧
    ((calls g { settings } (cs ++ [.finalize])).runs = #[] ↔ ∀ earlier, earlier <+: cs →
      ∀ n u, (calls g { settings } earlier).final? n ≠ some (.regular u)) := by
  have last : calls g { settings } (cs ++ [.finalize]) =
      { calls g { settings } cs with derived := #[], final := [] } := by
    rw [calls_concat, call, stateAfter_of_ok (finalize_of_disabled disabled)]
  rw [last]
  exact ⟨fun n => ⟨rfl, rfl⟩, rfl, RunTable.index?_eq_none_iff_empty,
    runs_calls_eq_empty settings cs⟩

/-- No unparser is left once the session is finalized again. -/
theorem left_of_dotted : (calls Dotted.grammar {} Dotted.course).enabled = false ∧
    ∀ n, (calls Dotted.grammar {} (Dotted.course ++ [.finalize])).final? n = none :=
  ⟨Dotted.given_up,
    fun n => ((left_of_given_up Dotted.grammar {} Dotted.course Dotted.given_up).1 n).1⟩

/-- Runs that were collected before unparsers were given up are left when these are dropped. -/
theorem runs_left_of_dotted : (calls Dotted.grammar {} Dotted.course).enabled = false ∧
    (calls Dotted.grammar {} (Dotted.course ++ [.finalize])).runs = #[[⟨0⟩], []] ∧
    (calls Dotted.grammar {} (Dotted.course ++ [.finalize])).runIndex? [⟨0⟩] = some 0 := by
  decide +kernel

end Session

end Unparsing
