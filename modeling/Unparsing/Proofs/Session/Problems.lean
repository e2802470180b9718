import Unparsing.Proofs.Session.Mode
import Unparsing.Proofs.Unparser.Refusal

/-!
# Proofs/Session/Problems — the problems that a derivation fails with

A derivation fails with a problem of one parser, with a loss, or with a mismatch of two unparsers
(`Session.arises_of_passOver`).  None of these is that a parser should hold a row and does not.
-/

namespace Unparsing

/-- Whether the problem is that a parser does not hold a row. -/
def Problem.isNotRow : Problem → Bool
  | internal (.notRow ..) => true
  | _ => false

/-- The problems that a derivation may fail with. -/
inductive Problem.Arises : Problem → Prop
  | ofParser {problem : Problem} (isLocal : problem.isLocal = true) : Arises problem
  | loss (rule : String) (span : Span) : Arises (.topLevelLoss rule span)
  | mismatch {problem : Problem} (isMismatch : problem.isMismatch = true) : Arises problem

/-- **What a derivation fails with** is never that a parser does not hold a row. -/
theorem Problem.Arises.isNotRow_eq_false {problem : Problem} (h : problem.Arises) :
    problem.isNotRow = false := by
  cases h with
  | loss rule span => rfl
  | ofParser h | mismatch h =>
    cases problem with
    | internal fault =>
      cases fault with
      | notRow parser => cases h
      | _ => rfl
    | _ => rfl

namespace Session

variable {g : Grammar} {s s' : Session} {q q' : Progress} {name : String} {problem : Problem}
variable {rule : RuleId} {rules : List RuleId}

theorem arises_of_note {f : Finding} (run : note g name f s = .error problem s') :
    problem.Arises := by
  cases f with
  | builds node producer => exact .ofParser (isLocal_of_record run)
  | drops pick =>
    rw [note_drops] at run
    split at run
    · cases run
      exact .loss name _
    · cases run

theorem arises_of_compute (run : compute g rule q = .error problem q') : problem.Arises := by
  obtain ⟨-, rfl | ⟨root, s', -, noted⟩⟩ := compute_error run
  · exact .ofParser rfl
  · obtain ⟨f, -, s₁, failed⟩ := exists_error_of_forM noted
    exact arises_of_note failed

theorem arises_of_finalizeNode {node : NodeId}
    (run : finalizeNode g node s = .error problem s') : problem.Arises := by
  unfold finalizeNode at run
  split at run
  · cases run
  split at run
  · cases run
    exact .ofParser rfl
  next first others _ =>
  split at run
  next refused =>
    cases run
    exact .mismatch (mismatches_foldlM_combine first others refused)
  · cases run

theorem arises_of_finalize (run : finalize g s = .error problem s') : problem.Arises := by
  by_cases enabled : s.enabled = true
  · rw [finalize_of_enabled enabled] at run
    obtain ⟨node, -, s₁, failed⟩ := exists_error_of_forM run
    exact arises_of_finalizeNode failed
  · rw [finalize_of_disabled (by simpa using enabled)] at run
    cases run

/-- **A derivation that fails** does so with one of these problems. -/
theorem arises_of_passOver (run : passOver g rules q = .error problem q') : problem.Arises := by
  obtain recorded | ⟨⟨⟩, middle, -, rest⟩ := estate_bind_eq_error.mp run
  · obtain ⟨rule, -, q₁, failed⟩ := exists_error_of_forM recorded
    exact arises_of_compute failed
  obtain checked | ⟨⟨⟩, checked, -, last⟩ := estate_bind_eq_error.mp rest
  · cases checked
  · unfold finalizePass EStateM.run at last
    split at last
    · cases last
    next failed =>
      cases last
      exact arises_of_finalize failed

end Session

end Unparsing
