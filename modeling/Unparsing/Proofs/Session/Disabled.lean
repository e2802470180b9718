import Unparsing.Proofs.Session.Consistency
import Unparsing.Proofs.Session.Merging

/-!
# Proofs/Session/Disabled — a session that has given unparsers up

Once unparsers have been given up, or were never wanted, a session only takes notes.  Recording a
rule notes its productions and derives nothing, and there is nothing left that can go wrong but a
rule without a root (`Session.compute_of_disabled`, `Session.compute_of_undefined`).
-/

namespace Unparsing

/-- A rule that can be recorded at all: it is passed over, or it has a root. -/
def Grammar.Recordable (g : Grammar) (rule : RuleId) : Prop :=
  (g.rule? rule).any (·.dontSkip) = true ∨ (g.root? rule).isSome = true

theorem Grammar.not_recordable {g : Grammar} {rule : RuleId} : ¬ g.Recordable rule ↔
    (g.rule? rule).any (·.dontSkip) = false ∧ g.root? rule = none := by
  simp [Recordable]

namespace Session

variable {g : Grammar} {s : Session} {q q' : Progress} {rule : RuleId} {rules : List RuleId}
variable {name : String}

/-- The session with more productions noted, and nothing derived from them. -/
def noting (s : Session) (ps : List (NodeId × Parser)) : Session :=
  { s with produced := s.produced ++ ps.toArray }

@[simp] theorem toList_produced_noting (s : Session) (ps : List (NodeId × Parser)) :
    (s.noting ps).produced.toList = s.produced.toList ++ ps := by
  simp [noting]

@[simp] theorem noting_nil (s : Session) : s.noting [] = s := by
  simp [noting]

theorem noting_append (s : Session) (ps qs : List (NodeId × Parser)) :
    s.noting (ps ++ qs) = (s.noting ps).noting qs := by
  simp [noting]

theorem record_of_disabled (disabled : s.enabled = false) (node : NodeId) (p : Parser) :
    record g node p s = .ok () (s.noting [(node, p)]) := by
  simp [record, disabled, Derivation.result, noting]

theorem note_of_disabled (disabled : s.enabled = false) (f : Finding) :
    note g name f s = .ok () (s.noting f.production?.toList) := by
  cases f with
  | builds node producer => exact record_of_disabled disabled node producer
  | drops pick =>
    rw [note_drops, disabled, Bool.false_and, if_neg Bool.false_ne_true]
    exact congrArg _ (noting_nil s).symm

/-- Findings are noted as far as they are productions. -/
theorem forM_note_of_disabled (disabled : s.enabled = false) (fs : List Finding) :
    forM fs (note g name) s = .ok () (s.noting (fs.filterMap Finding.production?)) := by
  induction fs generalizing s with
  | nil => exact congrArg _ (noting_nil s).symm
  | cons f fs ih =>
    refine estate_bind_eq_ok.mpr ⟨(), _, note_of_disabled disabled f, ?_⟩
    refine (ih (s := s.noting f.production?.toList) disabled).trans ?_
    rw [← noting_append]
    cases f <;> rfl

/-- Giving unparsers up once more changes nothing, but may be reported. -/
theorem giveUp_of_disabled (disabled : q.session.enabled = false) (reason : String) :
    q.giveUp reason = { q with queue := (q.giveUp reason).queue } := by
  obtain ⟨session, queue⟩ := q
  cases session
  cases disabled
  rfl

/-- **Recording a rule without deriving unparsers** goes through, and notes its productions. -/
theorem compute_of_disabled (disabled : q.session.enabled = false) (ready : g.Recordable rule) :
    ∃ queue, compute g rule q = .ok () ⟨q.session.noting (g.productions rule), queue⟩ := by
  by_cases passed : (g.rule? rule).any (·.dontSkip) = true
  · refine ⟨q.queue, ?_⟩
    rw [Grammar.productions, if_pos passed, noting_nil]
    simp [compute, passed]
  obtain ⟨root, rooted⟩ := Option.isSome_iff_exists.mp (ready.resolve_left passed)
  have noted : forM root.survey (note g (g.ruleName rule)) q.session = .ok () (q.session.noting
      (root.survey.filterMap Finding.production?)) := forM_note_of_disabled disabled root.survey
  rw [Bool.not_eq_true] at passed
  rw [compute_of_noted passed rooted noted, Grammar.productions_of_root passed rooted]
  split
  · exact ⟨q.queue, rfl⟩
  · exact ⟨_, congrArg (EStateM.Result.ok ())
      (giveUp_of_disabled (q := ⟨q.session.noting _, q.queue⟩) disabled _)⟩

/-- Without unparsers, rules can be recorded if each of them can. -/
theorem forM_compute_of_disabled (disabled : q.session.enabled = false)
    (ready : ∀ rule ∈ rules, g.Recordable rule) :
    ∃ queue, forM rules (compute g) q =
      .ok () ⟨q.session.noting (rules.flatMap g.productions), queue⟩ := by
  induction rules generalizing q with
  | nil => exact ⟨q.queue, by rw [List.flatMap_nil, noting_nil]; rfl⟩
  | cons rule rules ih =>
    rw [List.forall_mem_cons] at ready
    obtain ⟨_, first⟩ := compute_of_disabled disabled ready.1
    obtain ⟨queue, rest⟩ := ih (q := ⟨q.session.noting (g.productions rule), _⟩) disabled ready.2
    rw [List.flatMap_cons, noting_append]
    exact ⟨queue, estate_bind_eq_ok.mpr ⟨(), _, first, rest⟩⟩

/-- A rule that has no root cannot be recorded. -/
theorem compute_of_undefined (user : (g.rule? rule).any (·.dontSkip) = false)
    (undefined : g.root? rule = none) :
    compute g rule q = .error (.internal (.ruleUndefined (g.ruleName rule))) q := by
  simp [compute, user, undefined]

/-- A rule that was recorded could be. -/
theorem recordable_of_compute (run : compute g rule q = .ok () q') : g.Recordable rule := by
  obtain ⟨passed, -⟩ | ⟨-, root, -, rooted, -⟩ := compute_cases run
  · exact .inl passed
  · exact .inr (by rw [rooted, Option.isSome_some])

/-- Rules that were recorded could be. -/
theorem recordable_of_forM_compute (run : forM rules (compute g) q = .ok () q') :
    ∀ rule ∈ rules, g.Recordable rule := by
  induction rules generalizing q with
  | nil => nofun
  | cons rule rules ih =>
    obtain ⟨⟨⟩, middle, first, rest⟩ := estate_bind_eq_ok.mp run
    exact List.forall_mem_cons.mpr ⟨recordable_of_compute first, ih rest⟩

/-- The check of a session without unparsers only reports. -/
theorem check_of_disabled (disabled : q.session.enabled = false) :
    check g q = { q with queue := q.session.warnUnused g q.queue } := by
  simp only [check, disabled, Bool.false_eq_true, if_false]

end Session

end Unparsing
