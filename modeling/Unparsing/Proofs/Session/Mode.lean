import Unparsing.Proofs.Derivation.Problems
import Unparsing.Proofs.Grammar.NodeCreation
import Unparsing.Proofs.Session.Outcome
import Unparsing.Proofs.Session.Settings

/-!
# Proofs/Session/Mode — what the mode of a session decides

The mode is asked for at two places only: when a rule drops something, and when unparsers are given
up.  So a pass that goes through does so in any other mode that wants unparsers, to the same effect,
unless something dropped is an error there (`Session.passOver_inMode`).  A rule whose loss is an
error does not create a node (`Session.createsNode_of_compute_eq_loss`).
-/

namespace Unparsing

namespace Session

/-- The session with a mode of its own. -/
def inMode (s : Session) (mode : Mode) : Session :=
  { s with settings := { s.settings with mode } }

end Session

/-- The progress of a session with a mode of its own. -/
def Progress.inMode (q : Progress) (mode : Mode) : Progress :=
  { q with session := q.session.inMode mode }

namespace Session

variable {g : Grammar} {s s' : Session} {q q' : Progress} {mode : Mode} {name : String}
variable {rule : RuleId} {rules : List RuleId} {problem : Problem}

/-! ## Recording rules -/

theorem record_inMode {node : NodeId} {p : Parser} (mode : Mode)
    (run : record g node p s = .ok () s') :
    record g node p (s.inMode mode) = .ok () (s'.inMode mode) :=
  (record_mapSettings ({ · with mode }) node p s).trans (congrArg (mapState _) run)

theorem note_inMode {f : Finding} (kept : mode = .required → ∀ pick, f ≠ .drops pick)
    (run : note g name f s = .ok () s') :
    note g name f (s.inMode mode) = .ok () (s'.inMode mode) := by
  cases f with
  | builds node producer => exact record_inMode mode run
  | drops pick =>
    have tolerant : (s.inMode mode).settings.rejectsLoss = false := by
      cases mode with
      | required => exact absurd rfl (kept rfl pick)
      | disabled | bestEffort => rfl
    rw [note_drops] at run
    rw [note_drops, tolerant, Bool.and_false, if_neg Bool.false_ne_true]
    split at run
    · cases run
    · cases run
      rfl

theorem forM_note_inMode {fs : List Finding} (kept : mode = .required → ∀ pick, .drops pick ∉ fs)
    (run : forM fs (note g name) s = .ok () s') :
    forM fs (note g name) (s.inMode mode) = .ok () (s'.inMode mode) := by
  induction fs generalizing s with
  | nil =>
    cases run
    rfl
  | cons f fs ih =>
    obtain ⟨⟨⟩, middle, first, rest⟩ := estate_bind_eq_ok.mp run
    have here : mode = .required → ∀ pick, f ≠ .drops pick := fun required pick same =>
      kept required pick (same ▸ List.mem_cons_self)
    have later : mode = .required → ∀ pick, .drops pick ∉ fs := fun required pick hp =>
      kept required pick (List.mem_cons_of_mem f hp)
    exact estate_bind_eq_ok.mpr ⟨(), _, note_inMode here first, ih later rest⟩

/-- Unparsers are given up alike in two modes that want them. -/
theorem giveUp_inMode (q : Progress) (reason : String)
    (wanted : q.session.settings.wantsUnparsers = true)
    (wanted' : mode ≠ .disabled) :
    (q.inMode mode).giveUp reason = (q.giveUp reason).inMode mode := by
  have wants : (q.session.inMode mode).settings.wantsUnparsers = true := by
    simpa [inMode, Settings.wantsUnparsers] using wanted'
  simp only [Progress.giveUp, Progress.inMode, wanted, wants]
  rfl

/-- **Recording a rule in another mode**: the same happens if unparsers are wanted in both, and the
rule drops nothing where that is an error. -/
theorem compute_inMode (wanted : q.session.settings.wantsUnparsers = true)
    (wanted' : mode ≠ .disabled) (sound : mode = .required → g.Sound { mode } rule)
    (run : compute g rule q = .ok () q') :
    compute g rule (q.inMode mode) = .ok () (q'.inMode mode) := by
  obtain ⟨passed, rfl⟩ | ⟨user, root, s', rooted, noted, -⟩ := compute_cases run
  · simp only [compute, passed, if_true]
  have kept : mode = .required → ∀ pick, .drops pick ∉ root.survey := by
    rintro rfl
    obtain passed | ⟨_, rooted', -, kept⟩ := sound rfl
    · cases user.symm.trans passed
    · cases rooted.symm.trans rooted'
      exact kept rfl
  have settings := (notes_of_forM_note noted).continues.settings
  have noted' : forM root.survey (note g (g.ruleName rule)) (q.inMode mode).session =
      .ok () (s'.inMode mode) := forM_note_inMode kept noted
  cases (compute_of_noted user rooted noted).symm.trans run
  refine (compute_of_noted user rooted noted').trans (congrArg _ ?_)
  split
  · rfl
  · exact giveUp_inMode ⟨s', q.queue⟩ _ (settings ▸ wanted) wanted'

theorem forM_compute_inMode (wanted : q.session.settings.wantsUnparsers = true)
    (wanted' : mode ≠ .disabled) (sound : mode = .required → ∀ rule ∈ rules, g.Sound { mode } rule)
    (run : forM rules (compute g) q = .ok () q') :
    forM rules (compute g) (q.inMode mode) = .ok () (q'.inMode mode) := by
  induction rules generalizing q with
  | nil =>
    cases run
    rfl
  | cons rule rules ih =>
    obtain ⟨⟨⟩, middle, first, rest⟩ := estate_bind_eq_ok.mp run
    have settings := (continues_of_compute first).settings
    have here := compute_inMode wanted wanted'
      (fun h => (List.forall_mem_cons.mp (sound h)).1) first
    have later := ih (settings ▸ wanted) (fun h => (List.forall_mem_cons.mp (sound h)).2) rest
    exact estate_bind_eq_ok.mpr ⟨(), _, here, later⟩

/-! ## Checking and combining -/

theorem checkAgreement_inMode (s : Session) (mode : Mode) (nodes : List NodeId) :
    checkAgreement g (s.inMode mode) nodes =
      ((checkAgreement g s nodes).1.inMode mode, (checkAgreement g s nodes).2) :=
  checkAgreement_mapSettings ({ · with mode }) s nodes

theorem check_inMode (wanted : q.session.settings.wantsUnparsers = true)
    (wanted' : mode ≠ .disabled) : check g (q.inMode mode) = (check g q).inMode mode := by
  have unused : (q.inMode mode).session.warnUnused g = q.session.warnUnused g := rfl
  have agreement : (q.inMode mode).session.checkAgreement g g.nodes.ids =
      ((q.session.checkAgreement g g.nodes.ids).1.inMode mode,
        (q.session.checkAgreement g g.nodes.ids).2) := checkAgreement_inMode _ mode _
  have settings : (q.session.checkAgreement g g.nodes.ids).1.settings = q.session.settings := by
    rw [checkAgreement_frame]
  have enabled : (q.inMode mode).session.enabled = q.session.enabled := rfl
  simp only [check, unused, agreement, enabled]
  split
  · generalize q.session.checkAgreement g g.nodes.ids = reached at settings ⊢
    obtain ⟨session, _ | node⟩ := reached
    · rfl
    · exact giveUp_inMode ⟨session, _⟩ _ (settings ▸ wanted) wanted'
  · rfl

theorem finalize_inMode (mode : Mode) (run : finalize g s = .ok () s') :
    finalize g (s.inMode mode) = .ok () (s'.inMode mode) :=
  (finalize_mapSettings ({ · with mode }) s).trans (congrArg (mapState _) run)

/-- **A derivation that goes through in one mode** does so in another one that wants unparsers, to
the same effect, if no rule drops anything where that is an error. -/
theorem passOver_inMode (mode : Mode) (wanted : q.session.settings.wantsUnparsers = true)
    (wanted' : mode ≠ .disabled) (sound : mode = .required → ∀ rule ∈ rules, g.Sound { mode } rule)
    (run : passOver g rules q = .ok () q') :
    passOver g rules (q.inMode mode) = .ok () (q'.inMode mode) := by
  obtain ⟨middle, s', first, last, rfl⟩ := passOver_eq_ok.mp run
  have settings := (continues_of_forM_compute first).settings
  have checked : check g (middle.inMode mode) = (check g middle).inMode mode :=
    check_inMode (settings ▸ wanted) wanted'
  refine passOver_eq_ok.mpr ⟨_, s'.inMode mode, forM_compute_inMode wanted wanted' sound first, ?_⟩
  rw [checked]
  exact ⟨finalize_inMode mode last, rfl⟩

/-! ## Losses -/

/-- The reasons for which recording a rule fails: the rule is not defined, or something found in its
root is at fault. -/
theorem compute_error (run : compute g rule q = .error problem q') :
    (g.rule? rule).any (·.dontSkip) = false ∧
      (problem = .internal (.ruleUndefined (g.ruleName rule)) ∨
        ∃ root s', g.root? rule = some root ∧
        forM root.survey (note g (g.ruleName rule)) q.session = .error problem s') := by
  simp only [compute, Parser.visit_eq_forM_surveyUnder, EStateM.run] at run
  split at run
  · cases run
  next user =>
  rw [Bool.not_eq_true] at user
  refine ⟨user, ?_⟩
  split at run
  · cases run
    exact .inl rfl
  next root rooted =>
  split at run
  next noted =>
    cases run
    exact .inr ⟨root, _, rooted, noted⟩
  next => split at run <;> cases run

/-- Recording a production fails with a problem of the producer. -/
theorem isLocal_of_record {node : NodeId} {p : Parser}
    (run : record g node p s = .error problem s') : problem.isLocal = true := by
  simp only [record] at run
  split at run
  · cases run
  · cases run
  next failed =>
    cases run
    unfold Derivation.attempt at failed
    split at failed
    · split at failed
      · cases failed
      next derived =>
        cases failed
        exact Grammar.raises_deriveNode node p derived
    · cases failed

/-- A loss is an error only where something is dropped. -/
theorem exists_drops_of_forM_note {fs : List Finding} {span : Span} {rule : String}
    (run : forM fs (note g name) s = .error (.topLevelLoss rule span) s') :
    ∃ pick, .drops pick ∈ fs := by
  obtain ⟨f, hf, s₁, failed⟩ := exists_error_of_forM run
  cases f with
  | drops pick => exact ⟨pick, hf⟩
  | builds node producer => cases isLocal_of_record failed

/-- **A rule whose loss is an error** is a user's, and its root does not create a node. -/
theorem createsNode_of_compute_eq_loss {span : Span}
    (run : compute g rule q = .error (.topLevelLoss name span) q') :
    (g.rule? rule).any (·.dontSkip) = false ∧
      ∃ root, g.root? rule = some root ∧ g.createsNode root = false := by
  obtain ⟨user, undefined | ⟨root, s', rooted, noted⟩⟩ := compute_error run
  · cases undefined
  · refine ⟨user, root, rooted, ?_⟩
    obtain ⟨pick, dropped⟩ := exists_drops_of_forM_note noted
    by_contra creates
    exact Grammar.drops_notMem_survey (by simpa using creates) dropped

end Session

end Unparsing
