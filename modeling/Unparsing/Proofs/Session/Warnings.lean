import Unparsing.Proofs.Session.Reports
import Unparsing.Proofs.Session.Settings

/-!
# Proofs/Session/Warnings — warnings that are not enabled leave no other trace

A warning is not reported if its category is not enabled, and nothing else depends on that.  So a
derivation with some categories enabled does what it does with all of them, except that its queue
holds fewer warnings (`Session.passOver_restrict`): a warning left out is neither in the way of an
error under the limit nor of an equal diagnostic (`DiagnosticQueue.warnIf_restrict`,
`DiagnosticQueue.add_restrict`).
-/

namespace Unparsing

/-! ## Queues with fewer warnings -/

/-- Whether diagnostics of the code are reported where these categories are enabled. -/
def WarningSet.shows (w : WarningSet) : Code → Bool
  | .unusedNodeType => w.unusedNodeType
  | .badGrammar => w.badGrammar
  | _ => true

namespace DiagnosticQueue

variable {q : DiagnosticQueue} {d : Diagnostic} {w : WarningSet}

/-- The queue without the warnings of categories that are not enabled. -/
def restrict (q : DiagnosticQueue) (w : WarningSet) : DiagnosticQueue where
  limits := q.limits
  diagnostics := q.diagnostics.filter (w.shows ·.code)
  errorCount := q.errorCount
  warningCount := (q.diagnostics.filter (w.shows ·.code)).countP (·.isWarning)

/-- What is shown is kept or left out alike. -/
theorem accepts_restrict (shown : w.shows d.code = true) :
    (q.restrict w).accepts d = q.accepts d := by
  have kept : (q.restrict w).diagnostics.contains d = q.diagnostics.contains d := by
    rw [Bool.eq_iff_iff]
    simp [restrict, shown]
  rw [accepts, kept]
  rfl

/-- What is not shown makes no difference, unless it is an error. -/
theorem restrict_add_of_hidden (hidden : w.shows d.code = false) (mild : d.isError = false) :
    (q.add d).2.restrict w = q.restrict w := by
  rw [snd_add]
  split
  · simp [restrict, push, hidden, mild]
  · rfl

/-- A diagnostic that is shown may as well be offered to the restricted queue. -/
theorem add_restrict (shown : w.shows d.code = true) :
    ((q.restrict w).add d).2 = (q.add d).2.restrict w := by
  rw [snd_add, snd_add, accepts_restrict shown]
  split
  · have filtered : (q.diagnostics.push d).filter (w.shows ·.code) =
        (q.diagnostics.filter (w.shows ·.code)).push d := by simp [shown]
    cases warning : d.isWarning <;> simp [restrict, push, -Array.size_push, filtered, warning]
  · rfl

/-- **A warning offered where its category may be off**, or offered anyway and then left out. -/
theorem warnIf_restrict {c : Warning} (category : w.shows d.code = w.has c)
    (mild : d.isError = false) (cond : Bool) :
    ((q.restrict w).warnIf w (.ofList [c]) cond d).2 =
      (q.warnIf .all (.ofList [c]) cond d).2.restrict w := by
  have all : WarningSet.all.has c = true := by cases c <;> rfl
  simp only [snd_warnIf, offers, WarningSet.contains_ofList_singleton, all, Bool.and_true]
  cases cond with
  | false => rfl
  | true =>
    rw [if_pos rfl, Bool.true_and, ← category]
    split
    next shown => exact add_restrict shown
    next hidden => exact (restrict_add_of_hidden (by simpa using hidden) mild).symm

end DiagnosticQueue

namespace Session

/-- The session with other categories of warnings enabled. -/
def withWarnings (s : Session) (w : WarningSet) : Session :=
  s.mapSettings ({ · with warnings := w })

end Session

/-- The progress with some categories of warnings enabled: fewer warnings are reported. -/
def Progress.restrict (q : Progress) (w : WarningSet) : Progress where
  session := q.session.withWarnings w
  queue := q.queue.restrict w

namespace Session

variable {g : Grammar} {s : Session} {q q' : Progress} {rule : RuleId} {rules : List RuleId}

/-! ## Recording -/

theorem note_withWarnings (name : String) (f : Finding) (s : Session) (w : WarningSet) :
    note g name f (s.withWarnings w) = mapState (·.withWarnings w) (note g name f s) := by
  cases f with
  | builds node producer => exact record_mapSettings _ node producer s
  | drops pick =>
    rw [note_drops, note_drops]
    change (if s.enabled && s.settings.rejectsLoss then _ else _) = _
    split <;> rfl

/-- Giving unparsers up is reported if that is enabled. -/
theorem giveUp_restrict (reason : String) (w : WarningSet)
    (all : q.session.settings.warnings = .all) :
    (q.restrict w).giveUp reason = (q.giveUp reason).restrict w := by
  have reported := DiagnosticQueue.warnIf_restrict (q := q.queue) (w := w) (c := .badGrammar)
    (d := .givesUp reason) rfl rfl q.session.settings.wantsUnparsers
  rw [← all] at reported
  exact congrArg (Progress.mk _) reported

/-- **Recording a rule** with some categories of warnings enabled. -/
theorem compute_restrict (rule : RuleId) (w : WarningSet)
    (all : q.session.settings.warnings = .all) :
    compute g rule (q.restrict w) = mapState (·.restrict w) (compute g rule q) := by
  unfold compute
  by_cases passed : (g.rule? rule).any (·.dontSkip) = true
  · rw [if_pos passed, if_pos passed]
    rfl
  rw [if_neg passed, if_neg passed]
  cases g.root? rule with
  | none => rfl
  | some root =>
    dsimp only [EStateM.run]
    rw [Parser.visit_eq_forM_surveyUnder]
    have noted : forM (root.surveyUnder true) (note g (g.ruleName rule)) (q.restrict w).session =
        mapState (·.withWarnings w)
          (forM (root.surveyUnder true) (note g (g.ruleName rule)) q.session) :=
      forM_mapState (fun _ => True) (fun _ _ _ => trivial)
        (fun f s _ => note_withWarnings _ f s w) _ trivial
    rw [noted]
    cases run : forM (root.surveyUnder true) (note g (g.ruleName rule)) q.session with
    | error problem s' => rfl
    | ok _ s' =>
      cases g.createsNode root with
      | true => rfl
      | false =>
        have all' : s'.settings.warnings = .all := by
          rw [(notes_of_forM_note run).continues.settings, all]
        exact congrArg (EStateM.Result.ok ()) (giveUp_restrict (q := ⟨s', q.queue⟩) _ w all')

theorem forM_compute_restrict (rules : List RuleId) (w : WarningSet)
    (all : q.session.settings.warnings = .all) :
    forM rules (compute g) (q.restrict w) = mapState (·.restrict w) (forM rules (compute g) q) :=
  forM_mapState (f := (·.restrict w)) (fun q => q.session.settings.warnings = .all)
    (fun rule q all => (congrArg _ (continues_compute g rule q).settings).trans all)
    (fun rule _ all => compute_restrict rule w all) rules all

/-! ## Checking -/

theorem warnUnused_restrict (g : Grammar) (queue : DiagnosticQueue) (w : WarningSet)
    (all : s.settings.warnings = .all) :
    (s.withWarnings w).warnUnused g (queue.restrict w) = (s.warnUnused g queue).restrict w := by
  have enabled : (s.withWarnings w).settings.warnings = w := rfl
  unfold warnUnused
  rw [all, enabled]
  generalize g.nodes.ids = nodes
  induction nodes generalizing queue with
  | nil => rfl
  | cons node nodes ih =>
    have unused : (s.withWarnings w).isUnused g node = s.isUnused g node := rfl
    have reported := DiagnosticQueue.warnIf_restrict (q := queue) (w := w) (c := .unusedNodeType)
      (d := unusedDiagnostic g node) rfl rfl (s.isUnused g node)
    rw [List.foldl_cons, List.foldl_cons, unused, reported]
    exact ih _

/-- **The check** with some categories of warnings enabled. -/
theorem check_restrict (g : Grammar) (w : WarningSet) (all : q.session.settings.warnings = .all) :
    check g (q.restrict w) = (check g q).restrict w := by
  have unused : (q.restrict w).session.warnUnused g (q.restrict w).queue =
      (q.session.warnUnused g q.queue).restrict w := warnUnused_restrict g q.queue w all
  have agreement : (q.restrict w).session.checkAgreement g g.nodes.ids =
      ((q.session.checkAgreement g g.nodes.ids).1.withWarnings w,
        (q.session.checkAgreement g g.nodes.ids).2) :=
    checkAgreement_mapSettings ({ · with warnings := w }) q.session g.nodes.ids
  have settings : (q.session.checkAgreement g g.nodes.ids).1.settings = q.session.settings := by
    rw [checkAgreement_frame]
  have enabled : (q.restrict w).session.enabled = q.session.enabled := rfl
  simp only [check, unused, agreement, enabled]
  split
  · generalize q.session.checkAgreement g g.nodes.ids = reached at settings ⊢
    obtain ⟨session, _ | node⟩ := reached
    · rfl
    · exact giveUp_restrict (q := ⟨session, q.session.warnUnused g q.queue⟩) _ w (settings ▸ all)
  · rfl

/-! ## The whole derivation -/

theorem finalizePass_restrict (g : Grammar) (q : Progress) (w : WarningSet) :
    finalizePass g (q.restrict w) = mapState (·.restrict w) (finalizePass g q) := by
  have combined : finalize g (q.restrict w).session =
      mapState (·.withWarnings w) (finalize g q.session) := finalize_mapSettings _ q.session
  unfold finalizePass EStateM.run
  rw [combined]
  cases finalize g q.session <;> rfl

/-- **A derivation with some categories of warnings enabled** goes like one with all of them, and
ends with the same problem or without one, but with fewer warnings. -/
theorem passOver_restrict (g : Grammar) (rules : List RuleId) (w : WarningSet)
    (all : q.session.settings.warnings = .all) :
    passOver g rules (q.restrict w) = mapState (·.restrict w) (passOver g rules q) := by
  refine bind_mapState (f := fun q : Progress => q.restrict w) (forM_compute_restrict rules w all)
    fun _ middle run => ?_
  have all' : middle.session.settings.warnings = .all := by
    rw [(continues_of_forM_compute run).settings, all]
  refine bind_mapState (f := fun q : Progress => q.restrict w)
    (congrArg (EStateM.Result.ok ()) (check_restrict g w all')) fun _ checked _ => ?_
  exact finalizePass_restrict g checked w

/-- **The unparsers of a grammar, with some categories of warnings enabled**: the result is the same
as with all of them, and the reports are those that are enabled. -/
theorem buildUnparsers_restrict (g : Grammar) (mode : Mode) (queue : DiagnosticQueue)
    (w : WarningSet) : g.buildUnparsers ⟨mode, w⟩ (queue.restrict w) =
      ((g.buildUnparsers ⟨mode, .all⟩ queue).1.map (·.withWarnings w),
        (g.buildUnparsers ⟨mode, .all⟩ queue).2.restrict w) := by
  have same : passOver g g.ruleIds (start ⟨mode, w⟩ (queue.restrict w)) =
      mapState (·.restrict w) (passOver g g.ruleIds (start ⟨mode, .all⟩ queue)) :=
    passOver_restrict (q := start ⟨mode, .all⟩ queue) g g.ruleIds w rfl
  cases run : passOver g g.ruleIds (start ⟨mode, .all⟩ queue) with
  | ok _ q =>
    rw [run] at same
    rw [buildUnparsers_eq.mpr run]
    exact buildUnparsers_eq.mpr same
  | error problem q =>
    rw [run] at same
    have shown : w.shows problem.diagnostic.code = true := by cases problem <;> rfl
    rw [buildUnparsers_of_error run, buildUnparsers_of_error same]
    exact congrArg (Prod.mk _) (DiagnosticQueue.add_restrict shown)

end Session

end Unparsing
