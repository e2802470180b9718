import Unparsing.Proofs.Build
import Unparsing.Proofs.Diagnostic.Calls
import Unparsing.Proofs.Session.Producers

/-!
# Proofs/Session/Reports — what a derivation reports

A derivation reports problems and three kinds of warnings: a rule that loses something, a node type
that nothing builds, and a node type whose producers do not agree.  Which warnings these are can be
read off the grammar, without a session: `Grammar.transcript` lists them, and a derivation that goes
through offers just these to its queue, in this order (`Session.reports_of_passOver`).  One that
fails has offered nothing but warnings (`Session.warned_passOver`).
-/

namespace Unparsing

open DiagnosticQueue (Warned)

/-! ## The warnings of a grammar -/

/-- Whether it is reported that unparsers are given up. -/
def Settings.reportsGivingUp (s : Settings) : Bool := s.wantsUnparsers && s.warnings.badGrammar

/-- The report that unparsers are given up. -/
def Diagnostic.givesUp (reason : String) : Diagnostic where
  code := .badGrammar
  severity := .warning
  message := reason ++ " This prevents the generation of an automatic unparser."

namespace Grammar

/-- Whether a rule is a user's, and its root does not create a node. -/
def loses (g : Grammar) (rule : RuleId) : Bool :=
  !(g.rule? rule).any (·.dontSkip) && (g.root? rule).any (!g.createsNode ·)

/-- The parsers of all rules that build nodes of a type, in order. -/
def producers (g : Grammar) (node : NodeId) : List Parser := g.ruleIds.flatMap (g.listed node)

/-- Whether no parser builds nodes of a type, although some should. -/
def isUnused (g : Grammar) (node : NodeId) : Bool :=
  (g.producers node).isEmpty && g.nodes.isConcrete node && !g.nodes.isBaseList node

/-- The first node type whose producers do not agree. -/
def irregular? (g : Grammar) : Option NodeId :=
  g.nodes.ids.find? fun node => !g.agree (g.producers node)

/-- The reports of the rules that lose something. -/
def lossReports (g : Grammar) (rules : List RuleId) : List Diagnostic :=
  (rules.filter g.loses).map fun rule =>
    .givesUp s!"'{g.ruleName rule}' toplevel rule loses information."

/-- The reports of the node types that nothing builds. -/
def unusedReports (g : Grammar) : List Diagnostic :=
  (g.nodes.ids.filter g.isUnused).map (Session.unusedDiagnostic g)

/-- The report of the first of some node types that the producers do not agree on. -/
def irregularReports (g : Grammar) (node : Option NodeId) : List Diagnostic :=
  node.toList.map fun node =>
    .givesUp s!"Node {g.nodes.name node} is parsed in different incompatible ways."

/-- **The warnings of a grammar**, in the order in which they are reported. -/
def transcript (g : Grammar) (settings : Settings) : List Diagnostic :=
  (if settings.reportsGivingUp then g.lossReports g.ruleIds else []) ++
  (if settings.warnings.unusedNodeType then g.unusedReports else []) ++
  if settings.reportsGivingUp && !g.ruleIds.any g.loses then g.irregularReports g.irregular? else []

end Grammar

namespace Session

variable {g : Grammar} {s s' : Session} {q q' : Progress} {rule : RuleId} {rules : List RuleId}
variable {settings : Settings} {queue : DiagnosticQueue} {problem : Problem}

/-! ## Recording -/

theorem queue_giveUp (q : Progress) (reason : String) :
    (q.giveUp reason).queue =
      q.queue.addAll (if q.session.settings.reportsGivingUp then [.givesUp reason] else []) := by
  have offered : DiagnosticQueue.offers q.session.settings.warnings (.ofList [.badGrammar])
      q.session.settings.wantsUnparsers = q.session.settings.reportsGivingUp := by
    rw [DiagnosticQueue.offers, WarningSet.contains_ofList_singleton]
    rfl
  rw [Progress.giveUp, DiagnosticQueue.warnIf_eq_addAll, offered]
  rfl

/-- **Recording a rule** reports that it loses something, if it does, and then gives unparsers
up. -/
theorem reports_of_compute (run : compute g rule q = .ok () q') :
    q'.queue = q.queue.addAll
      (if q.session.settings.reportsGivingUp then g.lossReports [rule] else []) ∧
    q'.session.enabled = (q.session.enabled && !g.loses rule) := by
  obtain ⟨passed, rfl⟩ | ⟨user, root, s', rooted, noted, -⟩ := compute_cases run
  · simp [Grammar.lossReports, Grammar.loses, passed]
  have settings := (notes_of_forM_note noted).continues.settings
  have enabled := (notes_of_forM_note noted).enabled
  have loses : g.loses rule = !g.createsNode root := by simp [Grammar.loses, user, rooted]
  cases (compute_of_noted user rooted noted).symm.trans run
  cases creates : g.createsNode root with
  | true => simp [Grammar.lossReports, loses, creates, enabled]
  | false => simp [queue_giveUp, Grammar.lossReports, loses, creates, settings]

/-- Recording a rule reports nothing where it fails. -/
theorem queue_of_compute_error (run : compute g rule q = .error problem q') :
    q'.queue = q.queue := by
  simp only [compute] at run
  split at run
  · cases run
  split at run
  · cases run
    rfl
  split at run
  · cases run
    rfl
  · split at run <;> cases run

/-- **Recording rules** reports each that loses something, and gives unparsers up if one does. -/
theorem reports_of_forM_compute (run : forM rules (compute g) q = .ok () q') :
    q'.queue = q.queue.addAll
      (if q.session.settings.reportsGivingUp then g.lossReports rules else []) ∧
    q'.session.enabled = (q.session.enabled && !rules.any g.loses) := by
  induction rules generalizing q with
  | nil =>
    cases run
    simp [Grammar.lossReports]
  | cons rule rules ih =>
    obtain ⟨⟨⟩, middle, first, rest⟩ := estate_bind_eq_ok.mp run
    obtain ⟨one, enabled⟩ := reports_of_compute first
    obtain ⟨others, enabled'⟩ := ih rest
    have settings := (continues_of_compute first).settings
    have split : g.lossReports (rule :: rules) = g.lossReports [rule] ++ g.lossReports rules := by
      rw [Grammar.lossReports, Grammar.lossReports, Grammar.lossReports, ← List.map_append,
        ← List.filter_append, List.singleton_append]
    constructor
    · rw [others, one, settings, split]
      cases q.session.settings.reportsGivingUp with
      | true => exact (DiagnosticQueue.addAll_append ..).symm
      | false => rfl
    · rw [enabled', enabled, List.any_cons, Bool.not_or, Bool.and_assoc]

/-! ## Checking -/

/-- The check reports the node types that need a producer and have none. -/
theorem warnUnused_eq_addAll (g : Grammar) (s : Session) (queue : DiagnosticQueue) :
    s.warnUnused g queue = queue.addAll (if s.settings.warnings.unusedNodeType then
      (g.nodes.ids.filter (s.isUnused g)).map (unusedDiagnostic g) else []) := by
  unfold warnUnused
  generalize g.nodes.ids = nodes
  induction nodes generalizing queue with
  | nil => simp
  | cons node nodes ih =>
    rw [List.foldl_cons, ih, DiagnosticQueue.warnIf_eq_addAll, ← DiagnosticQueue.addAll_append,
      DiagnosticQueue.offers, WarningSet.contains_ofList_singleton, WarningSet.has]
    cases s.settings.warnings.unusedNodeType with
    | true => cases unused : s.isUnused g node <;> simp [unused]
    | false => simp

/-- The comparison stops at the first node type whose producers do not agree. -/
theorem checkAgreement_stop (g : Grammar) (s : Session) (nodes : List NodeId) :
    (checkAgreement g s nodes).2 = nodes.find? fun n => !g.agree (s.currentProducers g n) := by
  induction nodes generalizing s with
  | nil => rfl
  | cons node nodes ih =>
    rw [checkAgreement]
    cases agree : g.agree (s.currentProducers g node) with
    | true =>
      rw [if_pos rfl, List.find?_cons_of_neg (by simp [agree])]
      split
      · exact ih s
      · exact ih _
    | false => rw [if_neg Bool.false_ne_true, List.find?_cons_of_pos (by simp [agree])]

/-- **The check** reports unused node types, and then the first one whose producers do not agree, if
unparsers are still derived. -/
theorem queue_check (g : Grammar) (q : Progress) :
    (check g q).queue = (q.session.warnUnused g q.queue).addAll
      (if q.session.settings.reportsGivingUp && q.session.enabled then
        g.irregularReports (g.nodes.ids.find? fun n => !g.agree (q.session.currentProducers g n))
      else []) := by
  unfold check
  split
  next enabled =>
    have settings : (q.session.checkAgreement g g.nodes.ids).1.settings = q.session.settings := by
      rw [checkAgreement_frame]
    rw [← checkAgreement_stop, enabled, Bool.and_true]
    generalize q.session.checkAgreement g g.nodes.ids = reached at settings ⊢
    obtain ⟨session, _ | node⟩ := reached
    · simp [Grammar.irregularReports]
    · rw [queue_giveUp, settings]
      rfl
  next disabled => simp [disabled]

/-! ## The whole derivation -/

theorem queue_finalizePass (g : Grammar) (q : Progress) :
    (stateAfter (finalizePass g) q).queue = q.queue := by
  unfold stateAfter finalizePass
  cases (finalize g).run q.session <;> rfl

/-- **A derivation that goes through** offers the warnings of its grammar to the queue, in order. -/
theorem reports_of_passOver (wf : g.WellFormed)
    (run : passOver g g.ruleIds (start settings queue) = .ok () q') :
    q'.queue = queue.addAll (g.transcript settings) ∧
    (q'.session.enabled = true ↔ settings.wantsUnparsers = true ∧
      (∀ rule ∈ g.ruleIds, g.loses rule = false) ∧ g.irregular? = none) := by
  obtain ⟨middle, s', first, last, rfl⟩ := passOver_eq_ok.mp run
  obtain ⟨losses, enabled⟩ := reports_of_forM_compute first
  have settings' : middle.session.settings = settings := (continues_of_forM_compute first).settings
  have recorded : middle.session.produced.toList = g.ruleIds.flatMap g.productions :=
    (produced_of_forM_compute first).1
  have producers : middle.session.producers = g.producers :=
    funext fun n => producers_of_produced recorded n
  have current : middle.session.currentProducers g = g.producers :=
    funext fun n => (currentProducers_eq_of_produced wf recorded n).trans (congrFun producers n)
  have unused : middle.session.isUnused g = g.isUnused := by
    funext n
    rw [isUnused, producers, Grammar.isUnused]
  have kept : s'.enabled = (check g middle).session.enabled := by
    by_cases still : (check g middle).session.enabled = true
    · rw [finalize_of_enabled still] at last
      rw [(forM_finalizeNode_ok last).frame]
    · rw [finalize_of_disabled (by simpa using still)] at last
      cases last
      rfl
  have wanted : middle.session.enabled = (settings.wantsUnparsers && !g.ruleIds.any g.loses) :=
    enabled
  constructor
  · have still : (settings.reportsGivingUp && middle.session.enabled) =
        (settings.reportsGivingUp && !g.ruleIds.any g.loses) := by
      rw [wanted, Settings.reportsGivingUp]
      cases settings.wantsUnparsers <;> rfl
    change (check g middle).queue = _
    rw [queue_check, warnUnused_eq_addAll, losses, settings', still, current, unused,
      Grammar.transcript, DiagnosticQueue.addAll_append, DiagnosticQueue.addAll_append]
    rfl
  · rw [kept, enabled_check, wanted, current, Grammar.irregular?, List.find?_eq_none]
    simp [and_assoc]

/-- Recording a rule reports nothing but warnings, also where it fails. -/
theorem warned_compute (g : Grammar) (rule : RuleId) (q : Progress) :
    Warned q.queue (stateAfter (compute g rule) q).queue := by
  cases run : compute g rule q with
  | ok _ q' =>
    rw [stateAfter_of_ok run, (reports_of_compute run).1]
    exact DiagnosticQueue.warned_addAll_ite _ _ (List.forall_mem_map.mpr fun _ _ => rfl)
  | error problem q' =>
    rw [stateAfter_of_error run, queue_of_compute_error run]
    exact .refl _

theorem warned_check (g : Grammar) (q : Progress) : Warned q.queue (check g q).queue := by
  rw [queue_check, warnUnused_eq_addAll]
  exact (DiagnosticQueue.warned_addAll_ite _ _ (List.forall_mem_map.mpr fun _ _ => rfl)).trans
    (DiagnosticQueue.warned_addAll_ite _ _ (List.forall_mem_map.mpr fun _ _ => rfl))

/-- **A derivation reports nothing but warnings**, also where it fails. -/
theorem warned_passOver (g : Grammar) (rules : List RuleId) (q : Progress) :
    Warned q.queue (stateAfter (passOver g rules) q).queue := by
  have recorded : Warned q.queue (stateAfter (forM rules (compute g)) q).queue :=
    stateAfter_forM (R := fun q q' => Warned q.queue q'.queue) (fun q => .refl q.queue) .trans
      (warned_compute g) rules q
  change Warned q.queue (stateAfter (forM rules (compute g) >>= fun _ =>
    (modify (check g) >>= fun _ => finalizePass g : Pass Unit)) q).queue
  rw [stateAfter_bind]
  cases run : forM rules (compute g) q with
  | error problem q' => rwa [stateAfter_of_error run] at recorded
  | ok _ middle =>
    rw [stateAfter_of_ok run] at recorded
    change Warned q.queue (stateAfter (finalizePass g) (check g middle)).queue
    rw [queue_finalizePass]
    exact recorded.trans (warned_check g middle)

/-- **How a derivation ends**: with warnings only, or with an error after them. -/
theorem reports_of_buildUnparsers (g : Grammar) (settings : Settings) (queue : DiagnosticQueue) :
    ∃ queue', Warned queue queue' ∧
      ((∃ s, g.buildUnparsers settings queue = (.ok s, queue')) ∨
        ∃ problem : Problem,
          g.buildUnparsers settings queue = (.error {}, (queue'.add problem.diagnostic).2)) := by
  have warned := warned_passOver g g.ruleIds (start settings queue)
  cases run : passOver g g.ruleIds (start settings queue) with
  | ok _ q =>
    rw [stateAfter_of_ok run] at warned
    exact ⟨q.queue, warned, .inl ⟨q.session, buildUnparsers_eq.mpr run⟩⟩
  | error problem q =>
    rw [stateAfter_of_error run] at warned
    exact ⟨q.queue, warned, .inr ⟨problem, buildUnparsers_of_error run⟩⟩

theorem counted_buildUnparsers (g : Grammar) (settings : Settings) (counted : queue.Counted) :
    (g.buildUnparsers settings queue).2.Counted := by
  obtain ⟨queue', warned, ⟨s, run⟩ | ⟨problem, run⟩⟩ := reports_of_buildUnparsers g settings queue
  · rw [run]
    exact warned.counted counted
  · rw [run]
    exact (warned.counted counted).add problem.diagnostic

end Session

end Unparsing
