import Unparsing.Proofs.Diagnostic.Queue
import Unparsing.Proofs.Session.Calls
import Unparsing.Proofs.Session.Outcome

/-!
# Proofs/Session/Producers — what is recorded does not depend on what is derived

A rule is recorded by listing the parsers in its root that build nodes.  Nothing else about a
session makes a difference to this list: neither its mode, nor whether unparsers are still derived
(`Session.produced_of_forM_compute`).  So a derivation that goes through does so without unparsers,
with the same producers and the same unused node types (`Session.passOver_disabled`).

* `Parser.preorder` — a parser with everything inside it, one entry for each path.
* `Parser.builds` — the node types that a parser builds itself.
-/

namespace Unparsing

/-! ## Parsers in order -/

namespace Parser

mutual

/-- A parser and everything inside it, from the outside in and from left to right. -/
def preorder : Parser → List Parser
  | row id items => row id items :: preorderAll items
  | transform id node rowId items =>
    transform id node rowId items :: row rowId items :: preorderAll items
  | pick id rowId items index => pick id rowId items index :: row rowId items :: preorderAll items
  | list id node element none => list id node element none :: element.preorder
  | list id node element (some separator) =>
    list id node element (some separator) :: (element.preorder ++ separator.preorder)
  | opt id inner tolerant => opt id inner tolerant :: inner.preorder
  | optBool id inner alternatives => optBool id inner alternatives :: inner.preorder
  | choice id branches => choice id branches :: preorderAll branches
  | defer id rule => [defer id rule]
  | token id kind text => [token id kind text]
  | null id node => [null id node]
  | predicate id inner property => predicate id inner property :: inner.preorder
  | skip id node => [skip id node]
  | noBacktrack id => [noBacktrack id]
  | dontSkip id inner => dontSkip id inner :: inner.preorder

/-- Companion of `preorder` on a list of parsers. -/
def preorderAll : List Parser → List Parser
  | [] => []
  | p :: ps => p.preorder ++ preorderAll ps

end

@[simp] theorem preorderAll_eq_flatMap (ps : List Parser) :
    preorderAll ps = ps.flatMap preorder := by
  induction ps with
  | nil => rfl
  | cons p ps ih => rw [preorderAll, ih, List.flatMap_cons]

/-- A parser comes before what is directly inside it. -/
theorem preorder_eq (p : Parser) : p.preorder = p :: p.children.flatMap preorder := by
  cases p with
  | list id node element separator => cases separator <;> simp [preorder, children]
  | _ => simp [preorder, children]

/-- The node types that a parser builds itself. -/
def builds : Parser → List NodeId
  | transform _ node _ _ | list _ node _ _ => [node]
  | optBool _ _ alternatives => alternatives.toList
  | row .. | pick .. | opt .. | choice .. | defer .. | token .. | null .. | predicate .. | skip ..
  | noBacktrack .. | dontSkip .. => []

/-- What is found at a parser to build nodes is the parser itself. -/
theorem productions_findings (top : Bool) (p : Parser) :
    (p.findings top).filterMap Finding.production? = p.builds.map (·, p) := by
  cases p with
  | pick =>
    rw [findings]
    split <;> rfl
  | _ => rfl

/-- **What a survey finds to build nodes** are the parsers that do, in their order. -/
theorem productions_surveyUnder (top : Bool) (p : Parser) :
    (p.surveyUnder top).filterMap Finding.production? =
      p.preorder.flatMap fun q => q.builds.map (·, q) := by
  induction p using children_induction generalizing top with
  | step p ih =>
    rw [surveyUnder_eq, preorder_eq, List.filterMap_append, productions_findings, List.flatMap_cons,
      List.filterMap_flatMap, List.flatMap_assoc]
    congr 1
    exact List.flatMap_congr fun q hq => ih q hq _

end Parser

/-- The parsers of a rule that build nodes of a type, in order.  A boolean optional is listed for
each of its alternatives. -/
def Grammar.listed (g : Grammar) (node : NodeId) (rule : RuleId) : List Parser :=
  if (g.rule? rule).any (·.dontSkip) then
    []
  else
    (g.root? rule).elim [] fun root =>
      root.preorder.flatMap fun p => List.replicate (p.builds.count node) p

theorem filterMap_eq_replicate (p : Parser) (node : NodeId) (nodes : List NodeId) :
    nodes.filterMap (fun n => if n = node then some p else none) =
      List.replicate (nodes.count node) p := by
  induction nodes with
  | nil => rfl
  | cons n nodes ih =>
    by_cases same : n = node
    · simp [same, List.replicate_succ, ih]
    · simp [same, ih]

/-- The producers among the productions of a rule. -/
theorem Grammar.filterMap_productions (g : Grammar) (node : NodeId) (rule : RuleId) :
    (g.productions rule).filterMap (fun (n, p) => if n = node then some p else none) =
      g.listed node rule := by
  unfold productions listed
  split
  · rfl
  cases g.root? rule with
  | none => rfl
  | some root =>
    rw [Option.elim_some, Option.elim_some, Parser.survey, Parser.productions_surveyUnder,
      List.filterMap_flatMap]
    refine List.flatMap_congr fun p _ => ?_
    rw [List.filterMap_map]
    exact filterMap_eq_replicate p node p.builds

namespace Session

variable {g : Grammar} {s s' : Session} {q q' : Progress} {rule : RuleId} {rules : List RuleId}
variable {settings : Settings} {queue queue' : DiagnosticQueue} {name : String}

/-- The producers of a node type, once the productions of rules have been recorded. -/
theorem producers_of_produced (produced : s.produced.toList = rules.flatMap g.productions)
    (n : NodeId) : s.producers n = rules.flatMap (g.listed n) := by
  rw [producers, produced, List.filterMap_flatMap]
  exact List.flatMap_congr fun rule _ => g.filterMap_productions n rule

/-! ## Recording -/

theorem produced_of_record {node : NodeId} {p : Parser} (run : record g node p s = .ok () s') :
    s'.produced.toList = s.produced.toList ++ [(node, p)] := by
  simp only [record] at run
  split at run
  · cases run
    exact Array.toList_push
  · cases run
    exact Array.toList_push
  · cases run

theorem produced_of_note {f : Finding} (run : note g name f s = .ok () s') :
    s'.produced.toList = s.produced.toList ++ f.production?.toList := by
  cases f with
  | builds node producer => exact produced_of_record run
  | drops pick =>
    rw [note_drops] at run
    split at run
    · cases run
    · cases run
      exact (List.append_nil _).symm

theorem produced_of_forM_note {fs : List Finding} (run : forM fs (note g name) s = .ok () s') :
    s'.produced.toList = s.produced.toList ++ fs.filterMap Finding.production? := by
  induction fs generalizing s with
  | nil =>
    cases run
    exact (List.append_nil _).symm
  | cons f fs ih =>
    obtain ⟨⟨⟩, middle, first, rest⟩ := estate_bind_eq_ok.mp run
    rw [ih rest, produced_of_note first, List.append_assoc]
    cases f <;> rfl

/-- Unused node types are not reported when unparsers are given up. -/
theorem agree_giveUp (q : Progress) (reason : String) :
    DiagnosticQueue.Agree .unusedNodeType (q.giveUp reason).queue q.queue :=
  DiagnosticQueue.agree_warnIf nofun

/-- **Recording a rule** notes its productions, and reports no unused node types. -/
theorem produced_of_compute (run : compute g rule q = .ok () q') :
    q'.session.produced.toList = q.session.produced.toList ++ g.productions rule ∧
      DiagnosticQueue.Agree .unusedNodeType q'.queue q.queue := by
  obtain ⟨passed, rfl⟩ | ⟨user, root, s', rooted, noted, creation⟩ := compute_cases run
  · rw [Grammar.productions, if_pos passed, List.append_nil]
    exact ⟨rfl, .refl _ _⟩
  · have produced := produced_of_forM_note noted
    rw [← Grammar.productions_of_root user rooted] at produced
    obtain ⟨-, rfl⟩ | ⟨-, reason, rfl⟩ := creation
    · exact ⟨produced, .refl _ _⟩
    · exact ⟨produced, agree_giveUp ⟨s', q.queue⟩ reason⟩

/-- **Recording rules** notes their productions in order, and reports no unused node types. -/
theorem produced_of_forM_compute (run : forM rules (compute g) q = .ok () q') :
    q'.session.produced.toList = q.session.produced.toList ++ rules.flatMap g.productions ∧
      DiagnosticQueue.Agree .unusedNodeType q'.queue q.queue := by
  induction rules generalizing q with
  | nil =>
    cases run
    exact ⟨(List.append_nil _).symm, .refl _ _⟩
  | cons rule rules ih =>
    obtain ⟨⟨⟩, middle, first, rest⟩ := estate_bind_eq_ok.mp run
    obtain ⟨one, kept⟩ := produced_of_compute first
    obtain ⟨others, kept'⟩ := ih rest
    rw [others, one, List.append_assoc, List.flatMap_cons]
    exact ⟨rfl, kept'.trans kept⟩

/-! ## Checking and combining -/

theorem produced_check (g : Grammar) (q : Progress) :
    (check g q).session.produced = q.session.produced := by
  rw [session_check]
  split
  · rw [checkAgreement_frame]
  · rfl

/-- What a check reports on unused node types, it reports before it compares producers. -/
theorem agree_check (g : Grammar) (q : Progress) :
    DiagnosticQueue.Agree .unusedNodeType (check g q).queue (q.session.warnUnused g q.queue) := by
  unfold check
  split
  · generalize q.session.checkAgreement g g.nodes.ids = reached
    obtain ⟨session, _ | node⟩ := reached
    · exact .refl _ _
    · exact agree_giveUp ⟨session, q.session.warnUnused g q.queue⟩ _
  · exact .refl _ _

/-- **The unused node types that are reported** depend on the producers and the categories of
warnings only. -/
theorem agree_warnUnused (g : Grammar) (producers : ∀ n, s.producers n = s'.producers n)
    (warnings : s.settings.warnings = s'.settings.warnings)
    (h : DiagnosticQueue.Agree .unusedNodeType queue queue') :
    DiagnosticQueue.Agree .unusedNodeType (s.warnUnused g queue) (s'.warnUnused g queue') := by
  unfold warnUnused
  generalize g.nodes.ids = nodes
  induction nodes generalizing queue queue' with
  | nil => exact h
  | cons node nodes ih =>
    refine ih ?_
    have unused : s.isUnused g node = s'.isUnused g node := by
      rw [isUnused, producers, isUnused]
    beta_reduce
    rw [unused, warnings]
    exact h.warnIf rfl rfl

theorem produced_of_finalize (run : finalize g s = .ok () s') : s'.produced = s.produced := by
  by_cases enabled : s.enabled = true
  · rw [finalize_of_enabled enabled] at run
    rw [(forM_finalizeNode_ok run).frame]
  · rw [finalize_of_disabled (by simpa using enabled)] at run
    cases run
    rfl

/-! ## The whole derivation -/

/-- A derivation that goes through has recorded its rules. -/
theorem produced_of_passOver (run : passOver g rules (start settings queue) = .ok () q') :
    q'.session.produced.toList = rules.flatMap g.productions := by
  obtain ⟨middle, s', first, last, rfl⟩ := passOver_eq_ok.mp run
  have kept : s'.produced = middle.session.produced :=
    (produced_of_finalize last).trans (produced_check g middle)
  exact (congrArg Array.toList kept).trans (produced_of_forM_compute first).1

/-- **A derivation without unparsers** goes through if its rules can be recorded. -/
theorem passOver_of_disabled (disabled : q.session.enabled = false)
    (ready : ∀ rule ∈ rules, g.Recordable rule) :
    ∃ queue, DiagnosticQueue.Agree .unusedNodeType queue q.queue ∧
      passOver g rules q = .ok ()
        { session := { q.session.noting (rules.flatMap g.productions) with
            derived := #[], final := [] }
          queue := (q.session.noting (rules.flatMap g.productions)).warnUnused g queue } := by
  obtain ⟨queue, recorded⟩ := forM_compute_of_disabled disabled ready
  have checked := check_of_disabled (g := g)
    (q := ⟨q.session.noting (rules.flatMap g.productions), queue⟩) disabled
  refine ⟨queue, (produced_of_forM_compute recorded).2, passOver_eq_ok.mpr ⟨_,
    { q.session.noting (rules.flatMap g.productions) with derived := #[], final := [] },
    recorded, ?_, ?_⟩⟩
  · rw [checked]
    exact finalize_of_disabled disabled
  · rw [checked]

/-- **A derivation that goes through does so without unparsers**, with the same producers and the
same reports of unused node types, and derives nothing. -/
theorem passOver_disabled (run : passOver g rules (start settings queue) = .ok () q') :
    ∃ q, passOver g rules (start { settings with mode := .disabled } queue) = .ok () q ∧
      (∀ n, q.session.producers n = q'.session.producers n) ∧
      DiagnosticQueue.Agree .unusedNodeType q.queue q'.queue ∧
      q.session.tokens = {} ∧ q.session.final = [] := by
  have produced := produced_of_passOver run
  obtain ⟨middle, s', first, last, rfl⟩ := passOver_eq_ok.mp run
  obtain ⟨recorded, quiet⟩ := produced_of_forM_compute first
  obtain ⟨queue₁, quiet₁, without⟩ := passOver_of_disabled
    (q := start { settings with mode := .disabled } queue) rfl (recordable_of_forM_compute first)
  refine ⟨_, without, fun n => ?_, ?_, rfl, rfl⟩
  · rw [producers_of_produced produced, producers_of_produced (produced_of_passOver without)]
  · refine (agree_warnUnused g (fun n => ?_) ?_ (quiet₁.trans quiet.symm)).trans
      (agree_check g middle).symm
    · rw [producers_of_produced recorded, producers_of_produced]
      exact toList_produced_noting _ _
    · exact (congrArg Settings.warnings (continues_of_forM_compute first).settings).symm

end Session

end Unparsing
