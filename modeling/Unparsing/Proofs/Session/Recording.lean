import Unparsing.Proofs.Derivation.Shape
import Unparsing.Proofs.Derivation.Stepwise
import Unparsing.Build

/-!
# Proofs/Session/Recording — what a session knows once rules have been recorded

While unparsers are derived, recording a rule comes down to recording its productions, the node
types that it builds with their producers: a rule that loses something ends the derivation
(`Session.compute_eq_ok`).  Productions can be recorded if each can be derived on its own, whatever
has been recorded before (`Session.recordAll_ok`, `Session.recordAll_of_derivable`), so neither
their order nor that of the rules matters.

* `Session.Settled` — every producer derives the unparser noted beside it, also from the table that
  the session has reached.
* `Grammar.vocabulary` — the tokens that a production needs.
-/

namespace Unparsing

/-! ## What a rule brings -/

/-- The node type that is built at a finding, and its producer. -/
def Finding.production? : Finding → Option (NodeId × Parser)
  | builds node producer => some (node, producer)
  | drops _ => none

namespace Grammar

/-- The node types that a rule builds, each with its producer, in the order of the survey. -/
def productions (g : Grammar) (rule : RuleId) : List (NodeId × Parser) :=
  if (g.rule? rule).any (·.dontSkip) then
    []
  else
    (g.root? rule).elim [] fun root => root.survey.filterMap Finding.production?

/-- A rule that unparsers need not be given up for: it hands over the node it builds, and nothing is
dropped where that is an error. -/
def Sound (g : Grammar) (settings : Settings) (rule : RuleId) : Prop :=
  (g.rule? rule).any (·.dontSkip) = true ∨
    ∃ root, g.root? rule = some root ∧ g.createsNode root = true ∧
      (settings.rejectsLoss = true → ∀ pick, Finding.drops pick ∉ root.survey)

/-- A node type that can be derived from a parser. -/
def Derivable (g : Grammar) (node : NodeId) (p : Parser) : Prop :=
  ∃ u t, g.deriveNode node p {} = .ok u t

/-- The tokens that the unparser of a node type takes, derived on its own. -/
def vocabulary (g : Grammar) (node : NodeId) (p : Parser) : List TokenUnparser :=
  match g.deriveNode node p {} with
  | .ok _ t => t.tokens.toList
  | .error _ _ => []

variable {g : Grammar} {node : NodeId} {p : Parser} {u : NodeUnparser} {t t' : TokenTable}

/-- What a rule produces is found in a survey of its root. -/
theorem productions_of_root {rule : RuleId} {root : Parser}
    (user : (g.rule? rule).any (·.dontSkip) = false) (rooted : g.root? rule = some root) :
    g.productions rule = root.survey.filterMap Finding.production? := by
  rw [productions, user, rooted]
  rfl

/-- The productions of a rule are what a survey of its root finds to build nodes. -/
theorem mem_productions {rule : RuleId} :
    (node, p) ∈ g.productions rule ↔ (g.rule? rule).any (·.dontSkip) = false ∧
      ∃ root, g.root? rule = some root ∧ .builds node p ∈ root.survey := by
  have found (f : Finding) : f.production? = some (node, p) ↔ f = .builds node p := by
    cases f <;> simp [Finding.production?]
  unfold productions
  cases (g.rule? rule).any (·.dontSkip) with
  | true => simp
  | false => cases g.root? rule <;> simp [found]

/-- What can be derived from one table can be derived from each. -/
theorem deriveNode_of_derivable (ht : t.Faithful g.kinds) (h : g.Derivable node p) :
    ∃ u t', g.deriveNode node p t = .ok u t' := by
  obtain ⟨_, _, run⟩ := h
  obtain ⟨u, t', run', -⟩ :=
    (oblivious_deriveNode node p).transfer (TokenTable.faithful_empty g.kinds) ht run
  exact ⟨u, t', run'⟩

/-- A derivation that succeeds on one table succeeds on its own, and adds just the tokens that it
takes. -/
theorem derivable_of_deriveNode (ht : t.Faithful g.kinds) (run : g.deriveNode node p t = .ok u t') :
    g.Derivable node p ∧
      ∀ v, v ∈ t'.tokens.toList ↔ v ∈ t.tokens.toList ∨ v ∈ g.vocabulary node p := by
  obtain ⟨u₀, t₀, run₀, grown, -⟩ :=
    (oblivious_deriveNode node p).transfer ht (TokenTable.faithful_empty g.kinds) run
  refine ⟨⟨u₀, t₀, run₀⟩, fun v => ?_⟩
  have alone : g.vocabulary node p = t₀.tokens.toList := by simp only [vocabulary, run₀]
  rw [alone]
  refine ⟨grown.new_left v, ?_⟩
  rintro (old | new)
  · exact grown.left.subset old
  · exact (grown.new_right v new).resolve_left (by simp)

end Grammar

/-! ## Recording productions -/

namespace Session

variable {g : Grammar} {s s' s'' : Session} {node : NodeId} {p : Parser}

/-- Every producer derives the unparser noted beside it, and the table needs no more tokens for
that. -/
structure Settled (g : Grammar) (s : Session) : Prop where
  faithful : s.tokens.Faithful g.kinds
  derives : List.Forall₂
    (fun a b => a.1 = b.1 ∧ g.deriveNode a.1 a.2 s.tokens = .ok b.2 s.tokens)
    s.produced.toList s.derived.toList

/-- Records productions, one after the other. -/
def recordAll (g : Grammar) (ps : List (NodeId × Parser)) : EStateM Problem Session Unit :=
  forM ps fun a => record g a.1 a.2

/-- What recording productions changes in a session. -/
structure Recorded (g : Grammar) (ps : List (NodeId × Parser)) (s s' : Session) : Prop where
  settled : s'.Settled g
  produced : s'.produced.toList = s.produced.toList ++ ps
  frame : s' = { s with produced := s'.produced, derived := s'.derived, tokens := s'.tokens }
  tokens : ∀ v, v ∈ s'.tokens.tokens.toList ↔
    v ∈ s.tokens.tokens.toList ∨ ∃ a ∈ ps, v ∈ g.vocabulary a.1 a.2

theorem Recorded.enabled {ps : List (NodeId × Parser)} (h : Recorded g ps s s') :
    s'.enabled = s.enabled := by rw [h.frame]

theorem Recorded.refl (h : s.Settled g) : Recorded g [] s s :=
  ⟨h, (List.append_nil _).symm, rfl, by simp⟩

theorem Recorded.trans {ps qs : List (NodeId × Parser)} (h : Recorded g ps s s')
    (h' : Recorded g qs s' s'') : Recorded g (ps ++ qs) s s'' where
  settled := h'.settled
  produced := by rw [h'.produced, h.produced, List.append_assoc]
  frame := by
    rw [h'.frame, h.frame]
  tokens v := by
    rw [h'.tokens, h.tokens]
    simp only [List.mem_append, or_and_right, exists_or, or_assoc]

/-- While unparsers are derived, recording is deriving. -/
theorem record_eq_ok (enabled : s.enabled = true) :
    record g node p s = .ok () s' ↔ ∃ u t, g.deriveNode node p s.tokens = .ok u t ∧
      s' = { s with produced := s.produced.push (node, p), derived := s.derived.push (node, u),
                    tokens := t } := by
  unfold record
  simp only [Derivation.attempt, enabled, if_true]
  cases g.deriveNode node p s.tokens with
  | ok u t => simp [Derivation.result, eq_comm]
  | error problem t => simp [Derivation.result]

theorem record_keeps (enabled : s.enabled = true) (run : record g node p s = .ok () s') :
    s'.enabled = true ∧ s'.settings = s.settings := by
  obtain ⟨u, t, -, rfl⟩ := (record_eq_ok enabled).mp run
  exact ⟨enabled, rfl⟩

/-- **Recording a production** keeps the session settled: what was derived before is still derived
from the table that has grown. -/
theorem record_ok (enabled : s.enabled = true) (h : s.Settled g)
    (run : record g node p s = .ok () s') :
    Recorded g [(node, p)] s s' ∧ g.Derivable node p := by
  obtain ⟨u, t, derived, rfl⟩ := (record_eq_ok enabled).mp run
  obtain ⟨grown, faithful⟩ := (Grammar.oblivious_deriveNode node p).grows h.faithful derived
  obtain ⟨derivable, tokens⟩ := Grammar.derivable_of_deriveNode h.faithful derived
  refine ⟨⟨⟨faithful, ?_⟩, Array.toList_push, rfl, fun v => by simp [tokens]⟩, derivable⟩
  have old := h.derives.imp fun a b same =>
    And.intro same.1 (Grammar.deriveNode_rerun same.2 grown)
  have new := Grammar.deriveNode_rerun derived (.refl t)
  simp only [Array.toList_push]
  exact List.rel_append old (.cons ⟨rfl, new⟩ .nil)

theorem recordAll_keeps {ps : List (NodeId × Parser)} (enabled : s.enabled = true)
    (run : recordAll g ps s = .ok () s') : s'.enabled = true ∧ s'.settings = s.settings := by
  induction ps generalizing s with
  | nil =>
    cases run
    exact ⟨enabled, rfl⟩
  | cons a ps ih =>
    obtain ⟨⟨⟩, middle, first, rest⟩ := estate_bind_eq_ok.mp run
    obtain ⟨enabled', settings⟩ := record_keeps enabled first
    obtain ⟨enabled'', settings'⟩ := ih enabled' rest
    exact ⟨enabled'', settings'.trans settings⟩

/-- Recording two lists of parsers is recording one after the other. -/
theorem recordAll_append_eq_ok {ps qs : List (NodeId × Parser)} :
    recordAll g (ps ++ qs) s = .ok () s'' ↔
      ∃ s', recordAll g ps s = .ok () s' ∧ recordAll g qs s' = .ok () s'' := by
  rw [recordAll, List.forM_append, estate_bind_eq_ok]
  exact ⟨fun ⟨_, s', first, rest⟩ => ⟨s', first, rest⟩, fun ⟨s', run⟩ => ⟨(), s', run⟩⟩

/-- **Productions that were recorded can all be derived**, and the session is settled. -/
theorem recordAll_ok {ps : List (NodeId × Parser)} (enabled : s.enabled = true) (h : s.Settled g)
    (run : recordAll g ps s = .ok () s') :
    Recorded g ps s s' ∧ ∀ a ∈ ps, g.Derivable a.1 a.2 := by
  induction ps generalizing s with
  | nil =>
    cases run
    exact ⟨.refl h, nofun⟩
  | cons a ps ih =>
    obtain ⟨⟨⟩, middle, first, rest⟩ := estate_bind_eq_ok.mp run
    obtain ⟨one, derivable⟩ := record_ok enabled h first
    obtain ⟨others, derivables⟩ := ih (one.enabled.trans enabled) one.settled rest
    exact ⟨one.trans others, List.forall_mem_cons.mpr ⟨derivable, derivables⟩⟩

/-- **Productions that can be derived, each on its own, can be recorded.** -/
theorem recordAll_of_derivable {ps : List (NodeId × Parser)} (enabled : s.enabled = true)
    (h : s.Settled g) (derivable : ∀ a ∈ ps, g.Derivable a.1 a.2) :
    ∃ s', recordAll g ps s = .ok () s' := by
  induction ps generalizing s with
  | nil => exact ⟨s, rfl⟩
  | cons a ps ih =>
    rw [List.forall_mem_cons] at derivable
    obtain ⟨u, t, derived⟩ := Grammar.deriveNode_of_derivable h.faithful derivable.1
    have first := (record_eq_ok enabled).mpr ⟨u, t, derived, rfl⟩
    have one := (record_ok enabled h first).1
    obtain ⟨s', rest⟩ := ih (one.enabled.trans enabled) one.settled derivable.2
    exact ⟨s', estate_bind_eq_ok.mpr ⟨(), _, first, rest⟩⟩

/-! ## Recording rules -/

/-- What stays as it was, and that unparsers given up are not taken up again. -/
structure Continues (s s' : Session) : Prop where
  settings : s'.settings = s.settings
  final : s'.final = s.final
  runTable : s'.runTable = s.runTable
  enabled : s'.enabled = true → s.enabled = true

theorem Continues.refl (s : Session) : Continues s s := ⟨rfl, rfl, rfl, id⟩

theorem Continues.trans (h : Continues s s') (h' : Continues s' s'') : Continues s s'' :=
  ⟨h'.settings.trans h.settings, h'.final.trans h.final, h'.runTable.trans h.runTable,
    h.enabled ∘ h'.enabled⟩

/-- Nothing but notes is taken: of producers, their unparsers, and the tokens of these. -/
def Notes (s s' : Session) : Prop :=
  s' = { s with produced := s'.produced, derived := s'.derived, tokens := s'.tokens }

theorem Notes.refl (s : Session) : Notes s s := rfl

theorem Notes.trans (h : Notes s s') (h' : Notes s' s'') : Notes s s'' := by
  rw [Notes, h', h]

theorem Notes.continues (h : Notes s s') : Continues s s' := by
  rw [h]
  exact ⟨rfl, rfl, rfl, id⟩

theorem Notes.enabled (h : Notes s s') : s'.enabled = s.enabled := by rw [h]

theorem notes_record (g : Grammar) (node : NodeId) (p : Parser) (s : Session) :
    Notes s (stateAfter (record g node p) s) := by
  simp only [stateAfter, record]
  generalize Derivation.attempt s.enabled (g.deriveNode node p) s.tokens = attempted
  obtain ⟨derivation, tokens⟩ := attempted
  cases derivation.result with
  | ok unparser => cases unparser <;> rfl
  | error problem => rfl

/-- A dropped result is refused while unparsers are wanted and loss is an error, and passed over
otherwise. -/
theorem note_drops (g : Grammar) (name : String) (pick : Parser) (s : Session) :
    note g name (.drops pick) s = if s.enabled && s.settings.rejectsLoss then
      .error (.topLevelLoss name (g.span pick)) s else .ok () s := by
  change (if s.enabled && s.settings.rejectsLoss then _ else _ : EStateM Problem Session Unit) s = _
  split <;> rfl

/-- Noting a finding takes nothing but notes, also if it fails. -/
theorem notes_note (g : Grammar) (name : String) (f : Finding) (s : Session) :
    Notes s (stateAfter (note g name f) s) := by
  cases f with
  | builds node producer => exact notes_record g node producer s
  | drops pick =>
    have same : stateAfter (note g name (.drops pick)) s = s := by
      rw [stateAfter, note_drops]
      cases s.enabled && s.settings.rejectsLoss <;> rfl
    rw [same]
    exact .refl s

/-- Recording findings takes nothing but notes, also where it fails. -/
theorem notes_forM_note (g : Grammar) (name : String) (fs : List Finding) (s : Session) :
    Notes s (stateAfter (forM fs (note g name)) s) :=
  stateAfter_forM Notes.refl Notes.trans (notes_note g name) fs s

theorem notes_of_forM_note {name : String} {fs : List Finding}
    (run : forM fs (note g name) s = .ok () s') : Notes s s' :=
  stateAfter_of_ok run ▸ notes_forM_note g name fs s

/-- A drop is passed over, unless it is an error. -/
theorem note_drops_eq_ok {name : String} {pick : Parser} (enabled : s.enabled = true) :
    note g name (.drops pick) s = .ok () s' ↔ s.settings.rejectsLoss = false ∧ s' = s := by
  rw [note_drops, enabled, Bool.true_and]
  cases s.settings.rejectsLoss with
  | true => simp
  | false => simp [eq_comm]

/-- While unparsers are derived, noting findings is recording the productions among them, unless
something dropped is an error. -/
theorem forM_note_eq_ok {name : String} {fs : List Finding} (enabled : s.enabled = true) :
    forM fs (note g name) s = .ok () s' ↔
      (s.settings.rejectsLoss = true → ∀ pick, Finding.drops pick ∉ fs) ∧
        recordAll g (fs.filterMap Finding.production?) s = .ok () s' := by
  induction fs generalizing s with
  | nil => simp [recordAll]
  | cons f fs ih =>
    cases f with
    | builds node producer =>
      have productions : (Finding.builds node producer :: fs).filterMap Finding.production? =
          (node, producer) :: fs.filterMap Finding.production? := rfl
      rw [productions]
      constructor
      · intro run
        obtain ⟨⟨⟩, middle, first, rest⟩ := estate_bind_eq_ok.mp run
        obtain ⟨enabled', settings⟩ := record_keeps enabled first
        obtain ⟨kept, recorded⟩ := (ih enabled').mp rest
        refine ⟨fun rejects pick => ?_, estate_bind_eq_ok.mpr ⟨(), _, first, recorded⟩⟩
        simpa using kept (settings ▸ rejects) pick
      · rintro ⟨kept, run⟩
        obtain ⟨⟨⟩, middle, first, rest⟩ := estate_bind_eq_ok.mp run
        obtain ⟨enabled', settings⟩ := record_keeps enabled first
        refine estate_bind_eq_ok.mpr
          ⟨(), _, first, (ih enabled').mpr ⟨fun rejects pick => ?_, rest⟩⟩
        simpa using kept (settings ▸ rejects) pick
    | drops pick =>
      have productions : (Finding.drops pick :: fs).filterMap Finding.production? =
          fs.filterMap Finding.production? := rfl
      rw [productions]
      constructor
      · intro run
        obtain ⟨⟨⟩, middle, first, rest⟩ := estate_bind_eq_ok.mp run
        obtain ⟨tolerates, rfl⟩ := (note_drops_eq_ok enabled).mp first
        exact ⟨by simp [tolerates], ((ih enabled).mp rest).2⟩
      · rintro ⟨kept, run⟩
        have tolerates : s.settings.rejectsLoss = false := by
          by_contra rejects
          exact kept (by simpa using rejects) pick List.mem_cons_self
        refine estate_bind_eq_ok.mpr ⟨(), s, (note_drops_eq_ok enabled).mpr ⟨tolerates, rfl⟩, ?_⟩
        exact (ih enabled).mpr ⟨by simp [tolerates], run⟩

variable {q q' : Progress} {rule : RuleId}

/-- The ways in which recording a rule ends well: it is passed over, or its findings are noted, and
unparsers are given up if it loses something. -/
theorem compute_cases (run : compute g rule q = .ok () q') :
    (g.rule? rule).any (·.dontSkip) = true ∧ q' = q ∨
      (g.rule? rule).any (·.dontSkip) = false ∧ ∃ root s', g.root? rule = some root ∧
        forM root.survey (note g (g.ruleName rule)) q.session = .ok () s' ∧
        (g.createsNode root = true ∧ q' = { q with session := s' } ∨
          g.createsNode root = false ∧
            ∃ reason, q' = ({ q with session := s' } : Progress).giveUp reason) := by
  simp only [compute] at run
  split at run
  next passed =>
    cases run
    exact .inl ⟨passed, rfl⟩
  next recorded =>
  rw [Bool.not_eq_true] at recorded
  refine .inr ⟨recorded, ?_⟩
  split at run
  · cases run
  next root hroot =>
  rw [Parser.visit_eq_forM_surveyUnder] at run
  split at run
  · cases run
  next noted =>
  split at run
  next creates =>
    cases run
    exact ⟨root, _, hroot, noted, .inl ⟨creates, rfl⟩⟩
  next loses =>
    cases run
    exact ⟨root, _, hroot, noted, .inr ⟨by simpa using loses, _, rfl⟩⟩

/-- Recording a rule whose findings are noted without a problem. -/
theorem compute_of_noted {root : Parser} (user : (g.rule? rule).any (·.dontSkip) = false)
    (rooted : g.root? rule = some root)
    (noted : forM root.survey (note g (g.ruleName rule)) q.session = .ok () s') :
    compute g rule q = .ok () (if g.createsNode root then { q with session := s' } else
      ({ q with session := s' } : Progress).giveUp
        s!"'{g.ruleName rule}' toplevel rule loses information.") := by
  have visited : root.visit (note g (g.ruleName rule)) true q.session = .ok () s' := by
    rw [Parser.visit_eq_forM_surveyUnder]
    exact noted
  simp only [compute, user, rooted, EStateM.run, visited, Bool.false_eq_true, if_false]
  split <;> rfl

/-- Recording a rule keeps what is known of combined unparsers, also where it fails. -/
theorem continues_compute (g : Grammar) (rule : RuleId) (q : Progress) :
    Continues q.session (stateAfter (compute g rule) q).session := by
  unfold stateAfter compute
  by_cases passed : (g.rule? rule).any (·.dontSkip) = true
  · rw [if_pos passed]
    exact .refl _
  rw [if_neg passed]
  cases g.root? rule with
  | none => exact .refl _
  | some root =>
    have frame := (notes_forM_note g (g.ruleName rule) root.survey q.session).continues
    dsimp only [EStateM.run]
    rw [Parser.visit_eq_forM_surveyUnder]
    change Continues q.session (stateAfter (forM (root.surveyUnder true) _) q.session) at frame
    cases noted : forM (root.surveyUnder true) (note g (g.ruleName rule)) q.session with
    | error problem s' =>
      rw [stateAfter_of_error noted] at frame
      exact frame
    | ok _ s' =>
      rw [stateAfter_of_ok noted] at frame
      cases g.createsNode root with
      | true => exact frame
      | false => exact ⟨frame.settings, frame.final, frame.runTable, nofun⟩

theorem continues_of_compute (run : compute g rule q = .ok () q') :
    Continues q.session q'.session :=
  stateAfter_of_ok run ▸ continues_compute g rule q

/-- **Recording a rule while unparsers are derived, and going on to derive them**: the rule is
sound, and its productions are recorded. -/
theorem compute_eq_ok :
    (compute g rule q = .ok () q' ∧ q'.session.enabled = true) ↔
      q.session.enabled = true ∧ g.Sound q.session.settings rule ∧
        ∃ s', recordAll g (g.productions rule) q.session = .ok () s' ∧
          q' = { q with session := s' } := by
  constructor
  · rintro ⟨run, enabled'⟩
    have enabled := (continues_of_compute run).enabled enabled'
    refine ⟨enabled, ?_⟩
    obtain ⟨passed, rfl⟩ | ⟨recorded, root, s', hroot, noted, creation⟩ := compute_cases run
    · refine ⟨.inl passed, q'.session, ?_, rfl⟩
      rw [Grammar.productions, if_pos passed]
      rfl
    · obtain ⟨creates, rfl⟩ | ⟨-, reason, rfl⟩ := creation
      · obtain ⟨kept, run⟩ := (forM_note_eq_ok enabled).mp noted
        exact ⟨.inr ⟨root, hroot, creates, kept⟩, s',
          by simpa [Grammar.productions, recorded, hroot] using run, rfl⟩
      · cases enabled'
  · rintro ⟨enabled, sound, s', run, rfl⟩
    by_cases passed : (g.rule? rule).any (·.dontSkip) = true
    · rw [Grammar.productions, if_pos passed] at run
      cases run
      exact ⟨by simp [compute, passed], enabled⟩
    · obtain ⟨root, hroot, creates, kept⟩ := sound.resolve_left passed
      rw [Grammar.productions, if_neg passed, hroot] at run
      have noted : forM (root.surveyUnder true) (note g (g.ruleName rule)) q.session = .ok () s' :=
        (forM_note_eq_ok enabled).mpr ⟨kept, run⟩
      refine ⟨?_, (recordAll_keeps enabled run).1⟩
      simp only [compute, passed, hroot, Parser.visit_eq_forM_surveyUnder, EStateM.run, noted,
        creates, Bool.false_eq_true, if_false, if_true]

/-- **Recording rules while unparsers are derived, and going on to derive them**: all rules are
sound, and the productions of all are recorded. -/
theorem forM_compute_eq_ok {rules : List RuleId} :
    (forM rules (compute g) q = .ok () q' ∧ q'.session.enabled = true) ↔
      q.session.enabled = true ∧ (∀ rule ∈ rules, g.Sound q.session.settings rule) ∧
        ∃ s', recordAll g (rules.flatMap g.productions) q.session = .ok () s' ∧
          q' = { q with session := s' } := by
  induction rules generalizing q with
  | nil =>
    constructor
    · rintro ⟨run, enabled⟩
      cases run
      exact ⟨enabled, nofun, q'.session, rfl, rfl⟩
    · rintro ⟨enabled, -, s', run, rfl⟩
      cases run
      exact ⟨rfl, enabled⟩
  | cons rule rules ih =>
    rw [List.forall_mem_cons, List.flatMap_cons]
    constructor
    · rintro ⟨run, enabled''⟩
      obtain ⟨⟨⟩, middle, first, rest⟩ := estate_bind_eq_ok.mp run
      obtain ⟨enabled', sounds, s'', others, rfl⟩ := ih.mp ⟨rest, enabled''⟩
      obtain ⟨enabled, sound, s', one, rfl⟩ := compute_eq_ok.mp ⟨first, enabled'⟩
      refine ⟨enabled, ⟨sound, fun r hr => (recordAll_keeps enabled one).2 ▸ sounds r hr⟩,
        s'', ?_, rfl⟩
      exact recordAll_append_eq_ok.mpr ⟨s', one, others⟩
    · rintro ⟨enabled, ⟨sound, sounds⟩, s'', run, rfl⟩
      obtain ⟨s', one, others⟩ := recordAll_append_eq_ok.mp run
      obtain ⟨enabled', settings⟩ := recordAll_keeps enabled one
      obtain ⟨first, -⟩ := compute_eq_ok.mpr ⟨enabled, sound, s', one, rfl⟩
      obtain ⟨rest, enabled''⟩ := (ih (q := { q with session := s' })).mpr
        ⟨enabled', fun r hr => settings ▸ sounds r hr, s'', others, rfl⟩
      exact ⟨estate_bind_eq_ok.mpr ⟨(), _, first, rest⟩, enabled''⟩

theorem continues_of_forM_compute {rules : List RuleId}
    (run : forM rules (compute g) q = .ok () q') : Continues q.session q'.session := by
  induction rules generalizing q with
  | nil =>
    cases run
    exact .refl _
  | cons rule rules ih =>
    obtain ⟨⟨⟩, middle, first, rest⟩ := estate_bind_eq_ok.mp run
    exact (continues_of_compute first).trans (ih rest)

end Session

end Unparsing
