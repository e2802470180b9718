import Unparsing.Proofs.Build
import Unparsing.Proofs.Session.Calls
import Unparsing.Proofs.Session.Producers

/-!
# Proofs/Session/Declared — the producers of a session are declared

Producers are known by their numbers, and a number that was recorded may be asked for later.  In a
session over a well-formed grammar all these numbers are declared, whatever is called, and also
where a call fails (`Session.Declared.calls`).
-/

namespace Unparsing

namespace Session

variable {g : Grammar} {s s' : Session} {q : Progress} {name : String} {p : Parser}
variable {rules : List RuleId}

/-- The producers that have been noted carry numbers that are declared. -/
def Declared (g : Grammar) (s : Session) : Prop :=
  ∀ node, ∀ p ∈ s.producers node, ∃ q ∈ g.parsers, q.id = p.id

/-- The current producers of a node type are declared, with the numbers that have been noted. -/
theorem Declared.currentProducers (declared : s.Declared g) (wf : g.WellFormed) (node : NodeId) :
    (∀ p ∈ s.currentProducers g node, p ∈ g.parsers) ∧
      (s.currentProducers g node).map Parser.id = (s.producers node).map Parser.id := by
  have current (p : Parser) (hp : p ∈ s.producers node) :
      g.current p ∈ g.parsers ∧ (g.current p).id = p.id := by
    obtain ⟨q, hq, same⟩ := declared node p hp
    have found : g.current p = q := by
      rw [Grammar.current, ← same, wf.numbered q hq]
      rfl
    exact ⟨found ▸ hq, found ▸ same⟩
  constructor
  · intro p hp
    obtain ⟨q, hq, rfl⟩ := List.mem_map.mp hp
    exact (current q hq).1
  · rw [Session.currentProducers, List.map_map]
    exact List.map_congr_left fun p hp => (current p hp).2

/-- Recording rules keeps the producers declared. -/
theorem Declared.of_forM_compute (declared : q.session.Declared g) (wf : g.WellFormed)
    {q' : Progress} (run : forM rules (compute g) q = .ok () q') : q'.session.Declared g := by
  intro node p hp
  obtain ⟨produced, -⟩ := produced_of_forM_compute run
  rw [mem_producers, produced, List.mem_append, List.mem_flatMap] at hp
  obtain old | ⟨rule, -, new⟩ := hp
  · exact declared node p (mem_producers.mpr old)
  · exact ⟨p, (of_mem_productions wf new).1, rfl⟩

theorem Declared.of_produced (h : s.Declared g) (same : s'.produced = s.produced) :
    s'.Declared g := by
  intro node p hp
  rw [mem_producers, same, ← mem_producers] at hp
  exact h node p hp

theorem declared_fresh (g : Grammar) (settings : Settings) :
    Declared g { settings } := fun _ _ hp => (List.not_mem_nil hp).elim

/-! ## Calls -/

theorem Declared.record (h : s.Declared g) (hp : p ∈ g.parsers) (node : NodeId) :
    (stateAfter (record g node p) s).Declared g := by
  have noted : (stateAfter (Session.record g node p) s).produced = s.produced.push (node, p) := by
    simp only [stateAfter, Session.record]
    generalize Derivation.attempt s.enabled (g.deriveNode node p) s.tokens = attempted
    obtain ⟨derivation, tokens⟩ := attempted
    cases derivation.result with
    | ok unparser => cases unparser <;> rfl
    | error problem => rfl
  intro n p' hp'
  rw [mem_producers, noted, Array.toList_push, List.mem_append, List.mem_singleton] at hp'
  obtain old | new := hp'
  · exact h n p' (mem_producers.mpr old)
  · cases new
    exact ⟨p, hp, rfl⟩

/-- Findings whose producers are declared are noted as such, also where that fails. -/
theorem Declared.forM_note (h : s.Declared g) {fs : List Finding}
    (found : ∀ n p, .builds n p ∈ fs → p ∈ g.parsers) :
    (stateAfter (forM fs (note g name)) s).Declared g := by
  induction fs generalizing s with
  | nil => exact h
  | cons f fs ih =>
    have first : (stateAfter (note g name f) s).Declared g := by
      cases f with
      | builds node p => exact h.record (found node p List.mem_cons_self) node
      | drops pick =>
        refine h.of_produced ?_
        rw [stateAfter, note_drops]
        cases s.enabled && s.settings.rejectsLoss <;> rfl
    change (stateAfter (note g name f >>= fun _ => forM fs (note g name)) s).Declared g
    rw [stateAfter_bind]
    cases run : note g name f s with
    | error problem s' => exact stateAfter_of_error run ▸ first
    | ok _ s' =>
      rw [stateAfter_of_ok run] at first
      exact ih first fun n p hp => found n p (List.mem_cons_of_mem f hp)

/-- A call for a rule notes what is found in its root, also where it fails. -/
theorem produced_call_compute (g : Grammar) (rule : RuleId) (q : Progress) :
    (stateAfter (compute g rule) q).session.produced = q.session.produced ∨
      ∃ root, g.root? rule = some root ∧
        (stateAfter (compute g rule) q).session.produced =
          (stateAfter (forM root.survey (note g (g.ruleName rule))) q.session).produced := by
  by_cases passed : (g.rule? rule).any (·.dontSkip) = true
  · left
    simp only [stateAfter, Session.compute, passed, if_true]
  rw [Bool.not_eq_true] at passed
  cases rooted : g.root? rule with
  | none =>
    left
    simp only [stateAfter, Session.compute, passed, rooted, Bool.false_eq_true, if_false]
  | some root =>
    right
    refine ⟨root, rfl, ?_⟩
    simp only [stateAfter, Session.compute, passed, rooted, Bool.false_eq_true, if_false,
      Parser.visit_eq_forM_surveyUnder, EStateM.run, Parser.survey]
    cases forM (root.surveyUnder true) (note g (g.ruleName rule)) q.session with
    | error problem s' => rfl
    | ok _ s' => cases g.createsNode root <;> rfl

theorem Declared.compute (h : q.session.Declared g) (wf : g.WellFormed) (rule : RuleId) :
    (stateAfter (compute g rule) q).session.Declared g := by
  obtain same | ⟨root, rooted, same⟩ := produced_call_compute g rule q
  · exact h.of_produced same
  · refine Declared.of_produced (h.forM_note fun n p hp => ?_) same
    exact (wf.of_mem_surveyUnder (wf.mem_of_root? rooted) hp).1

theorem produced_call_finalize (g : Grammar) (s : Session) :
    (stateAfter (finalize g) s).produced = s.produced := by
  have one (node : NodeId) (s : Session) :
      (stateAfter (finalizeNode g node) s).produced = s.produced := by
    cases run : finalizeNode g node s with
    | error problem s' => rw [stateAfter_of_error run, (finalizeNode_error run).1, dropOccurrences]
    | ok _ s' =>
      rw [stateAfter_of_ok run]
      obtain ⟨-, rfl⟩ | ⟨-, u, -, rfl⟩ := finalizeNode_eq_ok.mp run <;> rfl
  by_cases enabled : s.enabled = true
  · rw [stateAfter, finalize_of_enabled enabled, ← stateAfter]
    refine stateAfter_forM (R := fun s s' => s'.produced = s.produced) (fun _ => rfl) ?_ one
      g.nodes.ids s
    intro s s' s'' first second
    exact second.trans first
  · rw [stateAfter_of_ok (finalize_of_disabled (by simpa using enabled))]

/-- **Whatever is called**, the producers of a session are declared. -/
theorem Declared.calls (h : s.Declared g) (wf : g.WellFormed) (cs : List Call) :
    (calls g s cs).Declared g := by
  induction cs generalizing s with
  | nil => exact h
  | cons c cs ih =>
    refine ih ?_
    cases c with
    | compute rule queue => exact Declared.compute (q := ⟨s, queue⟩) h wf rule
    | check queue => exact h.of_produced (produced_check g ⟨s, queue⟩)
    | finalize => exact h.of_produced (produced_call_finalize g s)

end Session

end Unparsing
