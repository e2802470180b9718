import Unparsing.Proofs.Session.Recording
import Unparsing.Build

/-!
# Proofs/Session/Consistency — the check passes if all node types agree

The check gives unparsers up at the first node type whose producers do not agree, so they are still
derived after it exactly if they all do (`Session.enabled_check`).  Then the canonical producer of
each node type is noted (`Session.canonical?_check`), and nothing else has changed.
-/

namespace Unparsing

namespace Session

variable {g : Grammar} {s : Session} {q : Progress} {nodes : List NodeId} {n : NodeId}

/-- The comparison goes through if all node types agree. -/
theorem checkAgreement_eq_none :
    (checkAgreement g s nodes).2 = none ↔
      ∀ n ∈ nodes, g.agree (s.currentProducers g n) = true := by
  induction nodes generalizing s with
  | nil => simp [checkAgreement]
  | cons node nodes ih =>
    rw [checkAgreement, List.forall_mem_cons]
    split
    next agree =>
      split
      · simp [ih, agree]
      · rw [ih]
        exact ⟨fun rest => ⟨agree, rest⟩, And.right⟩
    next disagree => simp [disagree]

/-- The comparison changes nothing but the canonical producers. -/
theorem checkAgreement_frame (g : Grammar) (s : Session) (nodes : List NodeId) :
    (checkAgreement g s nodes).1 =
      { s with canonical := (checkAgreement g s nodes).1.canonical } := by
  induction nodes generalizing s with
  | nil => rfl
  | cons node nodes ih =>
    rw [checkAgreement]
    split
    · split
      · exact ih s
      · rw [ih]
    · rfl

theorem canonical?_cons (node : NodeId) (p : Parser) (n : NodeId) :
    ({ s with canonical := (node, p) :: s.canonical } : Session).canonical? n =
      if n = node then some p else s.canonical? n := by
  rw [canonical?, List.lookup_cons]
  split <;> simp_all [canonical?]

/-- A comparison that goes through notes the canonical producers of the node types compared. -/
theorem canonical?_checkAgreement (h : (checkAgreement g s nodes).2 = none) :
    (checkAgreement g s nodes).1.canonical? n =
      if n ∈ nodes then (Grammar.canonical? (s.currentProducers g n)).or (s.canonical? n)
      else s.canonical? n := by
  induction nodes generalizing s with
  | nil => rfl
  | cons node nodes ih =>
    rw [checkAgreement] at h ⊢
    split at h
    next agree =>
      rw [if_pos agree]
      split at h
      next absent =>
        rw [ih h]
        by_cases same : n = node
        · subst same
          simp [absent]
        · simp [same]
      next p chosen =>
        have producers : currentProducers { s with canonical := (node, p) :: s.canonical } g n =
            s.currentProducers g n := rfl
        rw [ih h, canonical?_cons, producers]
        by_cases same : n = node
        · subst same
          simp [chosen]
        · simp [same]
    next disagree => simp at h

/-- The check keeps what the comparison reached, and gives unparsers up if it stopped. -/
theorem session_check (g : Grammar) (q : Progress) :
    (check g q).session =
      if q.session.enabled then
        { (q.session.checkAgreement g g.nodes.ids).1 with
          enabled := (q.session.checkAgreement g g.nodes.ids).2.isNone }
      else q.session := by
  unfold check
  split
  next enabled =>
    have frame := checkAgreement_frame g q.session g.nodes.ids
    have still : (q.session.checkAgreement g g.nodes.ids).1.enabled = true := by
      rw [frame, enabled]
    generalize q.session.checkAgreement g g.nodes.ids = reached at still ⊢
    obtain ⟨session, stopped⟩ := reached
    cases stopped with
    | none =>
      cases session
      cases still
      rfl
    | some node => rfl
  next disabled => rfl

/-- **Unparsers are still derived after the check** if they were before, and the producers of every
node type agree. -/
theorem enabled_check :
    (check g q).session.enabled = true ↔ q.session.enabled = true ∧
      ∀ n ∈ g.nodes.ids, g.agree (q.session.currentProducers g n) = true := by
  rw [← checkAgreement_eq_none, session_check]
  split
  next enabled => simp [enabled]
  next disabled => simp [disabled]

/-- **The check notes the canonical producers**, and changes nothing else. -/
theorem check_session (enabled : (check g q).session.enabled = true) :
    (check g q).session = { q.session with canonical := (check g q).session.canonical } ∧
      ∀ n, (check g q).session.canonical? n =
        if n ∈ g.nodes.ids then
          (Grammar.canonical? (q.session.currentProducers g n)).or (q.session.canonical? n)
        else q.session.canonical? n := by
  obtain ⟨before, agree⟩ := enabled_check.mp enabled
  have through := checkAgreement_eq_none.mpr agree
  have frame := checkAgreement_frame g q.session g.nodes.ids
  have reached : (check g q).session = (q.session.checkAgreement g g.nodes.ids).1 := by
    rw [session_check, if_pos before, through, frame, before]
    rfl
  rw [reached]
  exact ⟨frame, fun n => canonical?_checkAgreement through⟩

theorem continues_check : Continues q.session (check g q).session := by
  rw [session_check]
  split
  next enabled =>
    rw [checkAgreement_frame]
    exact ⟨rfl, rfl, rfl, fun _ => enabled⟩
  next => exact .refl _

end Session

end Unparsing
