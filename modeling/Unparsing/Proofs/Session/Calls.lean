import Mathlib.Data.List.Induction
import Unparsing.Proofs.Session.Disabled

/-!
# Proofs/Session/Calls — a session under calls in any order

The steps of a derivation may be called one by one, in any order and any number of times, and a call
that fails leaves what it has done.  Two things are known of a session in any such course:

* Without unparsers it is `Idle`: calls take notes and drop unparsers, and do nothing else
  (`Session.idle_calls`).
* From its start on, its runs are empty as long as no combined unparser wrote any
  (`Session.runs_calls_eq_empty`).
-/

namespace Unparsing

namespace Session

/-- A call of a step of a derivation, with the queue that it reports to. -/
inductive Call where
  | compute (rule : RuleId) (queue : DiagnosticQueue)
  | check (queue : DiagnosticQueue)
  | finalize

/-- The session after a call, also where it fails. -/
def call (g : Grammar) (s : Session) : Call → Session
  | .compute rule queue => (stateAfter (compute g rule) ⟨s, queue⟩).session
  | .check queue => (check g ⟨s, queue⟩).session
  | .finalize => stateAfter (finalize g) s

/-- The session after calls, one after the other. -/
def calls (g : Grammar) (s : Session) (cs : List Call) : Session := cs.foldl (call g) s

variable {g : Grammar} {s s' s'' : Session}

theorem calls_concat (g : Grammar) (s : Session) (cs : List Call) (c : Call) :
    calls g s (cs ++ [c]) = call g (calls g s cs) c := List.foldl_append

/-! ## Calls without unparsers -/

/-- A session that goes on without unparsers: it derives none, and what is known of them stays as it
was or is dropped. -/
structure Idle (s s' : Session) : Prop where
  enabled : s'.enabled = false
  settings : s'.settings = s.settings
  tokens : s'.tokens = s.tokens
  canonical : s'.canonical = s.canonical
  runTable : s'.runTable = s.runTable
  unparsers : s'.derived = s.derived ∧ s'.final = s.final ∨ s'.derived = #[] ∧ s'.final = []

theorem Idle.refl (disabled : s.enabled = false) : Idle s s :=
  ⟨disabled, rfl, rfl, rfl, rfl, .inl ⟨rfl, rfl⟩⟩

theorem Idle.trans (h : Idle s s') (h' : Idle s' s'') : Idle s s'' where
  enabled := h'.enabled
  settings := h'.settings.trans h.settings
  tokens := h'.tokens.trans h.tokens
  canonical := h'.canonical.trans h.canonical
  runTable := h'.runTable.trans h.runTable
  unparsers := by
    obtain ⟨derived, final⟩ | dropped := h'.unparsers
    · rw [derived, final]
      exact h.unparsers
    · exact .inr dropped

/-- A call without unparsers leaves what is known of them, or drops it. -/
theorem idle_call (disabled : s.enabled = false) (c : Call) : Idle s (call g s c) := by
  cases c with
  | compute rule queue =>
    by_cases ready : g.Recordable rule
    · obtain ⟨_, run⟩ := compute_of_disabled (q := ⟨s, queue⟩) disabled ready
      rw [call, stateAfter_of_ok run]
      exact ⟨disabled, rfl, rfl, rfl, rfl, .inl ⟨rfl, rfl⟩⟩
    · obtain ⟨user, undefined⟩ := Grammar.not_recordable.mp ready
      rw [call, stateAfter_of_error (compute_of_undefined user undefined)]
      exact .refl disabled
  | check queue =>
    rw [call, check_of_disabled disabled]
    exact .refl disabled
  | finalize =>
    rw [call, stateAfter_of_ok (finalize_of_disabled disabled)]
    exact ⟨disabled, rfl, rfl, rfl, rfl, .inr ⟨rfl, rfl⟩⟩

/-- **A session without unparsers stays idle**, whatever is called. -/
theorem idle_calls (disabled : s.enabled = false) (cs : List Call) : Idle s (calls g s cs) := by
  induction cs generalizing s with
  | nil => exact .refl disabled
  | cons c cs ih =>
    have first := idle_call (g := g) disabled c
    exact first.trans (ih first.enabled)

/-! ## The runs of a session -/

/-- Only an unparser of tokens and fields has runs. -/
theorem runs_eq_nil {u : NodeUnparser} : u.runs = [] ↔ ∀ v, u ≠ .regular v := by
  cases u <;> simp [NodeUnparser.runs, RegularUnparser.runs]

/-- What a pass adds has runs if and only if some unparser of it has. -/
theorem Adds.runs_eq_empty {nodes : List NodeId} {new : NodeId → Option NodeUnparser}
    (h : Adds nodes new s s')
    (before : s.runs = #[] → ∀ n u, s.final? n ≠ some (.regular u)) :
    s'.runs = #[] ↔ s.runs = #[] ∧ ∀ n u, s'.final? n ≠ some (.regular u) := by
  rw [runs, h.runTable, RunTable.runs_addAll_eq_empty]
  refine and_congr_right fun empty => ?_
  have regular (n : NodeId) (u : RegularUnparser) :
      s'.final? n = some (.regular u) ↔ new n = some (.regular u) := by
    rw [h.final?, Option.or_eq_some_iff, or_iff_left fun old => before empty n u old.2]
  simp only [List.flatMap_eq_nil_iff, List.mem_filterMap, runs_eq_nil, ne_eq, regular]
  constructor
  · intro none n u some
    have hn : n ∈ nodes := by
      by_contra out
      cases (h.within n out).symm.trans some
    exact none _ ⟨n, hn, some⟩ u rfl
  · rintro none u ⟨n, -, some⟩ v rfl
    exact none n v some

/-- If a session without runs has no unparser that writes any, then a call leaves it without runs if
and only if it leaves it without such an unparser. -/
theorem runs_call_eq_empty (before : s.runs = #[] → ∀ n u, s.final? n ≠ some (.regular u))
    (c : Call) : (call g s c).runs = #[] ↔
      s.runs = #[] ∧ ∀ n u, (call g s c).final? n ≠ some (.regular u) := by
  cases c with
  | compute rule queue =>
    have frame := continues_compute g rule ⟨s, queue⟩
    exact (Adds.nothing [] frame.final frame.runTable).runs_eq_empty before
  | check queue =>
    have frame := continues_check (g := g) (q := ⟨s, queue⟩)
    exact (Adds.nothing [] frame.final frame.runTable).runs_eq_empty before
  | finalize =>
    rw [call]
    by_cases enabled : s.enabled = true
    · obtain ⟨new, adds⟩ := adds_forM_finalizeNode g (nodup_ids g.nodes) s
      rw [stateAfter, finalize_of_enabled enabled]
      exact adds.runs_eq_empty before
    · rw [stateAfter_of_ok (finalize_of_disabled (by simpa using enabled))]
      exact (and_iff_left fun _ _ some => by cases some).symm

/-- **A session has runs if and only if some unparser wrote them**: a combined one that the session
has, or had earlier. -/
theorem runs_calls_eq_empty (settings : Settings) (cs : List Call) :
    (calls g { settings } cs).runs = #[] ↔
      ∀ earlier, earlier <+: cs → ∀ n u, (calls g { settings } earlier).final? n ≠
        some (.regular u) := by
  induction cs using List.reverseRecOn with
  | nil =>
    refine iff_of_true rfl fun earlier start n u => ?_
    rw [List.prefix_nil.mp start]
    exact fun some => by cases some
  | append_singleton cs c ih =>
    have before := fun empty => ih.mp empty cs (List.prefix_refl cs)
    rw [calls_concat, runs_call_eq_empty before, ih, and_comm, ← calls_concat]
    simp only [List.prefix_concat_iff, or_imp, forall_and, forall_eq]

end Session

end Unparsing
