import Unparsing.Diagnostic.Queue

/-!
# Proofs/Diagnostic/Calls — a queue under calls in any order

However a queue is used, its counters count what it keeps (`DiagnosticQueue.counted_calls`).  So an
error can be told from the counter alone once it has been offered: where the queue leaves it out,
another error is there already (`DiagnosticQueue.Counted.errorCount_add`).

* `DiagnosticQueue.addAll` — a queue after diagnostics were offered to it.
* `DiagnosticQueue.Warned` — a queue after nothing but warnings were.
-/

namespace Unparsing

/-- A warning is no error. -/
theorem Diagnostic.isError_of_isWarning {d : Diagnostic} (warning : d.isWarning = true) :
    d.isError = false := by
  have severity : d.severity = .warning := by simpa [isWarning] using warning
  simp [isError, severity]

namespace DiagnosticQueue

/-- A call of a queue. -/
inductive Call where
  | add (d : Diagnostic)
  | warnIf (enabled category : WarningSet) (cond : Bool) (d : Diagnostic)
  | emitError (d : Diagnostic)
  | flush

/-- The queue after a call. -/
def call (q : DiagnosticQueue) : Call → DiagnosticQueue
  | .add d => (q.add d).2
  | .warnIf enabled category cond d => (q.warnIf enabled category cond d).2
  | .emitError d => (q.emitError d).2
  | .flush => q.flush.2

/-- The queue after calls, one after the other. -/
def calls (q : DiagnosticQueue) (cs : List Call) : DiagnosticQueue := cs.foldl call q

variable {q q' q'' : DiagnosticQueue} {d : Diagnostic}

/-! ## The counters -/

/-- A queue that knows how many errors and how many warnings it keeps. -/
structure Counted (q : DiagnosticQueue) : Prop where
  errors : q.errorCount = q.diagnostics.toList.countP (·.isError)
  warnings : q.warningCount = q.diagnostics.toList.countP (·.isWarning)

/-- An empty queue knows that it is empty. -/
theorem counted_empty (limits : QueueLimits) : Counted { limits } := ⟨rfl, rfl⟩

/-- A diagnostic that is pushed is counted. -/
theorem Counted.push (h : q.Counted) (d : Diagnostic) : (q.push d).Counted where
  errors := by
    rw [toList_push, List.countP_append, List.countP_singleton, ← h.errors]
    cases error : d.isError <;> simp [DiagnosticQueue.push, error]
  warnings := by
    rw [toList_push, List.countP_append, List.countP_singleton, ← h.warnings]
    cases warning : d.isWarning <;> simp [DiagnosticQueue.push, warning]

/-- A diagnostic that is offered is counted, if it is kept. -/
theorem Counted.add (h : q.Counted) (d : Diagnostic) : (q.add d).2.Counted := by
  rw [snd_add]
  split
  · exact h.push d
  · exact h

/-- Every call leaves the counters right. -/
theorem Counted.call (h : q.Counted) (c : Call) : (q.call c).Counted := by
  cases c with
  | add d => exact h.add d
  | warnIf enabled category cond d =>
    rw [DiagnosticQueue.call, snd_warnIf]
    split
    · exact h.add d
    · exact h
  | emitError d => exact h.add d
  | flush => exact counted_empty q.limits

/-- **The counters of a queue are right**, whatever is called. -/
theorem Counted.calls (h : q.Counted) (cs : List Call) : (q.calls cs).Counted := by
  induction cs generalizing q with
  | nil => exact h
  | cons c cs ih => exact ih (h.call c)

/-- A diagnostic is added at the end, if it is accepted. -/
theorem toList_add (q : DiagnosticQueue) (d : Diagnostic) : (q.add d).2.diagnostics.toList =
    q.diagnostics.toList ++ if q.accepts d then [d] else [] := by
  rw [snd_add]
  split
  · exact toList_push q d
  · exact (List.append_nil _).symm

/-- A queue that knows of errors keeps one. -/
theorem Counted.exists_isError (h : q.Counted) (some : 0 < q.errorCount) :
    ∃ d ∈ q.diagnostics.toList, d.isError = true := by
  rwa [h.errors, List.countP_pos_iff] at some

/-- **A queue knows of errors once one was offered**, also if it was left out: because of the limit,
which is not reached without errors, or because of an equal one. -/
theorem Counted.errorCount_add (h : q.Counted) (error : d.isError = true) :
    0 < (q.add d).2.errorCount := by
  rw [snd_add]
  split
  next accepted => simp [DiagnosticQueue.push, error]
  next refused =>
    by_cases full : q.isFull = true
    · simp only [isFull, Bool.and_eq_true, bne_iff_ne, decide_eq_true_eq] at full
      omega
    · have kept : d ∈ q.diagnostics.toList := by
        simp only [accepts, full, Bool.and_false, Bool.not_false, Bool.true_and, Bool.not_eq_true',
          Bool.not_eq_false, Bool.and_eq_true, Array.contains_eq_mem, decide_eq_true_eq] at refused
        exact refused.2.val
      rw [h.errors, List.countP_pos_iff]
      exact ⟨d, kept, error⟩

/-- The answer of `hasErrors?` is the counter's. -/
theorem isSome_hasErrors? : q.hasErrors?.isSome = true ↔ 0 < q.errorCount := by
  rw [hasErrors?, ErrorsReported.ofCount?]
  split <;> simp <;> omega

/-! ## Many diagnostics at once -/

/-- The queue after diagnostics were offered to it. -/
def addAll (q : DiagnosticQueue) (ds : List Diagnostic) : DiagnosticQueue :=
  ds.foldl (fun q d => (q.add d).2) q

@[simp] theorem addAll_nil (q : DiagnosticQueue) : q.addAll [] = q := rfl

/-- Diagnostics may be offered in two portions. -/
theorem addAll_append (q : DiagnosticQueue) (ds es : List Diagnostic) :
    q.addAll (ds ++ es) = (q.addAll ds).addAll es := List.foldl_append

/-- A warning is offered, or nothing is. -/
theorem warnIf_eq_addAll (q : DiagnosticQueue) (enabled category : WarningSet) (cond : Bool)
    (d : Diagnostic) : (q.warnIf enabled category cond d).2 =
      q.addAll (if offers enabled category cond then [d] else []) := by
  rw [snd_warnIf]
  split <;> rfl

/-- A queue without limits keeps everything. -/
theorem toList_addAll_of_unlimited (unlimited : q.limits = .unlimited) (ds : List Diagnostic) :
    (q.addAll ds).diagnostics.toList = q.diagnostics.toList ++ ds := by
  induction ds generalizing q with
  | nil => exact (List.append_nil _).symm
  | cons d ds ih =>
    have accepted : q.accepts d = true := by
      simp [accepts, isFull, unlimited, QueueLimits.unlimited]
    have kept : (q.add d).2.limits = .unlimited := by
      rw [add_of_accepts accepted]
      exact unlimited
    refine (ih kept).trans ?_
    rw [add_of_accepts accepted, toList_push, List.append_assoc, List.singleton_append]

/-- A queue to which nothing but warnings were offered. -/
def Warned (q q' : DiagnosticQueue) : Prop :=
  ∃ ds, (∀ d ∈ ds, d.isWarning = true) ∧ q' = q.addAll ds

/-- Nothing was offered to a queue left as it is. -/
theorem Warned.refl (q : DiagnosticQueue) : Warned q q := ⟨[], nofun, rfl⟩

/-- What was offered before and what was offered then are warnings. -/
theorem Warned.trans (h : Warned q q') (h' : Warned q' q'') : Warned q q'' := by
  obtain ⟨ds, warnings, rfl⟩ := h
  obtain ⟨es, warnings', rfl⟩ := h'
  exact ⟨ds ++ es, fun d hd => (List.mem_append.mp hd).elim (warnings d) (warnings' d),
    (addAll_append q ds es).symm⟩

/-- Warnings are offered, or none are. -/
theorem warned_addAll_ite (q : DiagnosticQueue) (cond : Bool) {ds : List Diagnostic}
    (warnings : ∀ d ∈ ds, d.isWarning = true) :
    Warned q (q.addAll (if cond then ds else [])) := by
  cases cond with
  | true => exact ⟨ds, warnings, rfl⟩
  | false => exact .refl q

/-- **Warnings are kept behind what is there**, as far as they are kept, and count as no errors. -/
theorem Warned.kept (h : Warned q q') : q'.errorCount = q.errorCount ∧
    ∃ ws, (∀ d ∈ ws, d.isWarning = true) ∧
      q'.diagnostics.toList = q.diagnostics.toList ++ ws := by
  obtain ⟨ds, warnings, rfl⟩ := h
  induction ds generalizing q with
  | nil => exact ⟨rfl, [], nofun, (List.append_nil _).symm⟩
  | cons d ds ih =>
    rw [List.forall_mem_cons] at warnings
    obtain ⟨count, ws, hws, appended⟩ := ih (q := (q.add d).2) warnings.2
    refine ⟨count.trans ?_, (if q.accepts d then [d] else []) ++ ws, fun w hw => ?_, ?_⟩
    · rw [snd_add]
      split
      · simp [push, Diagnostic.isError_of_isWarning warnings.1]
      · rfl
    · obtain first | later := List.mem_append.mp hw
      · rw [List.mem_ite_nil_right, List.mem_singleton] at first
        exact first.2 ▸ warnings.1
      · exact hws w later
    · exact appended.trans (by rw [toList_add, List.append_assoc])

/-- Warnings leave the counters right. -/
theorem Warned.counted (h : Warned q q') (counted : q.Counted) : q'.Counted := by
  obtain ⟨ds, -, rfl⟩ := h
  have added := counted.calls (ds.map .add)
  rwa [calls, List.foldl_map] at added

end DiagnosticQueue

end Unparsing
