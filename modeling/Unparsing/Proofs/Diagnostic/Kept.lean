import Mathlib.Data.List.Nodup
import Unparsing.Proofs.Diagnostic.Calls

/-!
# Proofs/Diagnostic/Kept — what a queue keeps of what is offered to it

Which diagnostics a queue is to keep can be said without it: each one offered since the last
`flush`, in that order, unless those kept before it rule it out (`QueueLimits.Admits`).  The queue
decides by its counter and by what it holds, and answers whether it keeps the diagnostic.  Its
answers are those that the rule gives, whatever was called before
(`DiagnosticQueue.kept_of_calls`).

The invariant is carried by the queue together with the offers made to it and the answers that they
got (`DiagnosticQueue.Ledger`).
-/

namespace Unparsing

/-- **Whether a diagnostic is to be kept** behind others.  It is not if it is an error and they hold
as many errors as the limit allows, or if repetitions are left out and it is one of them. -/
def QueueLimits.Admits (limits : QueueLimits) (kept : List Diagnostic) (d : Diagnostic) : Prop :=
  ¬(d.isError = true ∧ limits.errorLimit ≠ 0 ∧ limits.errorLimit ≤ kept.countP (·.isError)) ∧
    ¬(limits.deduplicate = true ∧ d ∈ kept)

namespace DiagnosticQueue

variable {limits : QueueLimits} {q : DiagnosticQueue} {d : Diagnostic}

/-- The counter and the diagnostics of a queue tell whether one more is to be kept. -/
theorem Counted.accepts_iff (h : q.Counted) :
    q.accepts d = true ↔ q.limits.Admits q.diagnostics.toList d := by
  simp only [accepts, isFull, h.errors, QueueLimits.Admits, Bool.and_eq_true, Bool.not_eq_true',
    ← Bool.not_eq_true, bne_iff_ne, decide_eq_true_eq, Array.contains_eq_mem, Array.mem_toList_iff]

/-! ## Offers -/

/-- A diagnostic offered to a queue. -/
structure Offer where
  diagnostic : Diagnostic
  /-- The answer: whether the queue keeps it. -/
  kept : Bool
  deriving DecidableEq

/-- The diagnostics kept of those offered, in order. -/
def kept (os : List Offer) : List Diagnostic := (os.filter (·.kept)).map (·.diagnostic)

/-- Offers that were answered by the rule: each one for itself, in view of those kept before it. -/
inductive Judged (limits : QueueLimits) : List Offer → Prop
  | nil : Judged limits []
  | snoc {os : List Offer} {o : Offer} : Judged limits os →
      (o.kept = true ↔ limits.Admits (kept os) o.diagnostic) → Judged limits (os ++ [o])

/-- The diagnostic that a call offers.  A warning is offered only if its condition holds and its
category is enabled. -/
def Call.offer? : Call → Option Diagnostic
  | .add d | .emitError d => some d
  | .warnIf enabled category cond d => if cond && enabled.contains category then some d else none
  | .flush => none

/-- The answer to a call: whether it offers a diagnostic that the queue keeps.  `emitError` does not
pass on the answer that its offer gets. -/
def Call.answer (q : DiagnosticQueue) : Call → Bool
  | .add d | .emitError d => (q.add d).1
  | .warnIf enabled category cond d => (q.warnIf enabled category cond d).1
  | .flush => false

/-- A call that offers nothing is not answered with `true`. -/
theorem Call.answer_of_offer?_eq_none (q : DiagnosticQueue) {c : Call} (idle : c.offer? = none) :
    c.answer q = false := by
  cases c with
  | add | emitError => cases idle
  | warnIf enabled category cond d =>
    have unmade : offers enabled category cond = false := by simpa [offer?, offers] using idle
    rw [answer, DiagnosticQueue.warnIf, unmade]
    rfl
  | flush => rfl

/-- A record of what was offered since the last `flush`, after one more call. -/
def Call.log {α : Type} (entry : Diagnostic → α) (past : List α) : Call → List α
  | .flush => []
  | c => past ++ c.offer?.toList.map entry

/-- The diagnostics that calls offer from the last `flush` on. -/
def offered (cs : List Call) : List Diagnostic := cs.foldl (Call.log id) []

/-- A queue, and the offers made to it since the last `flush`, with their answers. -/
structure Ledger where
  queue : DiagnosticQueue
  past : List Offer

namespace Ledger

/-- The queue after a call, and the answer to the call if it made an offer. -/
def call (l : Ledger) (c : Call) : Ledger where
  queue := l.queue.call c
  past := c.log (fun d => ⟨d, c.answer l.queue⟩) l.past

/-- The queue after calls, one after the other. -/
def calls (l : Ledger) (cs : List Call) : Ledger := cs.foldl call l

/-- A queue to which nothing was offered. -/
def blank (limits : QueueLimits) : Ledger := ⟨{ limits }, []⟩

/-- The queue of a ledger goes through the calls. -/
theorem queue_calls (l : Ledger) (cs : List Call) : (l.calls cs).queue = l.queue.calls cs := by
  induction cs generalizing l with
  | nil => rfl
  | cons c cs ih => exact ih (l.call c)

/-- Changing a record's entries afterwards is recording other entries. -/
theorem map_log {α β : Type} (f : α → β) (entry : Diagnostic → α) (past : List α) (c : Call) :
    (c.log entry past).map f = c.log (f ∘ entry) (past.map f) := by
  cases c <;> simp [Call.log]

/-- What calls offer does not depend on the queue. -/
theorem map_diagnostic_past (l : Ledger) (cs : List Call) :
    (l.calls cs).past.map (·.diagnostic) =
      cs.foldl (Call.log id) (l.past.map (·.diagnostic)) := by
  induction cs generalizing l with
  | nil => rfl
  | cons c cs ih =>
    refine (ih (l.call c)).trans ?_
    rw [call, map_log]
    rfl

/-- **A call empties the queue, offers it a diagnostic, or does nothing.** -/
theorem call_cases (l : Ledger) (c : Call) :
    l.call c = blank l.queue.limits ∨
      (∃ d, l.call c = ⟨(l.queue.add d).2, l.past ++ [⟨d, (l.queue.add d).1⟩]⟩) ∨
      l.call c = l := by
  cases c with
  | add d | emitError d => exact .inr (.inl ⟨d, rfl⟩)
  | warnIf enabled category cond d =>
    right
    cases made : cond && enabled.contains category with
    | true =>
      simp only [call, DiagnosticQueue.call, Call.answer, warnIf, Call.log, Call.offer?, offers,
        made]
      exact .inl ⟨d, rfl⟩
    | false =>
      simp only [call, DiagnosticQueue.call, warnIf, Call.log, Call.offer?, offers, made]
      exact .inr (by simp)
  | flush => exact .inl rfl

/-! ## The invariant -/

/-- A queue in step with the offers made to it. -/
structure Sound (limits : QueueLimits) (l : Ledger) : Prop where
  within : l.queue.limits = limits
  counted : l.queue.Counted
  capped : limits.errorLimit ≠ 0 → l.queue.errorCount ≤ limits.errorLimit
  distinct : limits.deduplicate = true → l.queue.diagnostics.toList.Nodup
  holds : l.queue.diagnostics.toList = kept l.past
  judged : Judged limits l.past

/-- An empty queue is in step. -/
theorem sound_blank (limits : QueueLimits) : (blank limits).Sound limits where
  within := rfl
  counted := counted_empty limits
  capped _ := Nat.zero_le _
  distinct _ := List.nodup_nil
  holds := rfl
  judged := .nil

variable {l : Ledger}

/-- A queue in step keeps what the rule lets it keep. -/
theorem Sound.accepts_iff (h : l.Sound limits) :
    l.queue.accepts d = true ↔ limits.Admits l.queue.diagnostics.toList d := by
  rw [h.counted.accepts_iff, h.within]

/-- An offer does not change the limits. -/
theorem limits_add (q : DiagnosticQueue) (d : Diagnostic) : (q.add d).2.limits = q.limits := by
  rw [snd_add]
  split <;> rfl

/-- An offer adds its diagnostic to those kept, if the answer was that it is. -/
theorem kept_append (os : List Offer) (d : Diagnostic) (answer : Bool) :
    kept (os ++ [⟨d, answer⟩]) = kept os ++ if answer then [d] else [] := by
  cases answer <;> simp [kept]

/-- An error that is kept finds the limit not reached. -/
theorem Sound.capped_add (h : l.Sound limits) (some : limits.errorLimit ≠ 0) :
    (l.queue.add d).2.errorCount ≤ limits.errorLimit := by
  have below := h.capped some
  cases accepted : l.queue.accepts d with
  | false => rwa [add_of_not_accepts accepted]
  | true =>
    have room := (h.accepts_iff.mp accepted).1
    rw [← h.counted.errors] at room
    rw [add_of_accepts accepted, push]
    dsimp only
    split
    next error => exact Nat.lt_of_not_le fun reached => room ⟨error, some, reached⟩
    next => exact below

/-- A diagnostic that is kept is not there yet, if repetitions are left out. -/
theorem Sound.distinct_add (h : l.Sound limits) (once : limits.deduplicate = true) :
    (l.queue.add d).2.diagnostics.toList.Nodup := by
  rw [toList_add]
  split
  next accepted =>
    have new : d ∉ l.queue.diagnostics.toList :=
      fun old => (h.accepts_iff.mp accepted).2 ⟨once, old⟩
    exact List.concat_eq_append ▸ (h.distinct once).concat new
  next =>
    rw [List.append_nil]
    exact h.distinct once

/-- **An offer leaves the queue in step** with the offers made to it, and the rule answers it. -/
theorem Sound.add (h : l.Sound limits) (d : Diagnostic) :
    Sound limits ⟨(l.queue.add d).2, l.past ++ [⟨d, (l.queue.add d).1⟩]⟩ where
  within := (limits_add _ d).trans h.within
  counted := h.counted.add d
  capped := h.capped_add
  distinct := h.distinct_add
  holds := by rw [toList_add, kept_append, fst_add, h.holds]
  judged := h.judged.snoc (by rw [fst_add, h.accepts_iff, h.holds])

/-- **Every call leaves the queue in step** with the offers made to it. -/
theorem Sound.call (h : l.Sound limits) (c : Call) : (l.call c).Sound limits := by
  obtain emptied | ⟨d, offered⟩ | same := l.call_cases c
  · rw [emptied, h.within]
    exact sound_blank limits
  · rw [offered]
    exact h.add d
  · rwa [same]

/-- **Calls leave the queue in step** with the offers made to it. -/
theorem Sound.calls (h : l.Sound limits) (cs : List Call) : (l.calls cs).Sound limits := by
  induction cs generalizing l with
  | nil => exact h
  | cons c cs ih => exact ih (h.call c)

end Ledger

/-- **What a queue keeps**, after calls in any order.  Its counters count its errors and warnings;
errors do not exceed a limit, and nothing is repeated if repetitions are left out.  It holds, in
order, the diagnostics offered since the last `flush` whose offers were answered with `true`, and
each answer is that of the rule, in view of those kept before; a call that offers nothing is not
answered with `true`. -/
theorem kept_of_calls (limits : QueueLimits) (cs : List Call) :
    let q := calls { limits } cs
    let past := ((Ledger.blank limits).calls cs).past
    q.errorCount = q.diagnostics.toList.countP (·.isError) ∧
    q.warningCount = q.diagnostics.toList.countP (·.isWarning) ∧
    (limits.errorLimit ≠ 0 → q.errorCount ≤ limits.errorLimit) ∧
    (limits.deduplicate = true → q.diagnostics.toList.Nodup) ∧
    past.map (·.diagnostic) = offered cs ∧ q.diagnostics.toList = kept past ∧
    Judged limits past ∧ ∀ c : Call, c.offer? = none → c.answer q = false := by
  obtain ⟨-, counted, capped, distinct, holds, judged⟩ := (Ledger.sound_blank limits).calls cs
  have queue : ((Ledger.blank limits).calls cs).queue = calls { limits } cs :=
    Ledger.queue_calls (Ledger.blank limits) cs
  rw [queue] at counted capped distinct holds
  exact ⟨counted.errors, counted.warnings, capped, distinct,
    Ledger.map_diagnostic_past (Ledger.blank limits) cs, holds, judged,
    fun _ => Call.answer_of_offer?_eq_none _⟩

end DiagnosticQueue

/-! ## A limit of one

Two errors and, twice, a warning are offered to a queue that keeps one error and repeats nothing.
One of the errors was there before, and flushed. -/

namespace OneError

open DiagnosticQueue

/-- One error is kept, and nothing twice. -/
def limits : QueueLimits := ⟨1, true⟩

/-- An error. -/
def first : Diagnostic := { code := .unsupportedParser, severity := .error, message := "first" }
/-- An error with another message. -/
def second : Diagnostic := { code := .unsupportedParser, severity := .error, message := "second" }
/-- A warning. -/
def unused : Diagnostic := { code := .unusedNodeType, severity := .warning }

/-- An error is offered and flushed; then two errors and, twice, a warning are offered. -/
def history : List Call :=
  [.add second, .flush, .emitError first, .warnIf .all .all false second, .add unused, .add second,
    .warnIf .all .all true unused]

/-- The error that came first and one warning are kept, and the queue said so. -/
theorem kept_of_calls_history :
    ((Ledger.blank limits).calls history).past =
      [⟨first, true⟩, ⟨unused, true⟩, ⟨second, false⟩, ⟨unused, false⟩] ∧
    (calls { limits } history).diagnostics.toList = [first, unused] ∧
    (calls { limits } history).errorCount ≤ 1 ∧
    (calls { limits } history).diagnostics.toList.Nodup ∧
    offered history = [first, unused, second, unused] := by
  obtain ⟨-, -, capped, distinct, made, holds, -⟩ := kept_of_calls limits history
  exact ⟨by decide +kernel, holds.trans (by decide +kernel), capped (by decide), distinct rfl,
    made.symm.trans (by decide +kernel)⟩

end OneError

end Unparsing
