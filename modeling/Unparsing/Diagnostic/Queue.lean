import Unparsing.Diagnostic.Basic

/-!
# Diagnostic/Queue — diagnostics in the order in which they were found

A queue keeps the diagnostics offered to it, in order, except

* an error that arrives when as many errors as the limit allows are kept, and
* with `deduplicate`, a diagnostic equal to one that is kept.

The limit is looked at first.  It caps errors only, and a limit of 0 is none.
-/

namespace Unparsing

/-- Which diagnostics a queue keeps. -/
structure QueueLimits where
  /-- The number of errors kept at most, 0 for all. -/
  errorLimit : Nat := 10
  /-- Leave out a diagnostic equal to one already kept. -/
  deduplicate : Bool := true
  deriving DecidableEq, Repr, Inhabited

/-- Limits that keep every diagnostic. -/
def QueueLimits.unlimited : QueueLimits := ⟨0, false⟩

/-- The knowledge that an error was reported.  A pass that fails answers with it. -/
structure ErrorsReported where
  deriving DecidableEq, Repr

namespace ErrorsReported

/-- What an error count of an earlier session tells. -/
def ofCount? (count : Nat) : Option ErrorsReported := if count = 0 then none else some {}

/-- The knowledge in words. -/
def text (_ : ErrorsReported) : String := "error(s) emitted"

end ErrorsReported

/-- The diagnostics found so far. -/
structure DiagnosticQueue where
  limits : QueueLimits := {}
  diagnostics : Array Diagnostic := #[]
  /-- How many of them are errors. -/
  errorCount : Nat := 0
  /-- How many of them are warnings. -/
  warningCount : Nat := 0
  deriving DecidableEq, Repr

namespace DiagnosticQueue

instance : Inhabited DiagnosticQueue := ⟨{}⟩

/-- Whether an error that arrives now is over the limit. -/
def isFull (q : DiagnosticQueue) : Bool :=
  q.limits.errorLimit != 0 && q.limits.errorLimit ≤ q.errorCount

/-- Whether the queue keeps a diagnostic that arrives now. -/
def accepts (q : DiagnosticQueue) (d : Diagnostic) : Bool :=
  !(d.isError && q.isFull) && !(q.limits.deduplicate && q.diagnostics.contains d)

/-- The queue with one more diagnostic at its end. -/
def push (q : DiagnosticQueue) (d : Diagnostic) : DiagnosticQueue where
  limits := q.limits
  diagnostics := q.diagnostics.push d
  errorCount := if d.isError then q.errorCount + 1 else q.errorCount
  warningCount := if d.isWarning then q.warningCount + 1 else q.warningCount

/-- A diagnostic is offered to the queue.  The answer is whether the queue keeps it. -/
def add (q : DiagnosticQueue) (d : Diagnostic) : Bool × DiagnosticQueue :=
  if q.accepts d then (true, q.push d) else (false, q)

/-- Whether a warning is to be offered: its condition holds, and its category is enabled. -/
def offers (enabled category : WarningSet) (cond : Bool) : Bool := cond && enabled.contains category

/-- A warning is offered to the queue, if it is to be.  The answer is whether the queue keeps it. -/
def warnIf (q : DiagnosticQueue) (enabled category : WarningSet) (cond : Bool) (d : Diagnostic) :
    Bool × DiagnosticQueue :=
  if offers enabled category cond then q.add d else (false, q)

/-- An error is offered to the queue.  The answer is that errors were reported, also if the queue
does not keep this one. -/
def emitError (q : DiagnosticQueue) (d : Diagnostic) : ErrorsReported × DiagnosticQueue :=
  ({}, (q.add d).2)

/-- What the queue tells about errors. -/
def hasErrors? (q : DiagnosticQueue) : Option ErrorsReported := ErrorsReported.ofCount? q.errorCount

/-- How many diagnostics carry a code. -/
def countCode (q : DiagnosticQueue) (c : Code) : Nat := q.diagnostics.countP (·.code == c)

/-- Whether the queue keeps no diagnostic. -/
def isEmpty (q : DiagnosticQueue) : Bool := q.diagnostics.isEmpty

/-- The diagnostics, and the queue without them. -/
def flush (q : DiagnosticQueue) : List Diagnostic × DiagnosticQueue :=
  (q.diagnostics.toList, { limits := q.limits })

/-- A diagnostic that is pushed stands at the end. -/
@[simp] theorem toList_push (q : DiagnosticQueue) (d : Diagnostic) :
    (q.push d).diagnostics.toList = q.diagnostics.toList ++ [d] :=
  Array.toList_push

/-- A diagnostic that is accepted is kept, and the answer says so. -/
theorem add_of_accepts {q : DiagnosticQueue} {d : Diagnostic} (h : q.accepts d = true) :
    q.add d = (true, q.push d) := by
  simp [add, h]

/-- A diagnostic that is not accepted leaves the queue as it is, and the answer says so. -/
theorem add_of_not_accepts {q : DiagnosticQueue} {d : Diagnostic} (h : q.accepts d = false) :
    q.add d = (false, q) := by
  simp [add, h]

/-- The answer to an offer is whether the diagnostic is accepted. -/
theorem fst_add (q : DiagnosticQueue) (d : Diagnostic) : (q.add d).1 = q.accepts d := by
  cases accepted : q.accepts d with
  | true => rw [add_of_accepts accepted]
  | false => rw [add_of_not_accepts accepted]

/-- The queue after an offer. -/
theorem snd_add (q : DiagnosticQueue) (d : Diagnostic) :
    (q.add d).2 = if q.accepts d then q.push d else q := by
  unfold add
  split <;> rfl

/-- The queue after a warning, which is offered or not. -/
theorem snd_warnIf (q : DiagnosticQueue) (enabled category : WarningSet) (cond : Bool)
    (d : Diagnostic) : (q.warnIf enabled category cond d).2 =
      if offers enabled category cond then (q.add d).2 else q := by
  unfold warnIf
  split <;> rfl

end DiagnosticQueue

end Unparsing
