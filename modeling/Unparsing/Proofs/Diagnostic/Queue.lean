import Unparsing.Diagnostic.Queue

/-!
# Proofs/Diagnostic/Queue — the diagnostics of one code

Diagnostics of different codes do not come in each other's way, errors over the limit aside: whether
a queue keeps a warning of a code depends on its limits and on the diagnostics of that code only.

* `DiagnosticQueue.coded` — the diagnostics of a code.
* `DiagnosticQueue.Agree` — two queues with the same limits and the same diagnostics of a code.
-/

namespace Unparsing

namespace DiagnosticQueue

variable {q q' q'' : DiagnosticQueue} {c : Code} {d : Diagnostic}

/-- The diagnostics of a code, in order. -/
def coded (q : DiagnosticQueue) (c : Code) : List Diagnostic :=
  q.diagnostics.toList.filter (·.code == c)

/-- A diagnostic that is pushed is the last of its code. -/
theorem coded_push (q : DiagnosticQueue) (d : Diagnostic) (c : Code) :
    (q.push d).coded c = q.coded c ++ if d.code = c then [d] else [] := by
  rw [coded, toList_push, List.filter_append, coded]
  by_cases same : d.code = c <;> simp [same]

/-- A diagnostic that is no error is kept unless an equal one of its code is. -/
theorem accepts_of_not_error (mild : d.isError = false) :
    q.accepts d = !(q.limits.deduplicate && decide (d ∈ q.coded d.code)) := by
  simp [accepts, mild, coded, Array.contains_eq_mem]

/-- Two queues that treat diagnostics of a code alike: they have the same limits, and the same
diagnostics of that code. -/
structure Agree (c : Code) (q q' : DiagnosticQueue) : Prop where
  limits : q.limits = q'.limits
  coded : q.coded c = q'.coded c

theorem Agree.refl (c : Code) (q : DiagnosticQueue) : Agree c q q := ⟨rfl, rfl⟩

theorem Agree.symm (h : Agree c q q') : Agree c q' q := ⟨h.limits.symm, h.coded.symm⟩

theorem Agree.trans (h : Agree c q q') (h' : Agree c q' q'') : Agree c q q'' :=
  ⟨h.limits.trans h'.limits, h.coded.trans h'.coded⟩

/-- A diagnostic of another code makes no difference. -/
theorem agree_add (other : d.code ≠ c) : Agree c (q.add d).2 q := by
  rw [snd_add]
  split
  · exact ⟨rfl, by rw [coded_push, if_neg other, List.append_nil]⟩
  · exact .refl c q

/-- A diagnostic of the code, offered to both, makes no difference if it is no error. -/
theorem Agree.add (h : Agree c q q') (same : d.code = c) (mild : d.isError = false) :
    Agree c (q.add d).2 (q'.add d).2 := by
  have alike : q.accepts d = q'.accepts d := by
    rw [accepts_of_not_error mild, accepts_of_not_error mild, same, h.limits, h.coded]
  rw [snd_add, snd_add, alike]
  split
  · exact ⟨h.limits, by rw [coded_push, coded_push, h.coded]⟩
  · exact h

variable {enabled category : WarningSet} {cond : Bool}

/-- A warning of another code makes no difference. -/
theorem agree_warnIf (other : d.code ≠ c) :
    Agree c (q.warnIf enabled category cond d).2 q := by
  rw [snd_warnIf]
  split
  · exact agree_add other
  · exact .refl c q

/-- A warning of the code, offered to both or to neither, makes no difference. -/
theorem Agree.warnIf (h : Agree c q q') (same : d.code = c) (mild : d.isError = false) :
    Agree c (q.warnIf enabled category cond d).2 (q'.warnIf enabled category cond d).2 := by
  rw [snd_warnIf, snd_warnIf]
  split
  · exact h.add same mild
  · exact h

end DiagnosticQueue

end Unparsing
