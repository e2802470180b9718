import Mathlib.Data.List.Induction
import Mathlib.Data.List.Nodup
import Unparsing.Token.Run

/-!
# Proofs/Token/RunTable — a table of runs lists them without their repetitions

No run stands at two places of a table (`RunTable.nodup_runs`), and adding runs to an empty one
leaves the first of equal ones (`RunTable.toList_runs_addAll`).
-/

namespace Unparsing

namespace RunTable

variable {t : RunTable} {run : TokenRun} {runs : List TokenRun}

theorem nodup_runs (t : RunTable) : t.runs.toList.Nodup := by
  rw [List.nodup_iff_getElem?_ne_getElem?]
  intro i j less bound same
  rw [Array.getElem?_toList, Array.getElem?_toList] at same
  obtain ⟨run, atPlace⟩ : ∃ run, t.runs[j]? = some run := ⟨_, Array.getElem?_eq_getElem bound⟩
  have first := index?_eq_some.mpr (same.trans atPlace)
  rw [index?_eq_some.mpr atPlace] at first
  exact Nat.ne_of_gt less (Option.some.inj first)

/-- No run has a place just in an empty table. -/
theorem index?_eq_none_iff_empty : (∀ run, t.index? run = none) ↔ t.runs = #[] := by
  simp only [index?_eq_none, ← List.eq_nil_iff_forall_not_mem, Array.toList_eq_nil_iff]

theorem toList_runs_add : (t.add run).runs.toList =
    if run ∈ t.runs.toList then t.runs.toList else t.runs.toList ++ [run] := by
  unfold add
  split
  next new => rw [if_neg (index?_eq_none.mp new), Array.toList_push]
  next old => rw [if_pos (not_not.mp fun out => old (index?_eq_none.mpr out))]

theorem addAll_append {more : List TokenRun} :
    t.addAll (runs ++ more) = (t.addAll runs).addAll more :=
  List.foldl_append

/-- **A table filled from the start** holds the runs without their repetitions. -/
theorem toList_runs_addAll (runs : List TokenRun) :
    (addAll empty runs).runs.toList = runs.eraseDups := by
  induction runs using List.reverseRecOn with
  | nil => rfl
  | append_singleton runs run ih =>
    have last : addAll empty (runs ++ [run]) = (addAll empty runs).add run := addAll_append
    rw [last, toList_runs_add, ih, List.eraseDups_append]
    by_cases old : run ∈ runs <;> simp [old, List.removeAll, List.eraseDups_cons]

/-- A table is empty only if nothing was ever added to it. -/
theorem runs_addAll_eq_empty : (t.addAll runs).runs = #[] ↔ t.runs = #[] ∧ runs = [] := by
  induction runs generalizing t with
  | nil => simp [addAll]
  | cons run runs ih =>
    have some : (t.add run).runs.toList ≠ [] := by
      rw [toList_runs_add]
      split
      next old => exact List.ne_nil_of_mem old
      next new => simp
    have empty : (t.add run).runs ≠ #[] := fun empty => some (congrArg Array.toList empty)
    exact iff_of_false (fun all => empty (ih.mp all).1) (by simp)

end RunTable

end Unparsing
