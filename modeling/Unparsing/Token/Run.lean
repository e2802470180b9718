import Unparsing.Token.Table

/-!
# Token/Run — fixed runs of tokens

A run is a list of tokens of a table, written with single spaces between them.  Runs are equal if
they are of the same tokens, and *equivalent* if their tokens are written alike, one by one.

Unparsers of different node types write the same runs.  A `RunTable` holds each run once, in the
order of first use, next to an index from the run to its place.  Both are kept in step by
construction (`RunTable.indexed`), so no run stands at two places.

* `TokenRun.checkEquivalent` — refuses two runs in one place unless they are equivalent.
* `RunTable.index?` — the place of a run.
* `RunTable.add`, `RunTable.addAll` — runs added at the end, those aside that the table holds.
-/

namespace Unparsing

/-- A fixed run of tokens. -/
abbrev TokenRun := List TokenId

namespace TokenRun

/-- Whether two runs are of one length, and their tokens are written alike. -/
def equivalent (t : TokenTable) (a b : TokenRun) : Bool :=
  a.length == b.length && (a.zip b).all fun pair => t.text pair.1 == t.text pair.2

/-- What is written for a run. -/
def render (t : TokenTable) (run : TokenRun) : String := " ".intercalate (run.map t.text)

/-- Refuses two runs in one place, called `role`, unless they are equivalent. -/
def checkEquivalent (t : TokenTable) (role : String) (a b : TokenRun) : Except Problem Unit :=
  if equivalent t a b then
    .ok ()
  else
    .error (.inconsistentTokens role (render t a) (render t b))

/-- Two empty runs are equivalent. -/
@[simp] theorem equivalent_nil (t : TokenTable) : equivalent t [] [] = true := rfl

/-- Two runs are equivalent if their first tokens are written alike and the others are equivalent.
-/
@[simp] theorem equivalent_cons (t : TokenTable) (x y : TokenId) (a b : TokenRun) :
    equivalent t (x :: a) (y :: b) = (t.text x == t.text y && equivalent t a b) := by
  simp only [equivalent, List.length_cons, List.zip_cons_cons, List.all_cons]
  cases t.text x == t.text y <;> simp

/-- Runs are equivalent if the same texts are written for them. -/
theorem equivalent_iff_map_text_eq {t : TokenTable} {a b : TokenRun} :
    equivalent t a b = true ↔ a.map t.text = b.map t.text := by
  induction a generalizing b with
  | nil => cases b <;> simp [equivalent]
  | cons x a ih =>
    cases b with
    | nil => simp [equivalent]
    | cons y b => simp [ih]

end TokenRun

/-! ## The runs of a session, each held once -/

/-- Runs, each held once, and the place of each. -/
structure RunTable where
  /-- The runs in the order of first use. -/
  runs : Array TokenRun
  /-- The runs with their places, the latest first. -/
  places : List (TokenRun × Nat)
  /-- A run is looked up at the place where it stands, and found nowhere else. -/
  indexed (run : TokenRun) (i : Nat) : places.lookup run = some i ↔ runs[i]? = some run

namespace RunTable

/-- The table without runs. -/
def empty : RunTable := ⟨#[], [], by simp⟩

instance : Inhabited RunTable := ⟨empty⟩

/-- The place of a run. -/
def index? (t : RunTable) (run : TokenRun) : Option Nat := t.places.lookup run

/-- The number of a run is the place where it stands. -/
theorem index?_eq_some {t : RunTable} {run : TokenRun} {i : Nat} :
    t.index? run = some i ↔ t.runs[i]? = some run :=
  t.indexed run i

/-- A run without a number does not stand in the table. -/
theorem index?_eq_none {t : RunTable} {run : TokenRun} :
    t.index? run = none ↔ run ∉ t.runs.toList := by
  rw [Option.eq_none_iff_forall_ne_some, Array.mem_toList_iff, Array.mem_iff_getElem?, not_exists]
  exact forall_congr' fun i => not_congr index?_eq_some

/-- The place at the end is that of the run put there, if it stands at no other. -/
theorem indexed_push {t : RunTable} {run : TokenRun} (new : t.index? run = none) (r : TokenRun)
    (i : Nat) : ((run, t.runs.size) :: t.places).lookup r = some i ↔
      (t.runs.push run)[i]? = some r := by
  rw [List.lookup_cons, Array.getElem?_push]
  by_cases same : r = run
  · subst same
    have absent (i : Nat) : t.runs[i]? ≠ some r := fun at_i => by
      rw [index?_eq_some.mpr at_i] at new
      cases new
    split <;> simp_all [eq_comm]
  · have other : t.runs[t.runs.size]? ≠ some r := by simp
    rw [beq_false_of_ne same]
    change t.index? r = some i ↔ _
    rw [index?_eq_some]
    split
    next last =>
      subst last
      exact iff_of_false other fun h => same (Option.some.inj h).symm
    next => exact Iff.rfl

/-- The table with one more run at its end, unless it holds it. -/
def add (t : RunTable) (run : TokenRun) : RunTable :=
  if new : t.index? run = none then
    ⟨t.runs.push run, (run, t.runs.size) :: t.places, indexed_push new⟩
  else
    t

/-- The table with more runs at its end, those aside that it holds. -/
def addAll (t : RunTable) (runs : List TokenRun) : RunTable := runs.foldl add t

end RunTable

end Unparsing
