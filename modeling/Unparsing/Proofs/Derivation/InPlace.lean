import Unparsing.Proofs.Arena.Basic
import Unparsing.Proofs.Derivation.Equations

/-!
# Proofs/Derivation/InPlace — a row written into an unparser, item by item

The row of a transform can be written into the unparser that writes no token.  How many fields are
filled tells the place of the next field, and that of the run to which an item thrown away is added:
before the fields, behind them, or one place before the next field, among the runs between two
(`RegularUnparser.runPlace`).  Nothing in this form says that a run stands there.

What is carried along is the row as a whole (`RegularUnparser.ofRuns`), a run before its fields and
one behind each.  In it, the run written stands in the place of the next field
(`RegularUnparser.run?_ofRuns`).  So nothing is ever looked up in vain, and the unparser that comes
of it is the one derived from the row (`Grammar.transformInPlace_eq`).
-/

namespace Unparsing

open Unparsing.Limited (returns lift_some_bind returns_pure returns_bind)

/-! ## Places of runs -/

namespace RegularUnparser

/-- Where a run of an unparser stands. -/
inductive RunPlace where
  | pre
  | inter (j : Nat)
  | post

/-- The place of the run that is written when some fields are filled. -/
def runPlace (u : RegularUnparser) (next : Nat) : RunPlace :=
  if next = 0 then .pre else if next < u.fields.length then .inter (next - 1) else .post

/-- The run at a place. -/
def run? (u : RegularUnparser) : RunPlace → Option TokenRun
  | .pre => some u.pre
  | .inter j => u.inter[j]?
  | .post => some u.post

/-- The unparser with another run in a place. -/
def setRun (u : RegularUnparser) (run : TokenRun) : RunPlace → RegularUnparser
  | .pre => { u with pre := run }
  | .inter j => { u with inter := u.inter.set j run }
  | .post => { u with post := run }

/-- The unparser with another field in a place. -/
def setField (u : RegularUnparser) (i : Nat) (field : FieldUnparser) : RegularUnparser :=
  { u with fields := u.fields.set i field }

/-- The unparser of a row: the fields, and the runs, one before them and one behind each. -/
def ofRuns (node : NodeId) (fields : List FieldUnparser) (runs : List TokenRun) :
    RegularUnparser where
  node := node
  pre := runs.head?.getD []
  fields := fields
  inter := runs.tail.dropLast
  post := runs.tail.getLast?.getD []

variable {node : NodeId} {fields : List FieldUnparser} {runs : List TokenRun} {next : Nat}

theorem ofRow_eq_ofRuns (node : NodeId) (lead : TokenRun)
    (filled : List (FieldUnparser × TokenRun)) :
    ofRow node lead filled = ofRuns node (filled.map (·.1)) (lead :: filled.map (·.2)) := rfl

/-- The runs of a row behind its first field are those between two fields, and one more. -/
theorem exists_runs (width : runs.length = fields.length + 1) (filled : next + 1 ≤ fields.length) :
    ∃ lead inter post, runs = lead :: (inter ++ [post]) ∧ fields.length = inter.length + 1 := by
  cases runs with
  | nil => cases width
  | cons lead gaps =>
    obtain rfl | ⟨inter, post, rfl⟩ := List.eq_nil_or_concat gaps
    · exact absurd (Nat.succ.inj width) (by simp only [List.length_nil]; omega)
    · exact ⟨lead, inter, post, by simp, by simpa using width.symm⟩

/-- **The run written stands in the place of the next field**, in the row as a whole. -/
theorem run?_ofRuns (width : runs.length = fields.length + 1) (le : next ≤ fields.length) :
    (ofRuns node fields runs).run? ((ofRuns node fields runs).runPlace next) = runs[next]? := by
  cases next with
  | zero =>
    cases runs with
    | nil => cases width
    | cons lead gaps => rfl
  | succ j =>
    obtain ⟨lead, inter, post, rfl, size⟩ := exists_runs width le
    by_cases between : j < inter.length
    · simp [runPlace, run?, ofRuns, size, between, List.getElem?_append_left]
    · obtain rfl : j = inter.length := by omega
      simp [runPlace, run?, ofRuns, size]

theorem setRun_ofRuns (width : runs.length = fields.length + 1) (le : next ≤ fields.length)
    (run : TokenRun) :
    (ofRuns node fields runs).setRun run ((ofRuns node fields runs).runPlace next) =
      ofRuns node fields (runs.set next run) := by
  cases next with
  | zero =>
    cases runs with
    | nil => cases width
    | cons lead gaps => rfl
  | succ j =>
    obtain ⟨lead, inter, post, rfl, size⟩ := exists_runs width le
    by_cases between : j < inter.length
    · simp [runPlace, setRun, ofRuns, size, between]
    · obtain rfl : j = inter.length := by omega
      simp [runPlace, setRun, ofRuns, size]

/-! ### A row underway -/

/-- **A row underway**: the fields that are filled, with the runs before each of them, the run being
written, and the fields left, with no token behind them yet. -/
def underway (node : NodeId) (done rest : List FieldUnparser) (before : List TokenRun)
    (last : TokenRun) : RegularUnparser :=
  ofRuns node (done ++ rest) (before ++ last :: List.replicate rest.length [])

variable {done rest : List FieldUnparser} {before : List TokenRun} {last : TokenRun}
  (level : before.length = done.length)

theorem blank_eq_underway (ns : NodeTypes) (node : NodeId) :
    blank ns node = underway node [] (blank ns node).fields [] [] := by
  simp only [blank, underway, ofRuns, List.nil_append, List.head?_cons, List.tail_cons,
    List.dropLast_replicate, List.getLast?_replicate, Option.getD_some]
  split <;> rfl

theorem getElem?_fields_underway :
    (underway node done rest before last).fields[done.length]? = rest.head? := by
  simp [underway, ofRuns, List.getElem?_append_right, List.head?_eq_getElem?]

/-- The next field is filled, and another run begins. -/
theorem setField_underway (field field' : FieldUnparser) :
    (underway node done (field :: rest) before last).setField done.length field' =
      underway node (done ++ [field']) rest (before ++ [last]) [] := by
  simp [underway, setField, ofRuns, List.replicate_succ]

include level

theorem width_underway : (before ++ last :: List.replicate rest.length []).length =
    (done ++ rest).length + 1 := by
  simp [level]
  omega

/-- The run being written is found in its place. -/
theorem run?_underway : (underway node done rest before last).run?
    ((underway node done rest before last).runPlace done.length) = some last := by
  rw [underway, run?_ofRuns (width_underway level) (by simp)]
  simp [← level]

theorem setRun_underway (run : TokenRun) : (underway node done rest before last).setRun run
    ((underway node done rest before last).runPlace done.length) =
      underway node done rest before run := by
  rw [underway, setRun_ofRuns (width_underway level) (by simp), underway]
  simp [← level]

end RegularUnparser

/-! ## Rows -/

namespace Grammar

open RegularUnparser (ofRuns underway run?_underway setRun_underway setField_underway
  getElem?_fields_underway blank_eq_underway ofRow_eq_ofRuns)

variable {g : Grammar} {node : NodeId}

/-- The items of a row, written into an unparser of which `next` fields are filled; the unparser
then, and how many are. -/
def fillInPlace (g : Grammar) (overflow : Problem) : RegularUnparser → (next : Nat) →
    List Parser → Limited Problem TokenTable (RegularUnparser × Nat)
  | u, next, [] => return (u, next)
  | u, next, p :: ps => do
    if p.discards then
      let before ← u.run? (u.runPlace next)
      let run ← g.emitRun p
      g.fillInPlace overflow (u.setRun (before ++ run) (u.runPlace next)) next ps
    else
      match u.fields[next]? with
      | none => throw overflow
      | some field => do
        let field ← g.emitField p field
        g.fillInPlace overflow (u.setField next field) (next + 1) ps

/-- The unparser of a transform, its row written in place. -/
def transformInPlace (g : Grammar) (node : NodeId) (id : ParserId) (type : NodeId)
    (rowId : ParserId) (items : List Parser) : Limited Problem TokenTable NodeUnparser := do
  let description := g.describe (.transform id type rowId items)
  let name := g.nodes.name node
  let blank := RegularUnparser.blank g.nodes node
  let (u, next) ← g.fillInPlace (.internal (.moreFields description name)) blank 0 items
  if next != blank.fields.length then
    throw (.internal (.fewerFields description next name blank.fields.length))
  return .regular u

/-- **A row filled in place** is the row filled, behind the fields and runs that are there. -/
theorem fillInPlace_eq (overflow : Problem) (done rest : List FieldUnparser)
    (before : List TokenRun) (last : TokenRun) (items : List Parser)
    (level : before.length = done.length) :
    g.fillInPlace overflow (underway node done rest before last) done.length items =
      returns (do
        let (lead, filled) ← g.fillRow overflow rest items
        return (ofRuns node (done ++ (filled.map (·.1) ++ rest.drop filled.length))
          (before ++ (last ++ lead) ::
            (filled.map (·.2) ++ List.replicate (rest.length - filled.length) [])),
          done.length + filled.length)) := by
  induction items generalizing done rest before last with
  | nil => simp [fillInPlace, fillRow, returns_pure, underway]
  | cons p ps ih =>
    unfold fillInPlace fillRow
    cases p.discards with
    | true =>
      rw [run?_underway level]
      simp only [if_true, lift_some_bind, setRun_underway level, ih _ _ _ _ level]
      simp only [returns_bind, bind_assoc, pure_bind, List.append_assoc]
      rfl
    | false =>
      rw [getElem?_fields_underway]
      cases rest with
      | nil => rfl
      | cons field rest =>
        have filled (field' : FieldUnparser) :=
          ih (done ++ [field']) rest (before ++ [last]) [] (by simp [level])
        simp only [List.length_append, List.length_singleton] at filled
        simp only [List.head?_cons, setField_underway, filled]
        -- The field that is filled here comes first of those that the row fills.
        simp only [Bool.false_eq_true, if_false, returns_bind, returns_pure, bind_assoc, pure_bind,
          List.map_cons, List.length_cons, List.drop_succ_cons, Nat.add_sub_add_right,
          List.append_assoc, List.append_nil, List.nil_append, List.cons_append, Nat.add_assoc,
          Nat.add_comm 1]
        rfl

/-- **A transform derived in place** is the transform derived. -/
theorem transformInPlace_eq (concrete : g.nodes.isConcrete node = true)
    (regular : g.nodes.isTokenNode node = false) (id : ParserId) (type : NodeId) (rowId : ParserId)
    (items : List Parser) :
    g.transformInPlace node id type rowId items =
      returns (g.deriveNode node (.transform id type rowId items)) := by
  have row (overflow : Problem) : g.fillInPlace overflow
      (underway node [] (RegularUnparser.blank g.nodes node).fields [] []) 0 items = _ :=
    fillInPlace_eq overflow [] _ [] [] items rfl
  simp only [← blank_eq_underway, List.nil_append, List.length_nil, Nat.zero_add] at row
  rw [deriveNode_transform concrete regular, transformInPlace]
  simp only [row, returns_bind, bind_assoc]
  refine bind_congr fun filled => ?_
  simp only [returns_pure, pure_bind]
  split
  next => rfl
  next width =>
    rw [bne_iff_ne, not_not] at width
    have all : List.drop filled.2.length (RegularUnparser.blank g.nodes node).fields = [] :=
      List.drop_of_length_le (Nat.le_of_eq width.symm)
    rw [ofRow_eq_ofRuns, all, ← width]
    simp only [Nat.sub_self, List.replicate_zero, List.append_nil]
    rfl

end Grammar

end Unparsing
