import Unparsing.Proofs.Arena.Queries
import Unparsing.Proofs.Unparser.Shape

/-!
# Proofs/Unparser/Places — the parts of an unparser, looked up by their places

The run before a field is looked up one place before that of the field, and the field before a run
in the place of the run.  A lookup where nothing stands has no answer, and nothing in the form of an
unparser rules it out.  Here what lists, collects and combines the parts of unparsers is written
with such lookups, and has no outcome if one of them finds nothing (`PlaceLookup`).

There is a run before every field but the first, and a field before every run, in an unparser that
is well shaped.  So all of these have the outcome that they have without places
(`NodeUnparser.WellShaped.runsAt`, `.listingAt`, `.combineAt`).
-/

namespace Unparsing

/-- A computation that may end with a problem, and that has no outcome at all if something is looked
up where nothing stands. -/
abbrev PlaceLookup := ExceptT Problem Option

/-- A computation without lookups. -/
def PlaceLookup.returns {α : Type} (x : Except Problem α) : PlaceLookup α := ExceptT.mk (some x)

theorem PlaceLookup.returns_bind {α β : Type} (x : Except Problem α) (k : α → Except Problem β) :
    (returns x >>= fun a => returns (k a)) = returns (x >>= k) := by
  cases x <;> rfl

theorem PlaceLookup.returns_map {α β : Type} (f : α → β) (x : Except Problem α) :
    f <$> returns x = returns (f <$> x) := by
  cases x <;> rfl

variable {lex : Lexicon} {ns : NodeTypes}

/-! ## Nodes with fields -/

namespace RegularUnparser

variable {u a b : RegularUnparser}

/-- The fields, each with the run at the place before its own. -/
def zipFieldsAt (u : RegularUnparser) : Option (List (FieldUnparser × Option TokenRun)) :=
  u.fields.zipIdx.mapM fun (field, i) =>
    match i with
    | 0 => return (field, none)
    | j + 1 => do
      let run ← u.inter[j]?
      return (field, some run)

/-- Every run of the unparser, in the order in which they are written. -/
def runsAt (u : RegularUnparser) : Option (List TokenRun) := do
  let zipped ← u.zipFieldsAt
  return [u.pre] ++ zipped.flatMap (fun (field, inter) => [field.pre, field.post, inter.getD []]) ++
    [u.post]

/-- The unparser as lines of a listing. -/
def listingAt (lex : Lexicon) (u : RegularUnparser) : Option String := do
  let line (label : String) (run : TokenRun) :=
    if run.isEmpty then "" else "   " ++ label ++ ": " ++ TokenRun.render lex.tokens run ++ "\n"
  let zipped ← u.zipFieldsAt
  return "Unparser for " ++ lex.nodes.name u.node ++ ":\n" ++ line "pre" u.pre ++
    String.join (zipped.map fun (field, inter) => slotListing lex field inter) ++
    (if u.fields.isEmpty then "" else "\n") ++ line "post" u.post

/-- Refuses two rows of runs, from a place on, unless they are equivalent one by one.  A report
names the field at the place of the run. -/
def checkInterAt (lex : Lexicon) (fields : List FieldUnparser) :
    (i : Nat) → List TokenRun → List TokenRun → PlaceLookup Unit
  | i, a :: as, b :: bs => do
    let field ← (fields[i]? : Option FieldUnparser)
    TokenRun.checkEquivalent lex.tokens s!"tokens after {lex.nodes.qualifiedName field.field}" a b
    checkInterAt lex fields (i + 1) as bs
  | _, _, _ => return ()

/-- Two occurrences of a node type in one. -/
def combineAt (lex : Lexicon) (a b : RegularUnparser) : PlaceLookup RegularUnparser :=
  let name := lex.nodes.name a.node
  if a.fields.length != b.fields.length || a.inter.length != b.inter.length then
    throw (.internal (.widthsDiffer name))
  else do
    TokenRun.checkEquivalent lex.tokens s!"prefix tokens for {name}" a.pre b.pre
    checkInterAt lex a.fields 0 a.inter b.inter
    TokenRun.checkEquivalent lex.tokens s!"postfix tokens for {name}" a.post b.post
    let fields ← combineFields lex a.fields b.fields
    return { a with fields }

/-- **Every field but the first has a run at the place before it.** -/
theorem zipFieldsAt_eq (enough : u.inter.length = u.fields.length - 1) :
    u.zipFieldsAt = some u.zipFields := by
  rw [zipFieldsAt, ← List.map_id u.fields.zipIdx]
  refine mapM_eq_some fun (field, i) member => ?_
  have inside := (List.mem_zipIdx member).2.1
  cases i with
  | zero => rfl
  | succ j =>
    have place : j < u.inter.length := by omega
    simp [place]

theorem runsAt_eq (enough : u.inter.length = u.fields.length - 1) : u.runsAt = some u.runs := by
  rw [runsAt, zipFieldsAt_eq enough]
  rfl

theorem listingAt_eq (enough : u.inter.length = u.fields.length - 1) :
    u.listingAt lex = some (u.listing lex) := by
  rw [listingAt, zipFieldsAt_eq enough]
  rfl

/-- **Every run has a field at its place**, if there are as many fields as runs. -/
theorem checkInterAt_eq {fields : List FieldUnparser} {as bs : List TokenRun} {i : Nat}
    (enough : i + as.length ≤ fields.length) :
    checkInterAt lex fields i as bs = .returns (checkInter lex (fields.drop i) as bs) := by
  induction as generalizing bs i with
  | nil => cases fields.drop i <;> rfl
  | cons a as ih =>
    rw [List.length_cons] at enough
    have place : i < fields.length := by omega
    rw [List.drop_eq_getElem_cons place]
    cases bs with
    | nil => rfl
    | cons b bs =>
      rw [checkInterAt, checkInter, List.getElem?_eq_getElem place, ih (by omega),
        ← PlaceLookup.returns_bind]
      rfl

theorem combineAt_eq (enough : a.inter.length ≤ a.fields.length) :
    combineAt lex a b = .returns (a.combine lex b) := by
  have inter : checkInterAt lex a.fields 0 a.inter b.inter =
      .returns (checkInter lex a.fields a.inter b.inter) :=
    checkInterAt_eq (by omega)
  unfold combineAt combine
  dsimp only
  split
  · rfl
  · rw [inter]
    simp only [← PlaceLookup.returns_bind]
    rfl

end RegularUnparser

/-! ## Nodes -/

namespace NodeUnparser

variable {a b u : NodeUnparser}

/-- Every run of the unparser, in the order in which they are written. -/
def runsAt : NodeUnparser → Option (List TokenRun)
  | regular u => u.runsAt
  | list _ | tokenNode _ | null _ => some []

/-- The unparser as lines of a listing. -/
def listingAt (lex : Lexicon) : NodeUnparser → Option String
  | regular u => u.listingAt lex
  | u => u.listing lex

/-- Refuses two unparsers of different shapes, listing both. -/
def refuseAt (lex : Lexicon) (a b : NodeUnparser) : PlaceLookup NodeUnparser := do
  throw (.internal (.shapesDiffer (← a.listingAt lex) (← b.listingAt lex)))

/-- Two occurrences of a node type in one. -/
def combineAt (lex : Lexicon) (a b : NodeUnparser) : PlaceLookup NodeUnparser :=
  match a, b with
  | null _, b => pure b
  | a, null _ => pure a
  | regular x, regular y =>
    if x.node = y.node then regular <$> x.combineAt lex y else refuseAt lex a b
  | list x, list y => if x.node = y.node then list <$> x.combine lex y else refuseAt lex a b
  | tokenNode x, tokenNode y => if x = y then pure (tokenNode x) else refuseAt lex a b
  | a, b => refuseAt lex a b

/-- The runs of a well-shaped unparser stand where they are looked up. -/
theorem WellShaped.runsAt (h : u.WellShaped ns) : u.runsAt = some u.runs := by
  cases u with
  | regular => exact RegularUnparser.runsAt_eq (RegularUnparser.WellShaped.inter h)
  | list | tokenNode | null => rfl

theorem WellShaped.listingAt (h : u.WellShaped ns) : u.listingAt lex = some (u.listing lex) := by
  cases u with
  | regular => exact RegularUnparser.listingAt_eq (RegularUnparser.WellShaped.inter h)
  | list | tokenNode | null => rfl

theorem WellShaped.refuseAt (ha : a.WellShaped ns) (hb : b.WellShaped ns) :
    refuseAt lex a b = .returns (throw (mismatch lex a b)) := by
  rw [NodeUnparser.refuseAt, ha.listingAt, hb.listingAt]
  rfl

/-- **Combining two well-shaped unparsers** finds every part where it is looked up. -/
theorem WellShaped.combineAt (ha : a.WellShaped ns) (hb : b.WellShaped ns) :
    a.combineAt lex b = .returns (a.combine lex b) := by
  have refused : NodeUnparser.refuseAt lex a b = .returns (throw (mismatch lex a b)) :=
    ha.refuseAt hb
  cases a with
  | null => cases b <;> rfl
  | regular x =>
    cases b with
    | null => rfl
    | list | tokenNode => exact refused
    | regular y =>
      simp only [NodeUnparser.combineAt, combine]
      split
      · rw [RegularUnparser.combineAt_eq (RegularUnparser.WellShaped.inter_le ha)]
        exact PlaceLookup.returns_map _ _
      · exact refused
  | list x =>
    cases b with
    | null => rfl
    | regular | tokenNode => exact refused
    | list y =>
      simp only [NodeUnparser.combineAt, combine]
      split
      · exact PlaceLookup.returns_map _ _
      · exact refused
  | tokenNode x =>
    cases b with
    | null => rfl
    | regular | list => exact refused
    | tokenNode y =>
      simp only [NodeUnparser.combineAt, combine]
      split
      · rfl
      · exact refused

end NodeUnparser

end Unparsing
