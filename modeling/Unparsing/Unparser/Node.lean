import Unparsing.Token.Run

/-!
# Unparser/Node — how a node is written

A node is written in one of four ways: fixed tokens with its fields between them, a list with a
separator, the text of one token, or not at all.  Several parsers may build nodes of one type; their
unparsers are combined into one (`NodeUnparser.combine`).  An absent node combines with anything;
any other two must be of one shape, and write equivalent tokens.

A field of a node is written with a run of tokens before it and one after it, both left out when the
field is absent.  A field that only `null` parsers have produced so far is `alwaysAbsent`, and
carries no information: combined with another occurrence of the field, the other one counts.
-/

namespace Unparsing

/-! ## Fields -/

/-- The registries that name the parts of an unparser. -/
structure Lexicon where
  nodes : NodeTypes
  tokens : TokenTable

/-- How a field of a node is written. -/
structure FieldUnparser where
  /-- The type of the node, which may inherit the field. -/
  node : NodeId
  field : FieldId
  /-- Whether only absent nodes have been seen in this field. -/
  alwaysAbsent : Bool := true
  /-- Written before the field, if it is present. -/
  pre : TokenRun := []
  /-- Written after the field, if it is present. -/
  post : TokenRun := []
  deriving DecidableEq, Repr

namespace FieldUnparser

/-- Two occurrences of a field in one.  Unless one of them is always absent, the runs around the
field must be equivalent. -/
def combine (lex : Lexicon) (a b : FieldUnparser) : Except Problem FieldUnparser :=
  let name := lex.nodes.qualifiedName a.field
  if a.node != b.node || a.field != b.field then
    throw (.internal (.fieldsDiffer name (lex.nodes.qualifiedName b.field)))
  else if a.alwaysAbsent then
    pure b
  else if b.alwaysAbsent then
    pure a
  else do
    TokenRun.checkEquivalent lex.tokens s!"prefix tokens for {name}" a.pre b.pre
    TokenRun.checkEquivalent lex.tokens s!"postfix tokens for {name}" a.post b.post
    pure a

/-- The field as a line of a listing. -/
def listing (lex : Lexicon) (f : FieldUnparser) : String :=
  "   if " ++ lex.nodes.qualifiedName f.field ++ ": " ++ TokenRun.render lex.tokens f.pre ++
    " [field] " ++ TokenRun.render lex.tokens f.post ++ "\n"

end FieldUnparser

/-! ## Nodes -/

/-- A node written as tokens with its fields between them. -/
structure RegularUnparser where
  node : NodeId
  pre : TokenRun
  /-- One for each field of the node type. -/
  fields : List FieldUnparser
  /-- The runs between two fields: one less than there are fields. -/
  inter : List TokenRun
  post : TokenRun
  deriving DecidableEq, Repr

/-- A list node, written as its elements with a separator between them, if there is one. -/
structure ListUnparser where
  node : NodeId
  separator : Option TokenId
  deriving DecidableEq, Repr

/-- How a node is written. -/
inductive NodeUnparser where
  | regular (unparser : RegularUnparser)
  | list (unparser : ListUnparser)
  /-- As the text of its token. -/
  | tokenNode (node : NodeId)
  /-- Not at all: the node is absent. -/
  | null (node : NodeId)
  deriving DecidableEq, Repr

namespace RegularUnparser

/-- The unparser of a node type that writes no token, with all fields always absent. -/
def blank (ns : NodeTypes) (node : NodeId) : RegularUnparser :=
  let fields := (ns.parseFields node).map fun field => { node, field }
  { node, pre := [], fields, inter := List.replicate (fields.length - 1) [], post := [] }

/-- The fields, each with the run before it; there is none before the first. -/
def zipFields (u : RegularUnparser) : List (FieldUnparser × Option TokenRun) :=
  u.fields.zipIdx.map fun (field, i) => (field, if i = 0 then none else u.inter[i - 1]?)

/-- Every run of the unparser, in the order in which they are written; an empty one stands before
the first field. -/
def runs (u : RegularUnparser) : List TokenRun :=
  [u.pre] ++
    u.zipFields.flatMap (fun (field, inter) => [field.pre, field.post, inter.getD []]) ++
    [u.post]

/-- The fields of two occurrences, combined one by one. -/
def combineFields (lex : Lexicon) : List FieldUnparser → List FieldUnparser →
    Except Problem (List FieldUnparser)
  | a :: as, b :: bs => do
    let field ← a.combine lex b
    let fields ← combineFields lex as bs
    pure (field :: fields)
  | _, _ => pure []

/-- Refuses two occurrences unless the runs after each field are equivalent. -/
def checkInter (lex : Lexicon) : List FieldUnparser → List TokenRun → List TokenRun →
    Except Problem Unit
  | field :: fields, a :: as, b :: bs => do
    TokenRun.checkEquivalent lex.tokens s!"tokens after {lex.nodes.qualifiedName field.field}" a b
    checkInter lex fields as bs
  | _, _, _ => pure ()

/-- Two occurrences of a node type in one. -/
def combine (lex : Lexicon) (a b : RegularUnparser) : Except Problem RegularUnparser :=
  let name := lex.nodes.name a.node
  if a.fields.length != b.fields.length || a.inter.length != b.inter.length then
    throw (.internal (.widthsDiffer name))
  else do
    TokenRun.checkEquivalent lex.tokens s!"prefix tokens for {name}" a.pre b.pre
    checkInter lex a.fields a.inter b.inter
    TokenRun.checkEquivalent lex.tokens s!"postfix tokens for {name}" a.post b.post
    let fields ← combineFields lex a.fields b.fields
    pure { a with fields }

/-- A field with the run before it, as lines of a listing. -/
def slotListing (lex : Lexicon) (field : FieldUnparser) (inter : Option TokenRun) : String :=
  let run := inter.getD []
  "\n" ++ (if run.isEmpty then "" else "   tokens: " ++ TokenRun.render lex.tokens run ++ "\n") ++
    field.listing lex

/-- The unparser of a node with fields as lines of a listing. -/
def listing (lex : Lexicon) (u : RegularUnparser) : String :=
  let line (label : String) (run : TokenRun) :=
    if run.isEmpty then "" else "   " ++ label ++ ": " ++ TokenRun.render lex.tokens run ++ "\n"
  "Unparser for " ++ lex.nodes.name u.node ++ ":\n" ++ line "pre" u.pre ++
    String.join (u.zipFields.map fun (field, inter) => slotListing lex field inter) ++
    (if u.fields.isEmpty then "" else "\n") ++ line "post" u.post

end RegularUnparser

namespace ListUnparser

/-- Two occurrences of a list type in one: their separators must be written alike. -/
def combine (lex : Lexicon) (a b : ListUnparser) : Except Problem ListUnparser :=
  if lex.tokens.equivalent a.separator b.separator then
    pure a
  else
    throw (.inconsistentSeparator (lex.nodes.name a.node) (lex.tokens.textOrNone a.separator)
      (lex.tokens.textOrNone b.separator))

/-- The unparser of a list as a line of a listing. -/
def listing (lex : Lexicon) (u : ListUnparser) : String :=
  "Unparser for " ++ lex.nodes.name u.node ++ ":\n" ++
    u.separator.elim "" fun id => "   separator: " ++ lex.tokens.text id ++ "\n"

end ListUnparser

namespace NodeUnparser

/-- The type of the node. -/
def node : NodeUnparser → NodeId
  | regular u => u.node
  | list u => u.node
  | tokenNode node | null node => node

/-- Whether an unparser is that of an absent node. -/
def isNull : NodeUnparser → Bool
  | null _ => true
  | _ => false

/-- The unparser as lines of a listing. -/
def listing (lex : Lexicon) : NodeUnparser → String
  | regular u => u.listing lex
  | list u => u.listing lex
  | tokenNode node => "Unparser for " ++ lex.nodes.name node ++ "\n"
  | null node => "Unparser for " ++ lex.nodes.name node ++ ": null\n"

/-- Every run of the unparser, in the order in which they are written. -/
def runs : NodeUnparser → List TokenRun
  | regular u => u.runs
  | list _ | tokenNode _ | null _ => []

/-- The problem of two unparsers of different shapes. -/
def mismatch (lex : Lexicon) (a b : NodeUnparser) : Problem :=
  .internal (.shapesDiffer (a.listing lex) (b.listing lex))

/-- Two occurrences of a node type in one. -/
def combine (lex : Lexicon) (a b : NodeUnparser) : Except Problem NodeUnparser :=
  match a, b with
  | null _, b => pure b
  | a, null _ => pure a
  | regular x, regular y =>
    if x.node = y.node then regular <$> x.combine lex y else throw (mismatch lex a b)
  | list x, list y =>
    if x.node = y.node then list <$> x.combine lex y else throw (mismatch lex a b)
  | tokenNode x, tokenNode y =>
    if x = y then pure (tokenNode x) else throw (mismatch lex a b)
  | a, b => throw (mismatch lex a b)

/-- An absent node in the first place makes no difference. -/
@[simp] theorem combine_null_left (lex : Lexicon) (node : NodeId) (u : NodeUnparser) :
    (null node).combine lex u = .ok u := by
  cases u <;> rfl

/-- An absent node in the second place makes no difference. -/
@[simp] theorem combine_null_right (lex : Lexicon) (node : NodeId) {u : NodeUnparser}
    (h : u.isNull = false) : u.combine lex (null node) = .ok u := by
  cases u <;> first | rfl | simp [isNull] at h

end NodeUnparser

end Unparsing
