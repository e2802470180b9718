import Unparsing.Grammar.Yield
import Unparsing.Unparser.Node

/-!
# Derivation/Basic — an unparser from a parser that builds the node

What a row throws away must still be written, so it has to match a fixed run of tokens: tokens, rows
of such, and tolerant optionals, which are written as if they matched.  Markers and wrappers write
nothing (`Grammar.emitRun`).  `Grammar.splitPick` takes a `pick` apart, into the run before the item
picked, the item, and the run after it.

`Grammar.deriveNode` reads off a parser how the node that it builds is written:

* a transform writes its row: the items thrown away as runs, the others as fields, in order;
* a list writes its elements with the separator between them;
* a boolean optional writes the tokens of its inner parser when the node is the present
  alternative;
* any other optional writes what its inner parser does, and an absent node nothing;
* a token node writes its token, and has to be a transform of just that.

No other parser can be unparsed.  Inside a field the tokens of a `pick` surround the field, and each
branch of a choice must have an unparser of its own (`Grammar.checkBranches`).
-/

namespace Unparsing

/-! ## Tokens that a parser without a result matches -/

namespace Grammar

/-- A parser as reports show it. -/
def site (g : Grammar) (p : Parser) : Site := ⟨g.describe p, g.span p⟩

mutual

/-- The run of tokens that a parser matches, each added to the table if it is new.  One `dontSkip`
is looked through; a second one inside it hides what it holds. -/
def emitRun (g : Grammar) : Parser → Interning TokenRun
  | .row _ items => g.emitRuns items
  | .token id kind text => do
    let token ← TokenTable.internParser g (.token id kind text)
    pure [token]
  | .opt _ inner true => g.emitRun inner
  | .noBacktrack _ => pure []
  | .dontSkip _ (.dontSkip _ _) => pure []
  | .dontSkip _ inner => g.emitRun inner
  | p => throw (.tokensExpected (g.site p))

/-- Companion of `emitRun` on the items of a row: their runs, one after the other. -/
def emitRuns (g : Grammar) : List Parser → Interning TokenRun
  | [] => pure []
  | p :: ps => do
    let run ← g.emitRun p
    let rest ← g.emitRuns ps
    pure (run ++ rest)

end

/-- A `pick` as the run before the item picked, the item, and the run after it. -/
def splitPick (g : Grammar) (p : Parser) : Interning (TokenRun × Parser × TokenRun) :=
  match p with
  | .pick _ _ items index =>
    match items[index]? with
    | none => throw (.internal (.itemMissing (g.describe p)))
    | some inner => do
      let pre ← g.emitRuns (items.take index)
      let post ← g.emitRuns (items.drop (index + 1))
      pure (pre, inner, post)
  | p => throw (.internal (.notPick (g.describe p)))

end Grammar

/-! ## Nodes and fields -/

namespace Parser

/-- Whether the parser is a transform of one token, markers aside. -/
def wrapsOneToken : Parser → Bool
  | transform _ _ _ items =>
    match items.filter (!·.isNoBacktrack) with
    | [p] => p.isToken
    | _ => false
  | _ => false

end Parser

namespace RegularUnparser

/-- The unparser of a row: a run, and the fields, each with the run after it. -/
def ofRow (node : NodeId) (lead : TokenRun) (filled : List (FieldUnparser × TokenRun)) :
    RegularUnparser :=
  let runs := filled.map (·.2)
  { node, pre := lead, fields := filled.map (·.1), inter := runs.dropLast
    post := runs.getLast?.getD [] }

end RegularUnparser

namespace Grammar

/-- Refuses a branch of a choice unless it can be unparsed, by `derive`, as every type of node that
it builds.  References are checked where their rules are, and error nodes are never unparsed. -/
def checkBranch (g : Grammar) (branch : Parser) (derive : NodeId → Interning NodeUnparser) :
    Interning Unit :=
  match branch with
  | .defer .. | .skip .. => pure ()
  | .optBool _ _ alternatives => do
    let _ ← derive alternatives.present
    let _ ← derive alternatives.absent
    pure ()
  | branch =>
    match g.yield branch with
    | .node node =>
      if g.nodes.isConcrete node then do
        let _ ← derive node
        pure ()
      else
        throw (.unsupportedParser (g.site branch))
    | .token | .nothing => throw (.unsupportedField (g.site branch))

mutual

/-- The unparser of a node of type `node` that the parser builds. -/
def deriveNode (g : Grammar) (node : NodeId) (p : Parser) : Interning NodeUnparser :=
  if !g.nodes.isConcrete node then
    throw (.internal (.notConcrete (g.nodes.name node)))
  else if g.nodes.isTokenNode node then
    if p.unwrap.wrapsOneToken then
      pure (.tokenNode node)
    else
      throw (.unsupportedTokenNode (g.site p.unwrap))
  else
    match p with
    | .transform id type rowId items => do
      let description := g.describe (.transform id type rowId items)
      let name := g.nodes.name node
      let blank := RegularUnparser.blank g.nodes node
      let (lead, filled) ←
        g.fillRow (.internal (.moreFields description name)) blank.fields items
      if filled.length != blank.fields.length then
        throw (.internal (.fewerFields description filled.length name blank.fields.length))
      pure (.regular (.ofRow node lead filled))
    | .list _ _ _ none => pure (.list ⟨node, none⟩)
    | .list _ _ _ (some separator) => do
      let token ← TokenTable.internParser g separator
      pure (.list ⟨node, some token⟩)
    | .optBool _ inner alternatives =>
      let blank := RegularUnparser.blank g.nodes node
      if node = alternatives.present then do
        let pre ← g.emitRun inner
        pure (.regular { blank with pre })
      else
        pure (.regular blank)
    | .opt _ inner _ => g.deriveNode node inner
    | .null .. => pure (.null node)
    | .dontSkip _ (.dontSkip id inner) => throw (.unsupportedParser (g.site (.dontSkip id inner)))
    | .dontSkip _ inner => g.deriveNode node inner
    | p => throw (.unsupportedParser (g.site p))

/-- The items of a row, split around the fields that are still to be filled: the run before the
first field, and the fields, each with the run after it.  More results than fields are refused as
`overflow`. -/
def fillRow (g : Grammar) (overflow : Problem) (fields : List FieldUnparser) :
    List Parser → Interning (TokenRun × List (FieldUnparser × TokenRun))
  | [] => pure ([], [])
  | p :: ps =>
    if p.discards then do
      let run ← g.emitRun p
      let (lead, filled) ← g.fillRow overflow fields ps
      pure (run ++ lead, filled)
    else
      match fields with
      | [] => throw overflow
      | field :: fields => do
        let field ← g.emitField p field
        let (after, filled) ← g.fillRow overflow fields ps
        pure ([], (field, after) :: filled)

/-- The field, completed with what its parser tells. -/
def emitField (g : Grammar) (p : Parser) (field : FieldUnparser) : Interning FieldUnparser :=
  match p with
  | .defer .. | .list .. | .transform .. | .optBool .. => pure { field with alwaysAbsent := false }
  | .null .. => pure field
  | .opt _ inner _ => g.emitField inner { field with alwaysAbsent := false }
  | .choice _ branches => do
    g.checkBranches branches
    pure { field with alwaysAbsent := false }
  | .pick id rowId items index => do
    let (pre, _, post) ← g.splitPick (.pick id rowId items index)
    g.emitPicked items index
      { field with alwaysAbsent := false, pre := field.pre ++ pre, post := post ++ field.post }
  | .dontSkip _ (.dontSkip id inner) => throw (.unsupportedField (g.site (.dontSkip id inner)))
  | .dontSkip _ inner => g.emitField inner field
  | p => throw (.unsupportedField (g.site p))

/-- Companion of `emitField` on the items of a row: the item at an index completes the field. -/
def emitPicked (g : Grammar) : List Parser → Nat → FieldUnparser → Interning FieldUnparser
  | [], _, field => pure field
  | p :: _, 0, field => g.emitField p field
  | _ :: ps, n + 1, field => g.emitPicked ps n field

/-- Refuses the branches of a choice unless each can be unparsed on its own. -/
def checkBranches (g : Grammar) : List Parser → Interning Unit
  | [] => pure ()
  | .dontSkip _ branch :: ps => do
    g.checkBranch branch fun node => g.deriveNode node branch
    g.checkBranches ps
  | branch :: ps => do
    g.checkBranch branch fun node => g.deriveNode node branch
    g.checkBranches ps

end

end Grammar

/-- How an attempt to derive an unparser ended. -/
inductive Derivation where
  | derived (unparser : NodeUnparser)
  /-- The parser has a shape that no unparser fits. -/
  | unsupported (problem : Problem)
  /-- Unparsers had been given up before, and nothing was tried. -/
  | aborted
  deriving DecidableEq, Repr

namespace Derivation

/-- An attempt to derive an unparser, unless unparsers have been given up. -/
def attempt (enabled : Bool) (derive : Interning NodeUnparser) (t : TokenTable) :
    Derivation × TokenTable :=
  if enabled then
    match derive t with
    | .ok unparser t => (derived unparser, t)
    | .error problem t => (unsupported problem, t)
  else
    (aborted, t)

/-- The unparser, none if nothing was tried. -/
def result : Derivation → Except Problem (Option NodeUnparser)
  | derived unparser => .ok (some unparser)
  | unsupported problem => .error problem
  | aborted => .ok none

/-- Where unparsers have been given up nothing is tried. -/
@[simp] theorem attempt_false (derive : Interning NodeUnparser) (t : TokenTable) :
    attempt false derive t = (aborted, t) := rfl

end Derivation

end Unparsing
