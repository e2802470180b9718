import Unparsing.Diagnostic.Basic

/-!
# Problem — why a grammar has no unparsers

A problem is a construct of a grammar that no unparser fits, or two producers of a node type that
disagree.  The first one ends the derivation.  `Problem.message` words it, and `Problem.diagnostic`
is its report.

Problems that the parts of a grammar's description should have ruled out are `Fault`s: they are
reported as internal errors.
-/

namespace Unparsing

/-- A parser as a report shows it: its description and its place. -/
structure Site where
  text : String
  span : Span
  deriving DecidableEq, Repr

/-- An invariant that does not hold. -/
inductive Fault where
  /-- A token of a kind with a literal was given a text of its own. -/
  | textOfLiteral (kind : String)
  /-- A token of a kind without a literal was given no text. -/
  | textMissing (kind : String)
  /-- A parser is not a token. -/
  | notToken (parser : String)
  /-- A parser is not a pick. -/
  | notPick (parser : String)
  /-- A pick has no item at its index. -/
  | itemMissing (parser : String)
  /-- What a transform holds is not a row. -/
  | notRow (parser : String)
  /-- An unparser was asked for a node type that no parser builds. -/
  | notConcrete (node : String)
  /-- A transform has more results than its node type has fields. -/
  | moreFields (parser node : String)
  /-- A transform has fewer results than its node type has fields. -/
  | fewerFields (parser : String) (parsed : Nat) (node : String) (declared : Nat)
  /-- Two field unparsers are not of the same field. -/
  | fieldsDiffer (left right : String)
  /-- Two unparsers of a node type have different numbers of fields. -/
  | widthsDiffer (node : String)
  /-- Two unparsers are of different shapes. -/
  | shapesDiffer (left right : String)
  /-- A rule has no root. -/
  | ruleUndefined (rule : String)
  /-- All unparsers of a node type stand for absent nodes. -/
  | onlyNull (node : String)
  deriving DecidableEq, Repr

/-- The fault in words. -/
def Fault.message : Fault → String
  | textOfLiteral kind => s!"token {kind} has a literal and cannot take match text"
  | textMissing kind => s!"token {kind} has no literal, match text is required"
  | notToken parser => s!"token parser expected, got {parser}"
  | notPick parser => s!"extract parser expected, got {parser}"
  | itemMissing parser => s!"{parser} extracts a missing element"
  | notRow parser => s!"{parser} does not wrap a row"
  | notConcrete node => s!"Invalid unparser request for {node}"
  | moreFields parser node => s!"{parser} parses more fields than {node} declares"
  | fewerFields parser parsed node declared =>
    s!"{parser} parses {parsed} fields, {node} declares {declared}"
  | fieldsDiffer left right => s!"cannot combine unparsers of fields {left} and {right}"
  | widthsDiffer node => s!"unparsers for {node} disagree on the number of fields"
  | shapesDiffer left right => s!"Incompatible unparsers:\n{left}\n... and...\n{right}"
  | ruleUndefined rule => s!"rule '{rule}' is declared but never defined"
  | onlyNull node => s!"No non-null unparser for non-synthetic node: {node}"

/-- Why a grammar has no unparsers. -/
inductive Problem where
  /-- A parser of nodes has a shape that no node unparser fits. -/
  | unsupportedParser (site : Site)
  /-- A token node is built by something else than a transform of one token. -/
  | unsupportedTokenNode (site : Site)
  /-- The parser of a field has a shape that no field unparser fits. -/
  | unsupportedField (site : Site)
  /-- A parser whose result is thrown away does not match a fixed run of tokens. -/
  | tokensExpected (site : Site)
  /-- Two producers have different tokens in one place. -/
  | inconsistentTokens (role left right : String)
  /-- Two producers of a list separate its elements differently. -/
  | inconsistentSeparator (node left right : String)
  /-- A rule drops what it parsed. -/
  | topLevelLoss (rule : String) (span : Span)
  | internal (fault : Fault)
  deriving DecidableEq, Repr

namespace Problem

/-- The code under which a problem is reported. -/
def code : Problem → Code
  | unsupportedParser .. => .unsupportedParser
  | unsupportedTokenNode .. => .unsupportedTokenNode
  | unsupportedField .. => .unsupportedField
  | tokensExpected .. => .tokensExpected
  | inconsistentTokens .. => .inconsistentTokens
  | inconsistentSeparator .. => .inconsistentSeparator
  | topLevelLoss .. => .topLevelLoss
  | internal .. => .internal

/-- The problem in words. -/
def message : Problem → String
  | unsupportedParser site => "Unsupported parser for unparsers generation: " ++ site.text
  | unsupportedTokenNode site =>
    "Unsupported token node parser for unparsers generation: " ++ site.text
  | unsupportedField site => "Unsupported parser for node field: " ++ site.text
  | tokensExpected site => "Static sequence of tokens expected, but got: " ++ site.text
  | inconsistentTokens role left right => s!"Inconsistent {role}:\n  {left}\nand:\n  {right}"
  | inconsistentSeparator node left right =>
    s!"Inconsistent separation token for {node}: {left} and {right}"
  | topLevelLoss .. => "Top-level information loss prevents unparsers generation"
  | internal fault => "internal error: " ++ fault.message

/-- The place of the parser that the problem is tied to. -/
def span? : Problem → Option Span
  | unsupportedParser site | unsupportedTokenNode site | unsupportedField site
  | tokensExpected site => some site.span
  | topLevelLoss _ span => some span
  | inconsistentTokens .. | inconsistentSeparator .. | internal .. => none

/-- What the report says at the place of the problem. -/
def labelText : Problem → String
  | tokensExpected .. => "expected only tokens here"
  | topLevelLoss .. => "elements dropped here"
  | _ => "in this parser"

/-- What the report adds at its end. -/
def notes : Problem → List String
  | topLevelLoss rule _ =>
    [s!"rule '{rule}' drops parsed elements other than a trailing termination token"]
  | inconsistentTokens .. | inconsistentSeparator .. =>
    ["every rule producing a node type must use the same tokens"]
  | internal .. => ["this is a bug in the unparser generator"]
  | unsupportedParser .. | unsupportedTokenNode .. | unsupportedField .. | tokensExpected .. => []

/-- The report of a problem. -/
def diagnostic (p : Problem) : Diagnostic where
  code := p.code
  severity := .error
  message := p.message
  labels := p.span?.toList.map fun span => ⟨span, p.labelText, true⟩
  notes := p.notes

/-- A problem is reported as an error. -/
@[simp] theorem isError_diagnostic (p : Problem) : p.diagnostic.isError = true := rfl

end Problem

end Unparsing
