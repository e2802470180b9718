import Unparsing.Index

/-!
# Diagnostic/Basic — what is reported to the author of a grammar

A diagnostic has a code, a severity and a message, labels that point into the grammar's text, and
notes.  `Diagnostic.text` is the report, a line for the message, for each label and for each note.

A code is a letter and four digits: `E3…` for unparsers that cannot be derived, `E9…` for faults of
the derivation itself, `W3…` for warnings.  `Code.ofText?` reads a code back, its letter in either
case.  A warning is reported only if its category is in the set that the user enables
(`WarningSet`).  All of them are by default.
-/

namespace Unparsing

/-! ## Codes -/

/-- What a report is about. -/
inductive Code where
  /-- A combinator shape that no node unparser fits. -/
  | unsupportedParser
  /-- A token node built by something else than one token. -/
  | unsupportedTokenNode
  /-- A combinator shape that no field unparser fits. -/
  | unsupportedField
  /-- A fixed run of tokens expected. -/
  | tokensExpected
  /-- Token runs that differ between two producers. -/
  | inconsistentTokens
  /-- List separators that differ between two producers. -/
  | inconsistentSeparator
  /-- A rule that drops what it parsed. -/
  | topLevelLoss
  /-- An invariant that does not hold. -/
  | internal
  /-- A concrete node type that no parser builds. -/
  | unusedNodeType
  /-- A grammar too irregular for unparsers. -/
  | badGrammar
  deriving DecidableEq, Repr

namespace Code

/-- Every code, in order. -/
def all : List Code :=
  [unsupportedParser, unsupportedTokenNode, unsupportedField, tokensExpected, inconsistentTokens,
    inconsistentSeparator, topLevelLoss, internal, unusedNodeType, badGrammar]

/-- The code as reports show it. -/
def text : Code → String
  | unsupportedParser => "E3001"
  | unsupportedTokenNode => "E3002"
  | unsupportedField => "E3003"
  | tokensExpected => "E3004"
  | inconsistentTokens => "E3005"
  | inconsistentSeparator => "E3006"
  | topLevelLoss => "E3007"
  | internal => "E9001"
  | unusedNodeType => "W3001"
  | badGrammar => "W3002"

/-- What the code is about, in one line. -/
def description : Code → String
  | unsupportedParser => "unsupported parser for unparsers generation"
  | unsupportedTokenNode => "unsupported token node parser for unparsers generation"
  | unsupportedField => "unsupported parser for node field"
  | tokensExpected => "static sequence of tokens expected"
  | inconsistentTokens => "inconsistent token sequences"
  | inconsistentSeparator => "inconsistent separation token"
  | topLevelLoss => "top-level information loss prevents unparsers generation"
  | internal => "internal compiler error"
  | unusedNodeType => "node type has no parser"
  | badGrammar => "grammar prevents automatic unparser generation"

/-- Whether the code is about unparsers that cannot be derived. -/
def isUnparserError : Code → Bool
  | unsupportedParser | unsupportedTokenNode | unsupportedField | tokensExpected
  | inconsistentTokens | inconsistentSeparator | topLevelLoss => true
  | internal | unusedNodeType | badGrammar => false

/-- Whether the code is that of an internal error. -/
def isInternalError (c : Code) : Bool := c == internal

/-- Whether the code is that of a warning. -/
def isWarning : Code → Bool
  | unusedNodeType | badGrammar => true
  | _ => false

/-- The code with that text, its letter in either case. -/
def ofText? (s : String) : Option Code := all.find? (·.text == s.toUpper)

/-- Every code is listed. -/
theorem mem_all (c : Code) : c ∈ all := by cases c <;> simp [all]

end Code

/-! ## Warnings -/

/-- A category of warnings. -/
inductive Warning where
  /-- A concrete node type that no rule produces. -/
  | unusedNodeType
  /-- A grammar whose shape prevents unparsers. -/
  | badGrammar
  deriving DecidableEq, Repr

namespace Warning

/-- Every category, in the order in which sets of them are written. -/
def all : List Warning := [unusedNodeType, badGrammar]

/-- The name by which users select the category. -/
def optionName : Warning → String
  | unusedNodeType => "unused-node-type"
  | badGrammar => "unparser-bad-grammar"

/-- The name of the category in a set. -/
def flagName : Warning → String
  | unusedNodeType => "UNUSED_NODE_TYPE"
  | badGrammar => "UNPARSER_BAD_GRAMMAR"

/-- The category's bit in a set written as a number. -/
def bit : Warning → Nat
  | unusedNodeType => 1
  | badGrammar => 2

/-- The category of that option. -/
def ofOptionName? (name : String) : Option Warning := all.find? (·.optionName == name)

/-- The category of that flag name. -/
def ofFlagName? (name : String) : Option Warning := all.find? (·.flagName == name)

end Warning

/-- A set of categories of warnings. -/
structure WarningSet where
  unusedNodeType : Bool
  badGrammar : Bool
  deriving DecidableEq, Repr

namespace WarningSet

/-- All categories. -/
def all : WarningSet := ⟨true, true⟩

/-- No category. -/
def none : WarningSet := ⟨false, false⟩

instance : Inhabited WarningSet := ⟨all⟩

/-- Whether a category is in the set. -/
def has (s : WarningSet) : Warning → Bool
  | .unusedNodeType => s.unusedNodeType
  | .badGrammar => s.badGrammar

/-- The set of the categories listed. -/
def ofList (ws : List Warning) : WarningSet :=
  ⟨ws.contains .unusedNodeType, ws.contains .badGrammar⟩

/-- The categories in the set, in the order in which they are listed. -/
def toList (s : WarningSet) : List Warning := Warning.all.filter s.has

/-- Whether every category in `t` is in `s`. -/
def contains (s t : WarningSet) : Bool := Warning.all.all fun w => !t.has w || s.has w

/-- The categories that are in one of two sets. -/
def union (s t : WarningSet) : WarningSet :=
  ⟨s.unusedNodeType || t.unusedNodeType, s.badGrammar || t.badGrammar⟩

/-- The categories in `s` that are not in `t`. -/
def diff (s t : WarningSet) : WarningSet :=
  ⟨s.unusedNodeType && !t.unusedNodeType, s.badGrammar && !t.badGrammar⟩

/-- The set as a number, a bit for each category. -/
def bits (s : WarningSet) : Nat := s.toList.foldl (fun bits w => bits + w.bit) 0

/-- A set has the categories of the list it is made of. -/
@[simp] theorem has_ofList (ws : List Warning) (w : Warning) :
    (ofList ws).has w = ws.contains w := by
  cases w <;> rfl

/-- A set contains that of one category just if it has the category. -/
@[simp] theorem contains_ofList_singleton (s : WarningSet) (w : Warning) :
    s.contains (ofList [w]) = s.has w := by
  cases w <;> simp [contains, Warning.all]

/-- A category is in a union if it is in one of the sets. -/
@[simp] theorem has_union (s t : WarningSet) (w : Warning) :
    (s.union t).has w = (s.has w || t.has w) := by
  cases w <;> rfl

/-- A category is in a difference if it is in the first set only. -/
@[simp] theorem has_diff (s t : WarningSet) (w : Warning) :
    (s.diff t).has w = (s.has w && !t.has w) := by
  cases w <;> rfl

end WarningSet

/-! ## Diagnostics -/

/-- How serious a report is.  Only errors end a derivation. -/
inductive Severity where
  | error
  | warning
  | note
  deriving DecidableEq, Repr

/-- The severity as a report shows it. -/
def Severity.text : Severity → String
  | error => "error"
  | warning => "warning"
  | note => "note"

/-- A remark on a place in the grammar's text. -/
structure Label where
  span : Span
  message : String
  /-- Whether the place is the one that the diagnostic is about, or only related to it. -/
  primary : Bool
  deriving DecidableEq, Repr

/-- A label as a line of a report. -/
def Label.text (l : Label) : String :=
  (if l.primary then "\n  --> " else "\n      ") ++ l.span.text ++ ": " ++ l.message

/-- A finding about a grammar. -/
structure Diagnostic where
  code : Code
  severity : Severity
  message : String := ""
  labels : List Label := []
  notes : List String := []
  deriving DecidableEq, Repr

namespace Diagnostic

/-- The place that the diagnostic is about: that of its first primary label. -/
def primarySpan? (d : Diagnostic) : Option Span := (d.labels.find? (·.primary)).map (·.span)

/-- Whether an error is reported. -/
def isError (d : Diagnostic) : Bool := d.severity == .error

/-- Whether a warning is reported. -/
def isWarning (d : Diagnostic) : Bool := d.severity == .warning

/-- The report. -/
def text (d : Diagnostic) : String :=
  d.severity.text ++ " [" ++ d.code.text ++ "]: " ++ d.message ++
    String.join (d.labels.map Label.text) ++ String.join (d.notes.map ("\n  = note: " ++ ·))

end Diagnostic

end Unparsing
