/-!
# Index — what was declared, and where

Parsers, rules, node types, fields, token kinds and tokens are all named by the place they were
declared at, counted from zero.  The entity is part of the number's type, so a rule's number cannot
be used where a parser's is meant.

* `Index.unassigned` is the largest 32-bit number.  It stands for a thing that is still to be
  declared, and is the default.
* `Span` — the stretch of the grammar's text that declares a parser.

Numbers have no bound here.  Numbers of 32 bits agree with them as long as there are fewer than
2³² - 1 things of a sort; beyond that they saturate, and several things share a number.  So what is
proved of grammars and tables of that size holds of unbounded numbers only.
-/

namespace Unparsing

/-- The sorts of things that are numbered. -/
inductive Entity where
  | parser
  | rule
  | nodeType
  | field
  | tokenKind
  | token
  deriving DecidableEq, Repr

namespace Entity

/-- The name under which an entity's numbers are shown. -/
def indexName : Entity → String
  | parser => "ParserId"
  | rule => "RuleId"
  | nodeType => "NodeTypeId"
  | field => "FieldId"
  | tokenKind => "TokenKindId"
  | token => "TokenUnparserId"

end Entity

/-- The number of a declared thing: its place among the things of its sort. -/
structure Index (entity : Entity) where
  raw : Nat
  deriving DecidableEq, Repr, Ord

/-- The number of a parser of a grammar. -/
abbrev ParserId := Index .parser
/-- The number of a rule of a grammar. -/
abbrev RuleId := Index .rule
/-- The number of a node type. -/
abbrev NodeId := Index .nodeType
/-- The number of a field, counted over all node types. -/
abbrev FieldId := Index .field
/-- The number of a token kind. -/
abbrev KindId := Index .tokenKind
/-- The number of a token in a table of tokens. -/
abbrev TokenId := Index .token

namespace Index

variable {entity : Entity}

/-- The number of a thing that is still to be declared. -/
def unassigned : Index entity := ⟨4294967295⟩

instance : Inhabited (Index entity) := ⟨unassigned⟩

/-- Whether the number names a declared thing. -/
def isAssigned (i : Index entity) : Bool := i != unassigned

/-- The number with the name of its sort, as in `RuleId(3)`. -/
def label (i : Index entity) : String :=
  if i.isAssigned then
    entity.indexName ++ "(" ++ toString i.raw ++ ")"
  else
    entity.indexName ++ "::INVALID"

/-- The numbers of the first `count` things, in order of declaration. -/
def upTo (count : Nat) : List (Index entity) := (List.range count).map Index.mk

/-- A thing is declared if its number is below their count. -/
@[simp] theorem mem_upTo {count : Nat} {i : Index entity} : i ∈ upTo count ↔ i.raw < count := by
  cases i
  simp [upTo]

/-- There are as many numbers as things. -/
@[simp] theorem length_upTo (count : Nat) : (upTo count : List (Index entity)).length = count := by
  simp [upTo]

end Index

/-! ## Places in the text

A span is a pair of byte offsets, its end excluded.  Spans may be written backwards, and then they
are empty. -/

/-- A stretch of the grammar's text, in byte offsets, `stop` excluded. -/
structure Span where
  start : Nat
  stop : Nat
  deriving DecidableEq, Repr

namespace Span

/-- The span of a parser that no text declares. -/
def dummy : Span := ⟨0, 0⟩

instance : Inhabited Span := ⟨dummy⟩

/-- The number of bytes covered, none for a span written backwards. -/
def length (s : Span) : Nat := s.stop - s.start

/-- Whether no byte is covered. -/
def isEmpty (s : Span) : Bool := s.stop ≤ s.start

/-- Whether the span is that of a parser that no text declares. -/
def isDummy (s : Span) : Bool := s == dummy

/-- The smallest span that covers both. -/
def merge (s t : Span) : Span := ⟨min s.start t.start, max s.stop t.stop⟩

/-- The span as reports show it, as in `3..7`. -/
def text (s : Span) : String := toString s.start ++ ".." ++ toString s.stop

end Span

end Unparsing
