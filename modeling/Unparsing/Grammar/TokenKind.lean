import Unparsing.Index

/-!
# Grammar/TokenKind — the lexical categories of a language

A token kind that always matches the same text (a keyword, a punctuation mark) has that text as its
`literal`; a kind without one (an identifier, a number) leaves the text to each use of it.

* Names are unique: declaring a name again answers the kind that has it, unchanged.
* Kind 0 is `Termination`, the end of the input.
-/

namespace Unparsing

/-- A lexical category. -/
structure TokenKind where
  name : String
  /-- The text of the kind, where it is always the same. -/
  literal : Option String
  deriving DecidableEq, Repr

/-- The end of the input. -/
def KindId.termination : KindId := ⟨0⟩

/-- The token kinds of a language, in order of declaration. -/
structure TokenKinds where
  kinds : Array TokenKind := #[⟨"Termination", none⟩]
  deriving DecidableEq, Repr

namespace TokenKinds

instance : Inhabited TokenKinds := ⟨{}⟩

/-- The number of token kinds. -/
def size (ks : TokenKinds) : Nat := ks.kinds.size

/-- The token kinds, in order of declaration. -/
def ids (ks : TokenKinds) : List KindId := Index.upTo ks.size

/-- The token kind of a number. -/
def get? (ks : TokenKinds) (id : KindId) : Option TokenKind := ks.kinds[id.raw]?

/-- The name of a kind, empty for a number that no kind has. -/
def name (ks : TokenKinds) (id : KindId) : String := ((ks.get? id).map (·.name)).getD ""

/-- The text of a kind that always matches the same one. -/
def literal? (ks : TokenKinds) (id : KindId) : Option String := (ks.get? id).bind (·.literal)

/-- The kind of that name. -/
def find? (ks : TokenKinds) (name : String) : Option KindId :=
  (ks.kinds.findIdx? (·.name == name)).map Index.mk

/-- The kind of that name, declared now if there is none. -/
def declare (ks : TokenKinds) (name : String) (literal : Option String) : KindId × TokenKinds :=
  match ks.find? name with
  | some id => (id, ks)
  | none => (⟨ks.size⟩, ⟨ks.kinds.push ⟨name, literal⟩⟩)

/-- A kind that always matches `text`. -/
def declareLiteral (ks : TokenKinds) (name text : String) : KindId × TokenKinds :=
  ks.declare name (some text)

/-- A kind whose text varies. -/
def declarePattern (ks : TokenKinds) (name : String) : KindId × TokenKinds :=
  ks.declare name none

end TokenKinds

end Unparsing
