import Unparsing.Grammar.Basic
import Unparsing.Problem

/-!
# Token/Table — the tokens that unparsers write, each held once

A token that is written is identified by its kind and, where the kind leaves the text open, its
text; an empty text counts as none.  A `TokenTable` holds each identity once, in the order of first
use, with the text that is written for it.  Tokens of different identities may be written alike:
`TokenTable.equivalent` compares what is written.

* `TokenTable.intern` — the number of an identity, added at the end if it is new.  A kind's literal
  and a text of its own exclude each other, and one of them must be there (`TokenKinds.wording`).
* `TokenTable.sorted` — the table in the order of what is written.
-/

namespace Unparsing

/-- What makes a token: its kind, and its text where the kind leaves it open. -/
structure TokenIdentity where
  kind : KindId
  matchText : Option String
  deriving DecidableEq, Repr

namespace TokenIdentity

/-- The identity of a token matched with a text; an empty text counts as none. -/
def of (kind : KindId) (text : Option String) : TokenIdentity := ⟨kind, text.filter (· != "")⟩

end TokenIdentity

/-- A token that unparsers write. -/
structure TokenUnparser extends TokenIdentity where
  /-- What is written. -/
  text : String
  deriving DecidableEq, Repr

namespace TokenUnparser

/-- The order of what is written, then of kinds, then of texts of their own. -/
def le (a b : TokenUnparser) : Bool :=
  (compareLex (compareOn (·.text)) (compareLex (compareOn (·.kind.raw)) (compareOn (·.matchText)))
    a b).isLE

end TokenUnparser

/-- What is written for an identity: the literal of its kind or its own text, not both. -/
def TokenKinds.wording (ks : TokenKinds) (identity : TokenIdentity) : Except Fault String :=
  match ks.literal? identity.kind, identity.matchText with
  | some literal, none => .ok literal
  | none, some text => .ok text
  | some _, some _ => .error (.textOfLiteral (ks.name identity.kind))
  | none, none => .error (.textMissing (ks.name identity.kind))

/-- The tokens that unparsers write, in the order of first use. -/
structure TokenTable where
  tokens : Array TokenUnparser := #[]
  deriving DecidableEq, Repr, Inhabited

/-- A computation that may add tokens to the table, and keeps them when it fails. -/
abbrev Interning := EStateM Problem TokenTable

namespace TokenTable

/-- The number of tokens. -/
def size (t : TokenTable) : Nat := t.tokens.size

/-- Whether the table has no token. -/
def isEmpty (t : TokenTable) : Bool := t.tokens.isEmpty

/-- The tokens, in the order in which they were first requested. -/
def ids (t : TokenTable) : List TokenId := Index.upTo t.size

/-- The token of a number. -/
def get? (t : TokenTable) (id : TokenId) : Option TokenUnparser := t.tokens[id.raw]?

/-- What is written for a token, nothing for a number that no token has. -/
def text (t : TokenTable) (id : TokenId) : String := ((t.get? id).map (·.text)).getD ""

/-- The number of an identity. -/
def find? (t : TokenTable) (identity : TokenIdentity) : Option TokenId :=
  (t.tokens.findIdx? (·.toTokenIdentity == identity)).map Index.mk

/-- The number of an identity, added now if it is new. -/
def intern (ks : TokenKinds) (identity : TokenIdentity) : Interning TokenId := fun t =>
  match t.find? identity with
  | some id => .ok id t
  | none =>
    match ks.wording identity with
    | .ok text => .ok ⟨t.size⟩ ⟨t.tokens.push { identity with text }⟩
    | .error fault => .error (.internal fault) t

/-- The number of the token that a parser matches. -/
def internParser (g : Grammar) (p : Parser) : Interning TokenId :=
  match p with
  | .token _ kind text => intern g.kinds (.of kind text)
  | p => throw (.internal (.notToken (g.describe p)))

/-- Whether two optional tokens are written alike.  None is like none only. -/
def equivalent (t : TokenTable) : Option TokenId → Option TokenId → Bool
  | some a, some b => t.text a == t.text b
  | none, none => true
  | _, _ => false

/-- What is written for an optional token, as reports show it. -/
def textOrNone (t : TokenTable) (id : Option TokenId) : String := id.elim "<none>" t.text

/-- The tokens in the order of what is written. -/
def sorted (t : TokenTable) : List TokenId :=
  t.ids.mergeSort fun a b =>
    match t.get? a, t.get? b with
    | some a, some b => a.le b
    | _, _ => true

/-- What is written for the tokens, a line each, in that order. -/
def listing (t : TokenTable) : String := String.join (t.sorted.map fun id => t.text id ++ "\n")

/-- An identity that is in the table keeps its number, and the table is left as it is. -/
theorem intern_of_find? {ks : TokenKinds} {identity : TokenIdentity} {t : TokenTable} {id : TokenId}
    (h : t.find? identity = some id) : intern ks identity t = .ok id t := by
  simp [intern, h]

end TokenTable

end Unparsing
