import Unparsing.Grammar.NodeType
import Unparsing.Grammar.TokenKind

/-!
# Grammar/Parser — parser combinators as trees

A parser is a tree of combinators.  Every combinator carries its number in the grammar that declares
it, and refers to rules, not to their roots, so recursive grammars are finite trees.  `transform`
and `pick` carry the items of the row they stand for, and the row's number.

* `Parser.children` — the parsers directly inside a parser.
* `Parser.discards` — whether a row throws the parser's result away.
* `Parser.unwrap` — one layer of `dontSkip` taken off.
* `Parser.induction` — a property of every parser, from that of the parsers directly inside it.

A traversal of the tree comes with a companion on the lists of parsers inside it, and a lemma that
says what the companion is in the library of lists.
-/

namespace Unparsing

/-- A parser combinator. -/
inductive Parser where
  /-- The results of the items, one after the other. -/
  | row (id : ParserId) (items : List Parser)
  /-- A node built from the row of the items, one result for each field. -/
  | transform (id : ParserId) (node : NodeId) (rowId : ParserId) (items : List Parser)
  /-- The result of one item of a row, the others dropped. -/
  | pick (id : ParserId) (rowId : ParserId) (items : List Parser) (index : Nat)
  /-- A list node. -/
  | list (id : ParserId) (node : NodeId) (element : Parser) (separator : Option Parser)
  /-- The inner result or none.  If `tolerant`, a missing match is reported, and parsing goes on as
  if it were there. -/
  | opt (id : ParserId) (inner : Parser) (tolerant : Bool)
  /-- A node that tells whether the inner parser matched. -/
  | optBool (id : ParserId) (inner : Parser) (alternatives : BoolAlternatives)
  /-- The result of the first branch that matches. -/
  | choice (id : ParserId) (branches : List Parser)
  /-- What a rule yields. -/
  | defer (id : ParserId) (rule : RuleId)
  /-- A token, with its text if the kind leaves it open. -/
  | token (id : ParserId) (kind : KindId) (text : Option String)
  /-- An absent node, matching nothing. -/
  | null (id : ParserId) (node : NodeId)
  /-- The inner result, if it passes a check. -/
  | predicate (id : ParserId) (inner : Parser) (property : String)
  /-- An error node, made up while recovering. -/
  | skip (id : ParserId) (node : NodeId)
  /-- Nothing: from here on the row does not backtrack. -/
  | noBacktrack (id : ParserId)
  /-- The inner result; recovery does not skip past it. -/
  | dontSkip (id : ParserId) (inner : Parser)

/-- The shape of a combinator, without what it holds. -/
inductive ParserKind where
  | row
  | transform
  | pick
  | list
  | opt
  | choice
  | defer
  | token
  | null
  | predicate
  | skip
  | noBacktrack
  | dontSkip
  deriving DecidableEq, Repr

/-- The name of a kind in reports. -/
def ParserKind.name : ParserKind → String
  | row => "Row"
  | transform => "Transform"
  | pick => "Pick"
  | list => "List"
  | opt => "Opt"
  | choice => "Or"
  | defer => "Defer"
  | token => "Token"
  | null => "Null"
  | predicate => "Predicate"
  | skip => "Skip"
  | noBacktrack => "NoBacktrack"
  | dontSkip => "DontSkip"

namespace BoolAlternatives

/-- The node types that are built, the present one first. -/
def toList (a : BoolAlternatives) : List NodeId := [a.present, a.absent]

end BoolAlternatives

namespace Parser

/-- The number of the parser in its grammar. -/
def id : Parser → ParserId
  | row id .. | transform id .. | pick id .. | list id .. | opt id .. | optBool id ..
  | choice id .. | defer id .. | token id .. | null id .. | predicate id .. | skip id ..
  | noBacktrack id | dontSkip id .. => id

/-- The combinator's kind; both sorts of optionals are of one kind. -/
def kind : Parser → ParserKind
  | row .. => .row
  | transform .. => .transform
  | pick .. => .pick
  | list .. => .list
  | opt .. | optBool .. => .opt
  | choice .. => .choice
  | defer .. => .defer
  | token .. => .token
  | null .. => .null
  | predicate .. => .predicate
  | skip .. => .skip
  | noBacktrack .. => .noBacktrack
  | dontSkip .. => .dontSkip

/-- The parsers directly inside a parser.  A reference to a rule has none. -/
def children : Parser → List Parser
  | row _ items => items
  | choice _ branches => branches
  | transform _ _ rowId items | pick _ rowId items _ => [row rowId items]
  | list _ _ element separator => element :: separator.toList
  | opt _ inner _ | optBool _ inner _ | predicate _ inner _ | dontSkip _ inner => [inner]
  | defer .. | token .. | null .. | skip .. | noBacktrack .. => []

/-- Whether the parser is that of a token. -/
def isToken : Parser → Bool
  | token .. => true
  | _ => false

/-- Whether the parser is that of an absent node. -/
def isNull : Parser → Bool
  | null .. => true
  | _ => false

/-- Whether the parser is a mark from which a row does not backtrack. -/
def isNoBacktrack : Parser → Bool
  | noBacktrack .. => true
  | _ => false

/-- Whether the parser matches the end of the input. -/
def isTermination : Parser → Bool
  | token _ kind _ => kind == KindId.termination
  | _ => false

/-- The parser with one layer of `dontSkip` taken off. -/
def unwrap : Parser → Parser
  | dontSkip _ inner => inner
  | p => p

/-- The parser with all layers that do not change what is unparsed taken off. -/
def strip : Parser → Parser
  | dontSkip _ inner | predicate _ inner _ => inner.strip
  | p => p

/-! ## Induction

The items of a transform are handed over directly: the row between them is not a tree of its own. -/

theorem induction {motive : Parser → Prop}
    (row : ∀ id items, (∀ p ∈ items, motive p) → motive (.row id items))
    (transform : ∀ id node rowId items, (∀ p ∈ items, motive p) →
      motive (.transform id node rowId items))
    (pick : ∀ id rowId items index, (∀ p ∈ items, motive p) →
      motive (.pick id rowId items index))
    (list : ∀ id node element separator, motive element → (∀ p ∈ separator, motive p) →
      motive (.list id node element separator))
    (opt : ∀ id inner tolerant, motive inner → motive (.opt id inner tolerant))
    (optBool : ∀ id inner alternatives, motive inner → motive (.optBool id inner alternatives))
    (choice : ∀ id branches, (∀ p ∈ branches, motive p) → motive (.choice id branches))
    (defer : ∀ id rule, motive (.defer id rule))
    (token : ∀ id kind text, motive (.token id kind text))
    (null : ∀ id node, motive (.null id node))
    (predicate : ∀ id inner property, motive inner → motive (.predicate id inner property))
    (skip : ∀ id node, motive (.skip id node))
    (noBacktrack : ∀ id, motive (.noBacktrack id))
    (dontSkip : ∀ id inner, motive inner → motive (.dontSkip id inner)) (p : Parser) :
    motive p := by
  have ih (q : Parser) (_ : sizeOf q < sizeOf p) : motive q :=
    induction row transform pick list opt optBool choice defer token null predicate skip
      noBacktrack dontSkip q
  have mem {items : List Parser} (h : sizeOf items < sizeOf p) : ∀ q ∈ items, motive q :=
    fun q hq => ih q (Nat.lt_trans (List.sizeOf_lt_of_mem hq) h)
  cases p with
  | row id items => exact row id items (mem (by simp +arith))
  | transform id node rowId items => exact transform id node rowId items (mem (by simp +arith))
  | pick id rowId items index => exact pick id rowId items index (mem (by simp +arith))
  | list id node element separator =>
    refine list id node element separator (ih _ (by simp +arith)) fun q hq => ih q ?_
    obtain rfl := Option.mem_def.mp hq
    simp +arith
  | opt id inner tolerant => exact opt id inner tolerant (ih _ (by simp +arith))
  | optBool id inner alternatives => exact optBool id inner alternatives (ih _ (by simp +arith))
  | choice id branches => exact choice id branches (mem (by simp +arith))
  | defer id rule => exact defer id rule
  | token id kind text => exact token id kind text
  | null id node => exact null id node
  | predicate id inner property => exact predicate id inner property (ih _ (by simp +arith))
  | skip id node => exact skip id node
  | noBacktrack id => exact noBacktrack id
  | dontSkip id inner => exact dontSkip id inner (ih _ (by simp +arith))
termination_by sizeOf p

/-! ## Size -/

mutual

/-- The number of combinators in the tree, the rows of transforms and picks included. -/
def size : Parser → Nat
  | row _ items | choice _ items => sizeAll items + 1
  | transform _ _ _ items | pick _ _ items _ => sizeAll items + 2
  | list _ _ element none => element.size + 1
  | list _ _ element (some separator) => element.size + separator.size + 1
  | opt _ inner _ | optBool _ inner _ | predicate _ inner _ | dontSkip _ inner => inner.size + 1
  | defer .. | token .. | null .. | skip .. | noBacktrack .. => 1

/-- Companion of `size` on a list of parsers. -/
def sizeAll : List Parser → Nat
  | [] => 0
  | p :: ps => p.size + sizeAll ps

end

/-- A parser counts itself and what is directly inside it. -/
theorem size_eq (p : Parser) : p.size = sizeAll p.children + 1 := by
  cases p with
  | list id node element separator => cases separator <;> simp +arith [size, sizeAll, children]
  | _ => simp +arith [size, sizeAll, children]

/-- Every parser has a size. -/
theorem size_pos (p : Parser) : 0 < p.size := by
  rw [size_eq]
  exact Nat.succ_pos _

/-- A list is at least as large as each of its parsers. -/
theorem size_le_of_mem {p : Parser} {ps : List Parser} (h : p ∈ ps) : p.size ≤ sizeAll ps := by
  induction h with
  | head ps =>
    rw [sizeAll]
    exact Nat.le_add_right _ _
  | tail q _ ih =>
    rw [sizeAll]
    exact Nat.le_trans ih (Nat.le_add_left _ _)

/-- What is inside a parser is smaller. -/
theorem size_lt_of_mem_children {p q : Parser} (h : q ∈ p.children) : q.size < p.size := by
  rw [size_eq p]
  exact Nat.lt_succ_of_le (size_le_of_mem h)

/-- A property of every parser, from that of its children, the rows of transforms and picks
included. -/
theorem children_induction {motive : Parser → Prop}
    (step : ∀ p, (∀ q ∈ p.children, motive q) → motive p) (p : Parser) : motive p := by
  induction hs : p.size using Nat.strongRecOn generalizing p with
  | ind size ih =>
    subst hs
    exact step p fun q hq => ih q.size (size_lt_of_mem_children hq) q rfl

/-! ## What a row throws away -/

mutual

/-- Whether the parser's result is thrown away when it stands in a row. -/
def discards : Parser → Bool
  | token .. | noBacktrack .. => true
  | row _ items => allDiscard items
  | opt _ inner _ | dontSkip _ inner => inner.discards
  | transform .. | pick .. | list .. | optBool .. | choice .. | defer .. | null ..
  | predicate .. | skip .. => false

/-- Companion of `discards` on the items of a row. -/
def allDiscard : List Parser → Bool
  | [] => true
  | p :: ps => p.discards && allDiscard ps

end

/-- Whether all items throw their results away is asked of each of them. -/
@[simp] theorem allDiscard_eq_all (ps : List Parser) : allDiscard ps = ps.all discards := by
  induction ps with
  | nil => rfl
  | cons p ps ih => rw [allDiscard, ih, List.all_cons]

/-- A row throws its result away if all of its items do. -/
@[simp] theorem discards_row (id : ParserId) (items : List Parser) :
    (row id items).discards = items.all discards := by
  rw [discards, allDiscard_eq_all]

/-! ## Absent nodes -/

mutual

/-- Whether an absent node occurs anywhere inside the parser. -/
def hasNull : Parser → Bool
  | null .. => true
  | row _ items | transform _ _ _ items | pick _ _ items _ => anyHasNull items
  | choice _ branches => anyHasNull branches
  | list _ _ element none => element.hasNull
  | list _ _ element (some separator) => element.hasNull || separator.hasNull
  | opt _ inner _ | optBool _ inner _ | predicate _ inner _ | dontSkip _ inner => inner.hasNull
  | defer .. | token .. | skip .. | noBacktrack .. => false

/-- Companion of `hasNull` on a list of parsers. -/
def anyHasNull : List Parser → Bool
  | [] => false
  | p :: ps => p.hasNull || anyHasNull ps

end

/-- Whether an absent node occurs in a list is asked of each of its parsers. -/
@[simp] theorem anyHasNull_eq_any (ps : List Parser) : anyHasNull ps = ps.any hasNull := by
  induction ps with
  | nil => rfl
  | cons p ps ih => rw [anyHasNull, ih, List.any_cons]

/-- An absent node occurs inside a parser if it is one, or occurs inside a child of it. -/
theorem hasNull_eq (p : Parser) : p.hasNull = (p.isNull || p.children.any hasNull) := by
  cases p with
  | list id node element separator => cases separator <;> simp [hasNull, isNull, children]
  | _ => simp [hasNull, isNull, children]

end Parser

end Unparsing
