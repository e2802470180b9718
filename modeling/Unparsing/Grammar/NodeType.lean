import Unparsing.Index

/-!
# Grammar/NodeType — the taxonomy of the nodes that parsers build

Node types form a forest: a type may derive from one base, declared before it.  A type lists the
fields it declares itself; all its fields are the ones of its ancestors, outermost first, followed
by its own (`NodeTypes.parseFields`).

* `NodeTypes.ancestry` — a type followed by its ancestors, innermost first.
* `NodeTypes.commonAncestor` — the first ancestor of one type that is an ancestor of the other.
* `NodeTypes.listOf` — the list type of an element, made on first request and kept: the *base list*
  of that element.
-/

namespace Unparsing

/-- A static property of a node type. -/
inductive NodeTrait where
  /-- Never built itself. -/
  | abstract
  /-- Built by the compiler, never by a parser. -/
  | synthetic
  /-- A list of nodes of one type. -/
  | list
  /-- Wraps exactly one token, and has no fields. -/
  | tokenNode
  deriving DecidableEq, Repr

namespace NodeTrait

/-- Every trait, in the order in which sets of them are written. -/
def all : List NodeTrait := [abstract, synthetic, list, tokenNode]

/-- The name under which a trait is shown. -/
def name : NodeTrait → String
  | abstract => "ABSTRACT"
  | synthetic => "SYNTHETIC"
  | list => "LIST"
  | tokenNode => "TOKEN_NODE"

/-- The trait's bit in a set of traits written as a number. -/
def bit : NodeTrait → Nat
  | abstract => 1
  | synthetic => 2
  | list => 4
  | tokenNode => 8

/-- The trait of that name. -/
def ofName? (name : String) : Option NodeTrait := all.find? (·.name == name)

/-- Every trait is listed. -/
theorem mem_all (t : NodeTrait) : t ∈ all := by cases t <;> simp [all]

end NodeTrait

/-- A set of traits. -/
structure NodeTraits where
  abstract : Bool := false
  synthetic : Bool := false
  list : Bool := false
  tokenNode : Bool := false
  deriving DecidableEq, Repr, Inhabited

namespace NodeTraits

/-- Whether a node type has a trait. -/
def contains (s : NodeTraits) : NodeTrait → Bool
  | .abstract => s.abstract
  | .synthetic => s.synthetic
  | .list => s.list
  | .tokenNode => s.tokenNode

/-- The set of the traits listed. -/
def ofList (ts : List NodeTrait) : NodeTraits where
  abstract := ts.contains .abstract
  synthetic := ts.contains .synthetic
  list := ts.contains .list
  tokenNode := ts.contains .tokenNode

/-- The traits of a node type, in the order in which they are listed. -/
def toList (s : NodeTraits) : List NodeTrait := NodeTrait.all.filter s.contains

/-- The names of the traits in the set, as in `ABSTRACT | LIST`. -/
def text (s : NodeTraits) : String := " | ".intercalate (s.toList.map NodeTrait.name)

/-- A set contains the traits of the list it is made of. -/
@[simp] theorem contains_ofList (ts : List NodeTrait) (t : NodeTrait) :
    (ofList ts).contains t = ts.contains t := by
  cases t <;> rfl

end NodeTraits

/-- A declared node type. -/
structure NodeType where
  name : String
  traits : NodeTraits
  base : Option NodeId
  /-- The fields declared on this type, not the inherited ones. -/
  ownFields : List FieldId := []
  /-- The type of the elements, for a list type. -/
  element : Option NodeId := none
  /-- The base list of this type, once it has been asked for. -/
  baseList : Option NodeId := none
  deriving DecidableEq, Repr

/-- A declared field. -/
structure Field where
  /-- The type that declares the field. -/
  owner : NodeId
  name : String
  deriving DecidableEq, Repr

/-- The node types of a language and their fields, in order of declaration. -/
structure NodeTypes where
  types : Array NodeType := #[]
  fields : Array Field := #[]
  deriving DecidableEq, Repr, Inhabited

/-- The node types of a boolean optional: the abstract `base`, and the two types it is built as. -/
structure BoolAlternatives where
  base : NodeId
  present : NodeId
  absent : NodeId
  deriving DecidableEq, Repr

namespace NodeTypes

/-- The number of node types. -/
def size (ns : NodeTypes) : Nat := ns.types.size

/-- The node types, in order of declaration. -/
def ids (ns : NodeTypes) : List NodeId := Index.upTo ns.size

/-- The node type of a number. -/
def get? (ns : NodeTypes) (id : NodeId) : Option NodeType := ns.types[id.raw]?

/-- The field of a number. -/
def field? (ns : NodeTypes) (id : FieldId) : Option Field := ns.fields[id.raw]?

/-! ## Declarations -/

/-- A new node type.  The answer is its number, and the taxonomy with it. -/
def declare (ns : NodeTypes) (name : String) (base : Option NodeId) (traits : NodeTraits) :
    NodeId × NodeTypes :=
  (⟨ns.size⟩, { ns with types := ns.types.push { name, traits, base } })

/-- A new field of `owner`, after the fields it has. -/
def addField (ns : NodeTypes) (owner : NodeId) (name : String) : FieldId × NodeTypes :=
  let id : FieldId := ⟨ns.fields.size⟩
  (id, { types := ns.types.modify owner.raw fun t => { t with ownFields := t.ownFields ++ [id] }
         fields := ns.fields.push ⟨owner, name⟩ })

/-- A new list type. -/
def declareList (ns : NodeTypes) (name : String) (element : NodeId) (traits : NodeTraits) :
    NodeId × NodeTypes :=
  let traits := { traits with list := true }
  (⟨ns.size⟩, { ns with types := ns.types.push { name, traits, base := none, element } })

/-- The name of a type, empty for a number that no type has. -/
def name (ns : NodeTypes) (id : NodeId) : String := ((ns.get? id).map (·.name)).getD ""

/-- The base list of `element`, declared now if it has none. -/
def listOf (ns : NodeTypes) (element : NodeId) : NodeId × NodeTypes :=
  match (ns.get? element).bind (·.baseList) with
  | some id => (id, ns)
  | none =>
    let (id, ns) := ns.declareList (ns.name element ++ ".list") element {}
    (id, { ns with types := ns.types.modify element.raw fun t => { t with baseList := some id } })

/-- The three node types of a boolean optional called `name`. -/
def declareBool (ns : NodeTypes) (name : String) : BoolAlternatives × NodeTypes :=
  let (base, ns) := ns.declare name none { abstract := true }
  let (present, ns) := ns.declare (name ++ ".Present") (some base) {}
  let (absent, ns) := ns.declare (name ++ ".Absent") (some base) {}
  (⟨base, present, absent⟩, ns)

/-! ## Queries -/

/-- The type of that name, the last one declared if there are several. -/
def find? (ns : NodeTypes) (name : String) : Option NodeId :=
  ns.ids.reverse.find? (ns.name · == name)

/-- Whether the node type of a number has a trait. -/
def hasTrait (ns : NodeTypes) (id : NodeId) (t : NodeTrait) : Bool :=
  (ns.get? id).any (·.traits.contains t)

/-- Whether the node type is never built itself. -/
def isAbstract (ns : NodeTypes) (id : NodeId) : Bool := ns.hasTrait id .abstract

/-- Whether nodes of the type are built by the compiler, never by a parser. -/
def isSynthetic (ns : NodeTypes) (id : NodeId) : Bool := ns.hasTrait id .synthetic

/-- Whether nodes of the type are lists. -/
def isList (ns : NodeTypes) (id : NodeId) : Bool := ns.hasTrait id .list

/-- Whether nodes of the type wrap one token. -/
def isTokenNode (ns : NodeTypes) (id : NodeId) : Bool := ns.hasTrait id .tokenNode

/-- Whether parsers build nodes of this very type. -/
def isConcrete (ns : NodeTypes) (id : NodeId) : Bool := !ns.isAbstract id && !ns.isSynthetic id

/-- Whether `id` is the list type kept for its element. -/
def isBaseList (ns : NodeTypes) (id : NodeId) : Bool :=
  ((ns.get? id).bind (·.element)).any fun element =>
    (ns.get? element).bind (·.baseList) == some id

/-- The type that `id` derives from. -/
def base? (ns : NodeTypes) (id : NodeId) : Option NodeId := (ns.get? id).bind (·.base)

/-- A type followed by its ancestors, innermost first.  A base is declared before the types derived
from it, so the numbers fall along the way. -/
def ancestry (ns : NodeTypes) (id : NodeId) : List NodeId :=
  id :: match ns.base? id with
    | some base => if base.raw < id.raw then ns.ancestry base else []
    | none => []
termination_by id.raw

/-- The fields that a node type declares itself, in order. -/
def ownFields (ns : NodeTypes) (id : NodeId) : List FieldId :=
  ((ns.get? id).map (·.ownFields)).getD []

/-- All fields of a type: the inherited ones first, in order of declaration. -/
def parseFields (ns : NodeTypes) (id : NodeId) : List FieldId :=
  (ns.ancestry id).reverse.flatMap ns.ownFields

/-- The closest type that both `a` and `b` are or derive from. -/
def commonAncestor (ns : NodeTypes) (a b : NodeId) : Option NodeId :=
  let others := ns.ancestry b
  (ns.ancestry a).find? others.contains

/-- A field with the type that declares it, as in `Call.arguments`. -/
def qualifiedName (ns : NodeTypes) (id : FieldId) : String :=
  match ns.field? id with
  | some f => ns.name f.owner ++ "." ++ f.name
  | none => "."

/-- A node type without a base is its only ancestor. -/
theorem ancestry_of_base?_eq_none {ns : NodeTypes} {id : NodeId} (h : ns.base? id = none) :
    ns.ancestry id = [id] := by
  rw [ancestry, h]

/-- The ancestors of a node type are the type itself and those of its base. -/
theorem ancestry_of_base?_eq_some {ns : NodeTypes} {id base : NodeId}
    (h : ns.base? id = some base) (lt : base.raw < id.raw) :
    ns.ancestry id = id :: ns.ancestry base := by
  rw [ancestry, h]
  simp [lt]

/-- Every node type is its own ancestor. -/
theorem mem_ancestry_self (ns : NodeTypes) (id : NodeId) : id ∈ ns.ancestry id := by
  rw [ancestry]
  exact List.mem_cons_self

end NodeTypes

end Unparsing
