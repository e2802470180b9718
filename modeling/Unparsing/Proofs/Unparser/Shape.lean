import Unparsing.Unparser.Node

/-!
# Proofs/Unparser/Shape — the shape that every unparser has

An unparser of a node with fields has one unparser for each field of its node type, in order, and a
run between any two; a field that is always absent stands without tokens.  Derived unparsers have
this shape, and combining keeps it.

* `NodeUnparser.hides` — whether a field, given by its place, is always absent.
* `NodeUnparser.tokens` — every token that the unparser writes.
-/

namespace Unparsing

/-- A field without tokens around it, if it is always absent. -/
def FieldUnparser.Bare (f : FieldUnparser) : Prop :=
  f.alwaysAbsent = true → f.pre = [] ∧ f.post = []

/-- One unparser for each field of the node type, with the runs between them. -/
structure RegularUnparser.WellShaped (ns : NodeTypes) (u : RegularUnparser) : Prop where
  fields : u.fields.map (·.field) = ns.parseFields u.node
  node : ∀ f ∈ u.fields, f.node = u.node
  inter : u.inter.length = u.fields.length - 1
  bare : ∀ f ∈ u.fields, f.Bare

namespace NodeUnparser

/-- The shape of every unparser: only nodes with fields have parts. -/
def WellShaped (ns : NodeTypes) : NodeUnparser → Prop
  | regular u => u.WellShaped ns
  | list _ | tokenNode _ | null _ => True

/-- Whether the field at a place is always absent. -/
def hides (i : Nat) : NodeUnparser → Bool
  | regular u => (u.fields[i]?).any (·.alwaysAbsent)
  | list _ | tokenNode _ | null _ => false

/-- Every token written: those of the runs, or the separator of a list. -/
def tokens : NodeUnparser → List TokenId
  | regular u => u.runs.flatten
  | list u => u.separator.toList
  | tokenNode _ | null _ => []

end NodeUnparser

theorem RegularUnparser.WellShaped.inter_le {ns : NodeTypes} {u : RegularUnparser}
    (h : u.WellShaped ns) : u.inter.length ≤ u.fields.length :=
  h.inter ▸ Nat.sub_le _ _

/-- The unparser that writes no token is well shaped. -/
theorem RegularUnparser.wellShaped_blank (ns : NodeTypes) (node : NodeId) :
    (RegularUnparser.blank ns node).WellShaped ns where
  fields := by simp [RegularUnparser.blank, Function.comp_def]
  node := by simp [RegularUnparser.blank]
  inter := by simp [RegularUnparser.blank]
  bare := by simp [RegularUnparser.blank, FieldUnparser.Bare]

end Unparsing
