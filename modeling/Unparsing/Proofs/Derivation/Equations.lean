import Unparsing.Derivation.Basic
import Unparsing.Proofs.General.Computations

/-!
# Proofs/Derivation/Equations — the equations of a derivation

The functions that derive an unparser look at two layers of `dontSkip` at once, and ask for the
node type before the parser.  Their equations are restated here, one for each form of parser, for
node types that are built from fields.
-/

namespace Unparsing

/-- An attempt derives what the derivation does, where unparsers have not been given up. -/
theorem Derivation.attempt_eq_derived {derive : Interning NodeUnparser} {t t' : TokenTable}
    {u : NodeUnparser} :
    Derivation.attempt true derive t = (.derived u, t') ↔ derive t = .ok u t' := by
  simp only [attempt, if_true]
  cases derive t <;> simp

namespace Parser

/-- Whether the parser is a wrapper. -/
def isDontSkip : Parser → Bool
  | dontSkip .. => true
  | _ => false

/-- Whether no unparser of a node is made of a parser, whatever is inside it. -/
def isUnparsable : Parser → Bool
  | row .. | pick .. | choice .. | defer .. | token .. | predicate .. | skip .. | noBacktrack .. =>
    true
  | transform .. | list .. | opt .. | optBool .. | null .. | dontSkip .. => false

end Parser

namespace Grammar

variable (g : Grammar)

/-! ## Runs and fields -/

/-- The run under a wrapper, unless that is a wrapper, too: then it is empty. -/
theorem emitRun_dontSkip (id : ParserId) (inner : Parser) :
    g.emitRun (.dontSkip id inner) = if inner.isDontSkip then pure [] else g.emitRun inner := by
  cases inner <;> simp [emitRun, Parser.isDontSkip]

/-- The field under a wrapper, unless that is a wrapper, too: then it is refused. -/
theorem emitField_dontSkip (id : ParserId) (inner : Parser) (field : FieldUnparser) :
    g.emitField (.dontSkip id inner) field =
      if inner.isDontSkip then throw (.unsupportedField (g.site inner))
      else g.emitField inner field := by
  cases inner <;> simp [emitField, Parser.isDontSkip]

/-- The field of a pick is that of the item it keeps. -/
theorem emitPicked_eq (items : List Parser) (index : Nat) (field : FieldUnparser) :
    g.emitPicked items index field = (items[index]?).elim (pure field) (g.emitField · field) := by
  induction items generalizing index with
  | nil => rfl
  | cons p ps ih =>
    cases index with
    | zero => rfl
    | succ index => exact ih index

theorem checkBranches_cons (p : Parser) (ps : List Parser) :
    g.checkBranches (p :: ps) =
      (do g.checkBranch p.unwrap fun node => g.deriveNode node p.unwrap
          g.checkBranches ps) := by
  cases p <;> simp [checkBranches, Parser.unwrap]

/-! ## Nodes -/

variable {g} {node : NodeId}

section Regular

variable (concrete : g.nodes.isConcrete node = true) (regular : g.nodes.isTokenNode node = false)

include concrete regular

theorem deriveNode_transform (id : ParserId) (type : NodeId) (rowId : ParserId)
    (items : List Parser) :
    g.deriveNode node (.transform id type rowId items) = (do
      let blank := RegularUnparser.blank g.nodes node
      let filled ← g.fillRow (.internal (.moreFields
        (g.describe (.transform id type rowId items)) (g.nodes.name node))) blank.fields items
      if filled.2.length != blank.fields.length then
        throw (.internal (.fewerFields (g.describe (.transform id type rowId items))
          filled.2.length (g.nodes.name node) blank.fields.length))
      pure (.regular (.ofRow node filled.1 filled.2))) := by
  simp only [deriveNode, concrete, regular, Bool.not_true, Bool.false_eq_true, if_false]

/-- A transform that has an unparser fills all fields of the node type from its row. -/
theorem fillRow_of_deriveNode {id : ParserId} {type : NodeId} {rowId : ParserId}
    {items : List Parser} {u : NodeUnparser} {t t' : TokenTable}
    (run : g.deriveNode node (.transform id type rowId items) t = .ok u t') :
    ∃ overflow r,
      g.fillRow overflow (RegularUnparser.blank g.nodes node).fields items t = .ok r t' ∧
      r.2.length = (RegularUnparser.blank g.nodes node).fields.length ∧
      u = .regular (.ofRow node r.1 r.2) := by
  rw [deriveNode_transform concrete regular] at run
  obtain ⟨r, _, filled, run⟩ := estate_bind_eq_ok.mp run
  split at run
  next => cases run
  next width =>
    cases run
    exact ⟨_, r, filled, by simpa using width, rfl⟩

/-- A list without a separator is written as its elements. -/
theorem deriveNode_list_none (id : ParserId) (type : NodeId) (element : Parser) :
    g.deriveNode node (.list id type element none) = pure (.list ⟨node, none⟩) := by
  simp only [deriveNode, concrete, regular, Bool.not_true, Bool.false_eq_true, if_false]

theorem deriveNode_list_some (id : ParserId) (type : NodeId) (element separator : Parser) :
    g.deriveNode node (.list id type element (some separator)) = (do
      let token ← TokenTable.internParser g separator
      pure (.list ⟨node, some token⟩)) := by
  simp only [deriveNode, concrete, regular, Bool.not_true, Bool.false_eq_true, if_false]

theorem deriveNode_optBool (id : ParserId) (inner : Parser) (alternatives : BoolAlternatives) :
    g.deriveNode node (.optBool id inner alternatives) =
      if node = alternatives.present then do
        let pre ← g.emitRun inner
        pure (.regular { RegularUnparser.blank g.nodes node with pre })
      else
        pure (.regular (.blank g.nodes node)) := by
  simp only [deriveNode, concrete, regular, Bool.not_true, Bool.false_eq_true, if_false]

/-- An optional is written as its inner parser. -/
theorem deriveNode_opt (id : ParserId) (inner : Parser) (tolerant : Bool) :
    g.deriveNode node (.opt id inner tolerant) = g.deriveNode node inner := by
  simp only [deriveNode, concrete, regular, Bool.not_true, Bool.false_eq_true, if_false]

/-- An absent node is not written. -/
theorem deriveNode_null (id : ParserId) (type : NodeId) :
    g.deriveNode node (.null id type) = pure (.null node) := by
  simp only [deriveNode, concrete, regular, Bool.not_true, Bool.false_eq_true, if_false]

theorem deriveNode_dontSkip (id : ParserId) (inner : Parser) :
    g.deriveNode node (.dontSkip id inner) =
      if inner.isDontSkip then throw (.unsupportedParser (g.site inner))
      else g.deriveNode node inner := by
  cases inner <;> simp [deriveNode, Parser.isDontSkip, concrete, regular]

/-- What no unparser is made of is refused. -/
theorem deriveNode_unparsable {p : Parser} (h : p.isUnparsable = true) :
    g.deriveNode node p = throw (.unsupportedParser (g.site p)) := by
  cases p with
  | transform | list | opt | optBool | null | dontSkip => cases h
  | _ => simp only [deriveNode, concrete, regular, Bool.not_true, Bool.false_eq_true, if_false]

end Regular

end Grammar

end Unparsing
