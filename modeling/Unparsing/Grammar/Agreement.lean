import Unparsing.Grammar.Yield

/-!
# Grammar/Agreement — producers of a node type that unparse alike

Several parsers may build nodes of one type, and then all of them must unparse the same way.  They
*agree* when they have the same combinator shape with the same tokens in the same slots.  Parsers of
nodes inside them are compared only in that they create nodes: each is compared with the other
producers of its own node type.

* `Parser.slots` — the parsers inside a parser that are compared: all its items but the markers
  that forbid backtracking.
* `Grammar.agreeAt` — the comparison, slot by slot.  Wrappers and absent nodes are left out of it.
  Every slot holds smaller parsers than the ones it comes from (`sizeAll_column_lt`).
* `Grammar.canonical?` — the producer that stands for the node type: the first one without an absent
  node inside, since it shows every field.
-/

namespace Unparsing

namespace Parser

/-- The parsers inside a parser that are compared with those of other producers. -/
def slots : Parser → List Parser
  | row _ items | transform _ _ _ items | pick _ _ items _ => items.filter (!·.isNoBacktrack)
  | list _ _ element separator => (element :: separator.toList).filter (!·.isNoBacktrack)
  | opt _ inner _ | optBool _ inner _ => [inner].filter (!·.isNoBacktrack)
  | choice .. | defer .. | token .. | null .. | predicate .. | skip .. | noBacktrack ..
  | dontSkip .. => []

/-- The parsers that take part in a comparison: without their wrappers, and without the absent
nodes. -/
def comparable (ps : List Parser) : List Parser := (ps.map strip).filter (!·.isNull)

/-- The parsers in one slot of each parser. -/
def column (ps : List Parser) (slot : Nat) : List Parser := ps.filterMap (·.slots[slot]?)

/-- Whether the parser is a token of that kind. -/
def isTokenOf (kind : KindId) : Parser → Bool
  | token _ other _ => other == kind
  | _ => false

/-- Whether the parser picks the item at that index. -/
def picksAt (index : Nat) : Parser → Bool
  | pick _ _ _ other => other == index
  | _ => false

/-! ## The size of the parsers still to be compared -/

/-- Taking wrappers off makes no parser larger. -/
theorem size_strip_le (p : Parser) : p.strip.size ≤ p.size := by
  fun_induction strip p with
  | case1 id inner ih => exact Nat.le_trans ih (by simp [size])
  | case2 id inner property ih => exact Nat.le_trans ih (by simp [size])
  | case3 => exact Nat.le_refl _

/-- Leaving parsers out makes a list no larger. -/
theorem sizeAll_comparable_le (ps : List Parser) : sizeAll (comparable ps) ≤ sizeAll ps := by
  induction ps with
  | nil => exact Nat.le_refl _
  | cons p ps ih =>
    have head := size_strip_le p
    rw [comparable, List.map_cons, List.filter_cons]
    rw [comparable] at ih
    split <;> simp only [sizeAll] <;> omega

/-- A slot is smaller than the parser it belongs to. -/
theorem size_lt_of_mem_slots {p q : Parser} (h : q ∈ p.slots) : q.size < p.size := by
  cases p with
  | row | transform | pick =>
    have := size_le_of_mem (List.mem_filter.mp h).1
    simp only [size]
    omega
  | list | opt | optBool => exact size_lt_of_mem_children (List.mem_filter.mp h).1
  | _ => simp [slots] at h

/-- The items of a column are smaller than the parsers that they stand in. -/
theorem sizeAll_column_le (ps : List Parser) (slot : Nat) :
    sizeAll (column ps slot) + ps.length ≤ sizeAll ps := by
  induction ps with
  | nil => exact Nat.le_refl _
  | cons p ps ih =>
    have pos := p.size_pos
    rw [column] at ih
    rw [column, List.filterMap_cons]
    split
    · simp only [sizeAll, List.length_cons]
      omega
    · next q hq =>
      have := size_lt_of_mem_slots (List.mem_of_getElem? hq)
      simp only [sizeAll, List.length_cons]
      omega

/-- The parsers in one slot are smaller, together, than the ones they come from. -/
theorem sizeAll_column_lt {ps : List Parser} (h : ps ≠ []) (slot : Nat) :
    sizeAll (column ps slot) < sizeAll ps := by
  have le := sizeAll_column_le ps slot
  have pos := List.length_pos_iff.mpr h
  omega

end Parser

/-! ## The comparison -/

/-- How a list of parsers is to be compared. -/
inductive Ruling where
  /-- The answer is known from the parsers themselves. -/
  | settled (agree : Bool)
  /-- The parsers agree if they do in every slot. -/
  | slotwise
  /-- The parsers agree if each creates a node. -/
  | byCreation
  deriving DecidableEq, Repr

/-- How `p` and the parsers in `rest` are to be compared.  Tokens agree if they are of one kind:
texts are compared when the unparsers are combined. -/
def Ruling.of (p : Parser) (rest : List Parser) : Ruling :=
  if rest.all (·.kind == p.kind) then
    match p with
    | .row .. | .transform .. | .list .. | .opt .. | .optBool .. => slotwise
    | .pick _ _ _ index => if rest.all (·.picksAt index) then slotwise else settled false
    | .token _ kind _ => settled (rest.all (·.isTokenOf kind))
    | .noBacktrack .. => settled true
    | .choice .. | .defer .. | .null .. | .predicate .. | .skip .. | .dontSkip .. => byCreation
  else
    byCreation

namespace Grammar

open Unparsing.Parser (comparable column sizeAll)

/-- Whether a parser creates a node, a reference to a rule being judged by the rule's root. -/
def resolvesToNode (g : Grammar) : Parser → Bool
  | .defer _ rule => (g.root? rule).any g.createsNode
  | p => g.createsNode p

/-- Whether the parsers agree.  At the top level, where they are the producers of one node type,
their shapes must be known: that each creates a node is not enough. -/
def agreeAt (g : Grammar) (toplevel : Bool) (ps : List Parser) : Bool :=
  match _h : comparable ps with
  | [] | [_] => true
  | p :: q :: rest =>
    match Ruling.of p (q :: rest) with
    | .settled agree => agree
    | .byCreation => !toplevel && (p :: q :: rest).all g.resolvesToNode
    | .slotwise =>
      let width := p.slots.length
      if (q :: rest).all (·.slots.length == width) then
        -- A lone slot is compared last, so that nested optionals do not nest calls.
        if width = 1 then
          g.agreeAt false (column (p :: q :: rest) 0)
        else
          (List.range width).all fun slot => g.agreeAt false (column (p :: q :: rest) slot)
      else
        false
termination_by sizeAll ps
decreasing_by
  all_goals
    have le := Parser.sizeAll_comparable_le ps
    rw [_h] at le
    exact Nat.lt_of_lt_of_le (Parser.sizeAll_column_lt (List.cons_ne_nil _ _) _) le

/-- Whether the producers of one node type unparse alike, as far as their shapes tell. -/
def agree (g : Grammar) (producers : List Parser) : Bool := g.agreeAt true producers

/-- The producer that stands for its node type: the first without an absent node inside, or else
the first. -/
def canonical? (producers : List Parser) : Option Parser :=
  (producers.find? (!·.hasNull)).or producers.head?

end Grammar

end Unparsing
