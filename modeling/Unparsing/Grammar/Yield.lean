import Unparsing.Grammar.Basic

/-!
# Grammar/Yield — what a parser yields

`Grammar.yield` tells whether a parser yields nodes of a type, a token, or nothing that unparsing
can use.  It is computed in two layers, each by recursion on data:

* `Parser.yieldWith` reads a parser's yield off the tree, given the yield of every rule.  A choice
  joins the yields of its branches (`Yield.merge`): branches that yield nothing are passed over,
  two node types meet in their closest common ancestor, and branches that do not fit together yield
  nothing from then on.
* `Grammar.ruleYield` supplies the yield of a rule by following it to its root.  A rule that is met
  again while its own yield is computed contributes nothing, so there are at most as many rules on
  a path as the grammar has.

A parser *creates a node* (`Grammar.createsNode`) if it builds one, or only leads to parsers that
do, with nothing parsed beside them that would be lost.  The end of the input carries nothing, so a
`pick` may drop it; any other `pick` loses what it drops.
-/

namespace Unparsing

/-- What a parser yields. -/
inductive Yield where
  | node (type : NodeId)
  | token
  /-- Rows, markers, and choices without a common node type. -/
  | nothing
  deriving DecidableEq, Repr, Inhabited

namespace Yield

/-- The node type yielded. -/
def node? : Yield → Option NodeId
  | node type => some type
  | token | nothing => none

/-- What a choice yields so far, merged with what its next branch yields.  Before the first branch
that yields anything it is `none`. -/
def merge (ns : NodeTypes) (sofar : Option Yield) (next : Yield) : Option Yield :=
  match sofar, next with
  | sofar, nothing => sofar
  | none, next => some next
  | some (node a), node b => some ((ns.commonAncestor a b).elim nothing node)
  | some token, token => some token
  | some _, _ => some nothing

end Yield

namespace Parser

mutual

/-- What a parser yields, given what the rules yield. -/
def yieldWith (ns : NodeTypes) (ofRule : RuleId → Yield) : Parser → Yield
  | transform _ node .. | list _ node .. | null _ node | skip _ node => .node node
  | optBool _ _ alternatives => .node alternatives.base
  | opt _ inner _ | predicate _ inner _ | dontSkip _ inner => inner.yieldWith ns ofRule
  | token .. => .token
  | row .. | noBacktrack .. => .nothing
  | pick _ _ items index => yieldNth ns ofRule items index
  | defer _ rule => ofRule rule
  | choice _ branches => (yieldMerged ns ofRule none branches).getD .nothing

/-- Companion of `yieldWith` on the items of a row: what the item at an index yields. -/
def yieldNth (ns : NodeTypes) (ofRule : RuleId → Yield) : List Parser → Nat → Yield
  | [], _ => .nothing
  | p :: _, 0 => p.yieldWith ns ofRule
  | _ :: ps, n + 1 => yieldNth ns ofRule ps n

/-- Companion of `yieldWith` on the branches of a choice: their yields merged from the left. -/
def yieldMerged (ns : NodeTypes) (ofRule : RuleId → Yield) :
    Option Yield → List Parser → Option Yield
  | sofar, [] => sofar
  | sofar, p :: ps => yieldMerged ns ofRule (Yield.merge ns sofar (p.yieldWith ns ofRule)) ps

end

/-- The yield of the item that a pick keeps, none if it has no such item. -/
@[simp] theorem yieldNth_eq (ns : NodeTypes) (ofRule : RuleId → Yield) (items : List Parser)
    (index : Nat) :
    yieldNth ns ofRule items index = (items[index]?).elim .nothing (yieldWith ns ofRule) := by
  induction items generalizing index with
  | nil => simp [yieldNth]
  | cons p ps ih => cases index <;> simp [yieldNth, ih]

/-- The yields of branches are merged from left to right. -/
@[simp] theorem yieldMerged_eq_foldl (ns : NodeTypes) (ofRule : RuleId → Yield)
    (sofar : Option Yield) (branches : List Parser) :
    yieldMerged ns ofRule sofar branches =
      (branches.map (yieldWith ns ofRule)).foldl (Yield.merge ns) sofar := by
  induction branches generalizing sofar with
  | nil => rfl
  | cons p ps ih => rw [yieldMerged, ih, List.map_cons, List.foldl_cons]

end Parser

namespace Grammar

/-- What a rule yields while the rules in `visiting` are being followed.  `depth` bounds the number
of rules still to be followed. -/
def ruleYield (g : Grammar) : (depth : Nat) → (visiting : List RuleId) → RuleId → Yield
  | 0, _, _ => .nothing
  | depth + 1, visiting, rule =>
    if visiting.contains rule then
      .nothing
    else
      match g.root? rule with
      | none => .nothing
      | some root => root.yieldWith g.nodes (g.ruleYield depth (rule :: visiting))

/-- What a parser yields while the rules in `visiting` are being followed. -/
def yieldUnder (g : Grammar) (visiting : List RuleId) (p : Parser) : Yield :=
  p.yieldWith g.nodes (g.ruleYield g.rules.size visiting)

/-- What a parser yields. -/
def yield (g : Grammar) (p : Parser) : Yield := g.yieldUnder [] p

end Grammar

/-! ## Parsers that hand over the node they build -/

namespace Parser

mutual

/-- Whether a parser creates a node, given what the rules yield. -/
def createsNodeWith (ofRule : RuleId → Yield) : Parser → Bool
  | choice _ branches => allCreateNodes ofRule branches
  | defer _ rule => (ofRule rule).node?.isSome
  | optBool .. | transform .. | skip .. | list .. => true
  | opt _ inner _ | predicate _ inner _ | dontSkip _ inner => inner.createsNodeWith ofRule
  | pick _ _ [inner, last] _ => last.isTermination && inner.createsNodeWith ofRule
  | pick .. | row .. | token .. | null .. | noBacktrack .. => false

/-- Companion of `createsNodeWith` on the branches of a choice. -/
def allCreateNodes (ofRule : RuleId → Yield) : List Parser → Bool
  | [] => true
  | p :: ps => p.createsNodeWith ofRule && allCreateNodes ofRule ps

end

/-- Whether all branches create nodes is asked of each of them. -/
@[simp] theorem allCreateNodes_eq_all (ofRule : RuleId → Yield) (ps : List Parser) :
    allCreateNodes ofRule ps = ps.all (createsNodeWith ofRule) := by
  induction ps with
  | nil => rfl
  | cons p ps ih => rw [allCreateNodes, ih, List.all_cons]

end Parser

namespace Grammar

/-- Whether a parser creates a node: it builds one, or leads to parsers that do, and loses
nothing. -/
def createsNode (g : Grammar) (p : Parser) : Bool :=
  p.createsNodeWith (g.ruleYield g.rules.size [])

end Grammar

end Unparsing
