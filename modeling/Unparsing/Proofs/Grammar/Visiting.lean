import Mathlib.Data.Finset.Card
import Unparsing.Grammar.Yield

/-!
# Proofs/Grammar/Visiting — the rules being followed

While the yield of a rule is computed, the rule is not followed again.  The computation keeps the
rules being followed in one set, which all branches of a choice share: a rule enters the set when it
is followed and leaves it when its yield is known (`Grammar.follow`).  Here this is related to the
yields that `Grammar.ruleYield` gives each rule for a list of its own.

* A computation returns with the set that it was given, and with the yield that belongs to that set
  (`Grammar.run_yieldVisiting`).
* No bound on the number of rules followed is ever met: each rule that is followed leaves fewer
  unvisited (`Grammar.ruleYield_succ`, `Grammar.ruleYield_eq`).
-/

namespace Unparsing

variable {ns : NodeTypes} {ofRule : RuleId → Yield} {g : Grammar} {p : Parser}
  {visiting : List RuleId} {rule : RuleId}

/-! ## Computing with one set of rules -/

/-- A computation that keeps the rules being followed in a set. -/
abbrev Visiting := StateM (Finset RuleId)

namespace Visiting

/-- A computation with a rule in the set.  If the rule is in it already, nothing is computed. -/
def inside (rule : RuleId) (compute : Visiting Yield) : Visiting Yield := do
  if rule ∈ (← get) then
    return .nothing
  modify (insert rule)
  let y ← compute
  modify (·.erase rule)
  return y

theorem run_inside {compute : Visiting Yield} {y : Yield}
    (restores : compute.run (rule :: visiting).toFinset = (y, (rule :: visiting).toFinset)) :
    (inside rule compute).run visiting.toFinset =
      (if rule ∈ visiting then .nothing else y, visiting.toFinset) := by
  by_cases followed : rule ∈ visiting
  · simp only [inside, StateT.run_bind, StateT.run_get, pure_bind, followed, List.mem_toFinset,
      if_true]
    rfl
  · have left : (rule :: visiting).toFinset.erase rule = visiting.toFinset := by
      rw [List.toFinset_cons, Finset.erase_insert (by simpa using followed)]
    rw [List.toFinset_cons] at restores left
    simp only [inside, StateT.run_bind, StateT.run_get, StateT.run_modify, pure_bind, followed,
      List.mem_toFinset, if_false, restores]
    exact congrArg (Prod.mk y) left

end Visiting

namespace Parser

mutual

/-- What a parser yields, computed branch after branch, given how rules are followed. -/
def yieldVia (ns : NodeTypes) (follow : RuleId → Visiting Yield) : Parser → Visiting Yield
  | transform _ node .. | list _ node .. | null _ node | skip _ node => pure (.node node)
  | optBool _ _ alternatives => pure (.node alternatives.base)
  | opt _ inner _ | predicate _ inner _ | dontSkip _ inner => inner.yieldVia ns follow
  | token .. => pure .token
  | row .. | noBacktrack .. => pure .nothing
  | pick _ _ items index => yieldNthVia ns follow items index
  | defer _ rule => follow rule
  | choice _ branches => return (← yieldMergedVia ns follow none branches).getD .nothing

/-- Companion of `yieldVia` on the items of a row. -/
def yieldNthVia (ns : NodeTypes) (follow : RuleId → Visiting Yield) :
    List Parser → Nat → Visiting Yield
  | [], _ => pure .nothing
  | p :: _, 0 => p.yieldVia ns follow
  | _ :: ps, n + 1 => yieldNthVia ns follow ps n

/-- Companion of `yieldVia` on the branches of a choice. -/
def yieldMergedVia (ns : NodeTypes) (follow : RuleId → Visiting Yield) :
    Option Yield → List Parser → Visiting (Option Yield)
  | sofar, [] => pure sofar
  | sofar, p :: ps => do
    let next ← p.yieldVia ns follow
    yieldMergedVia ns follow (Yield.merge ns sofar next) ps

end

variable {follow : RuleId → Visiting Yield} {V : Finset RuleId}

@[simp] theorem yieldNthVia_eq (ns : NodeTypes) (follow : RuleId → Visiting Yield)
    (items : List Parser) (index : Nat) :
    yieldNthVia ns follow items index =
      (items[index]?).elim (pure .nothing) (yieldVia ns follow) := by
  induction items generalizing index with
  | nil => simp [yieldNthVia]
  | cons p ps ih => cases index <;> simp [yieldNthVia, ih]

/-- Branches that return with the set that they were given leave it to the next ones. -/
theorem run_yieldMergedVia {branches : List Parser} {sofar : Option Yield}
    (each : ∀ p ∈ branches, (p.yieldVia ns follow).run V = (p.yieldWith ns ofRule, V)) :
    (yieldMergedVia ns follow sofar branches).run V =
      (yieldMerged ns ofRule sofar branches, V) := by
  induction branches generalizing sofar with
  | nil => rfl
  | cons p ps ih =>
    rw [List.forall_mem_cons] at each
    rw [yieldMergedVia, yieldMerged, StateT.run_bind, each.1]
    exact ih each.2

/-- **A computation returns with the set that it was given,** if following a rule does. -/
theorem run_yieldVia (followed : ∀ rule, (follow rule).run V = (ofRule rule, V)) :
    (p.yieldVia ns follow).run V = (p.yieldWith ns ofRule, V) := by
  induction p using Parser.induction with
  | choice id branches ih =>
    rw [yieldVia, yieldWith, StateT.run_bind, run_yieldMergedVia ih]
    rfl
  | pick id rowId items index ih =>
    rw [yieldVia, yieldWith, yieldNthVia_eq, yieldNth_eq]
    cases picked : items[index]? with
    | none => rfl
    | some item => exact ih item (List.mem_of_getElem? picked)
  | opt id inner tolerant ih => exact ih
  | predicate id inner property ih => exact ih
  | dontSkip id inner ih => exact ih
  | defer id rule => exact followed rule
  | row | transform | list | optBool | token | null | skip | noBacktrack => rfl

end Parser

namespace Grammar

/-- What a rule yields, computed with the set of the rules being followed.  `depth` bounds the
number of rules still to be followed. -/
def follow (g : Grammar) : (depth : Nat) → RuleId → Visiting Yield
  | 0, _ => pure .nothing
  | depth + 1, rule =>
    match g.root? rule with
    | none => pure .nothing
    | some root => .inside rule (root.yieldVia g.nodes (g.follow depth))

/-- What a parser yields, computed with the set of the rules being followed. -/
def yieldVisiting (g : Grammar) (p : Parser) : Visiting Yield :=
  p.yieldVia g.nodes (g.follow g.rules.size)

theorem run_follow (depth : Nat) (visiting : List RuleId) (rule : RuleId) :
    (g.follow depth rule).run visiting.toFinset =
      (g.ruleYield depth visiting rule, visiting.toFinset) := by
  induction depth generalizing visiting rule with
  | zero => rfl
  | succ depth ih =>
    unfold follow ruleYield
    cases g.root? rule with
    | none =>
      simp only [ite_self]
      rfl
    | some root =>
      simpa using Visiting.run_inside (Parser.run_yieldVia (ih (rule :: visiting)))

/-- **A computation returns with the set of rules that it was given.** -/
theorem run_yieldVisiting (g : Grammar) (p : Parser) (visiting : List RuleId) :
    (g.yieldVisiting p).run visiting.toFinset = (g.yieldUnder visiting p, visiting.toFinset) :=
  Parser.run_yieldVia (run_follow g.rules.size visiting)

/-! ## No bound is met -/

/-- The number of rules that are not being followed. -/
def unvisited (g : Grammar) (visiting : List RuleId) : Nat :=
  (g.ruleIds.toFinset \ visiting.toFinset).card

theorem unvisited_le_size (g : Grammar) (visiting : List RuleId) :
    g.unvisited visiting ≤ g.rules.size :=
  calc (g.ruleIds.toFinset \ visiting.toFinset).card
    _ ≤ g.ruleIds.toFinset.card := Finset.card_le_card Finset.sdiff_subset
    _ ≤ g.ruleIds.length := List.toFinset_card_le _
    _ = g.rules.size := Index.length_upTo _

/-- **Each rule that is followed leaves fewer.** -/
theorem unvisited_cons_lt {root : Parser} (rooted : g.root? rule = some root)
    (fresh : rule ∉ visiting) : g.unvisited (rule :: visiting) < g.unvisited visiting := by
  have declared : rule ∈ g.ruleIds := mem_ruleIds_of_root? rooted
  rw [unvisited, List.toFinset_cons, Finset.sdiff_insert]
  exact Finset.card_erase_lt_of_mem (by simp [declared, fresh])

/-- **Induction on the rules that are not being followed:** to show something of the rules being
followed, it may be assumed of these and one more rule. -/
theorem visiting_induction (g : Grammar) {motive : List RuleId → Prop}
    (step : ∀ visiting, (∀ rule root, g.root? rule = some root → rule ∉ visiting →
      motive (rule :: visiting)) → motive visiting) (visiting : List RuleId) : motive visiting :=
  step visiting fun rule _ rooted fresh =>
    have := unvisited_cons_lt rooted fresh
    visiting_induction g step (rule :: visiting)
termination_by g.unvisited visiting

/-- **A bound that the rules left do not exceed is not met.** -/
theorem ruleYield_succ {depth : Nat} (enough : g.unvisited visiting ≤ depth) :
    g.ruleYield (depth + 1) visiting rule = g.ruleYield depth visiting rule := by
  induction depth generalizing visiting rule with
  | zero =>
    unfold ruleYield
    cases rooted : g.root? rule with
    | none => simp
    | some root =>
      have followed : rule ∈ visiting := by
        by_contra fresh
        have := unvisited_cons_lt rooted fresh
        omega
      simp [followed]
  | succ depth ih =>
    rw [ruleYield, ruleYield]
    split
    next => rfl
    next fresh =>
    split
    next => rfl
    next root rooted =>
      have fewer := unvisited_cons_lt rooted (by simpa using fresh)
      exact congrArg (root.yieldWith g.nodes ·) (funext fun rule => ih (by omega))

/-- **What a rule yields** is what its root does while the rule is being followed. -/
theorem ruleYield_eq (g : Grammar) (visiting : List RuleId) (rule : RuleId) :
    g.ruleYield g.rules.size visiting rule =
      if rule ∈ visiting then .nothing
      else (g.root? rule).elim .nothing (g.yieldUnder (rule :: visiting)) := by
  rw [← ruleYield_succ (g.unvisited_le_size visiting), ruleYield]
  cases g.root? rule <;> simp [yieldUnder]

end Grammar

end Unparsing
