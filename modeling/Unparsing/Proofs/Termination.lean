import Unparsing.Proofs.Arena.Session
import Unparsing.Proofs.Session.Problems

/-!
# Proofs/Termination — every computation on a grammar comes to an end

Parsers refer to each other by number, and to rules, whose roots may refer back to anything.  Still,
whatever was declared, no computation goes deeper than `Grammar.callDepth`, which grows with the
number of parsers times the number of rules (`Grammar.terminates`): numbers fall on the way into a
parser, and a rule is not entered again while it is being followed.

`Sums.grammar` has two rules that refer to each other.
-/

namespace Unparsing

open Unparsing.Limited (returns)

namespace Grammar

variable {g : Grammar} {depth : Nat}

/-- At this depth of calls, every computation on the numbers of a grammar returns, with what is
computed from the parsers themselves. -/
structure ReturnsAt (g : Grammar) (depth : Nat) : Prop where
  discards : ∀ p ∈ g.parsers, g.discardsAt depth p.id = some p.discards
  hasNull : ∀ p ∈ g.parsers, g.hasNullAt depth p.id = some p.hasNull
  /-- No rule is entered a second time on the way. -/
  typeOf : ∀ p ∈ g.parsers, (g.typeOfAt depth [] p.id).run ∅ = some (g.yield p, ∅)
  createsNode : ∀ p ∈ g.parsers, g.createsNodeAt depth p.id = some (g.createsNode p)
  structEq : ∀ ps : List Parser, (∀ p ∈ ps, p ∈ g.parsers) → ∀ toplevel,
    g.structEqAt depth toplevel (ps.map Parser.id) = some (g.agreeAt toplevel ps)
  run : ∀ p ∈ g.parsers, g.emitRunAt depth p.id = returns (g.emitRun p)
  node : ∀ p ∈ g.parsers, ∀ node, g.nodeUnparserAt node depth p.id = returns (g.deriveNode node p)
  field : ∀ p ∈ g.parsers, ∀ f, g.emitFieldAt depth p.id f = returns (g.emitField p f)
  branch : ∀ p ∈ g.parsers, g.checkBranchAt depth p.id =
    returns (g.checkBranch p.unwrap fun node => g.deriveNode node p.unwrap)
  walk : ∀ p ∈ g.parsers, ∀ name top,
    Session.walkAt g name depth top p.id = returns (p.visit (Session.note g name) top)
  compute : ∀ rule, Session.computeAt g depth rule = returns (Session.compute g rule)
  /-- The session may have come from any calls. -/
  check : ∀ settings cs queue,
    Session.checkAt g depth ⟨Session.calls g { settings } cs, queue⟩ =
      some (Session.check g ⟨Session.calls g { settings } cs, queue⟩)
  build : ∀ settings queue, g.buildAt depth settings queue = some (g.buildUnparsers settings queue)

/-- At this depth of calls, what is under the number of a row is always found to be one. -/
structure FindsRowsAt (g : Grammar) (depth : Nat) : Prop where
  node : ∀ p ∈ g.parsers, ∀ node t problem t',
    g.nodeUnparserAt node depth p.id t = some (.error problem, t') → problem.isNotRow = false
  compute : ∀ rule q problem q',
    Session.computeAt g depth rule q = some (.error problem, q') → problem.isNotRow = false
  pass : ∀ settings queue problem q',
    Session.passAt g depth g.ruleIds (Session.start settings queue) = some (.error problem, q') →
      problem.isNotRow = false

/-- **Every computation by number returns** what the one on trees returns, if its calls may go deep
enough. -/
theorem Ordered.returnsAt (h : g.Ordered) (enough : g.callDepth ≤ depth) : g.ReturnsAt depth := by
  have derives := derivesAt h depth
  have near : ∀ p ∈ g.parsers, g.followDepth + 2 * p.id.raw + 1 < depth := fun p hp => by
    have inside := h.wf.id_lt hp
    rw [callDepth] at enough
    omega
  have positive : g.followDepth < depth := by
    rw [callDepth] at enough
    omega
  exact {
    discards p hp := discardsAt_eq h hp (by have := near p hp; omega)
    hasNull p hp := hasNullAt_eq h hp (by have := near p hp; omega)
    typeOf p hp := run_typeOfAt_fresh h hp (Nat.le_of_lt positive)
    createsNode p hp := createsNodeAt_eq h hp (by have := near p hp; omega)
    structEq ps declared toplevel := structEqAt_eq h declared (fun p hp => by
      have inside := h.wf.id_lt (declared p hp)
      rw [callDepth] at enough
      rw [compareDepth]
      omega) (Nat.zero_lt_of_lt positive)
    run p hp := emitRunAt_eq h hp (by have := near p hp; omega)
    node p hp := derives.node p hp (by have := near p hp; omega)
    field p hp := derives.field p hp (by have := near p hp; omega)
    branch p hp := derives.branch p hp (near p hp)
    walk p hp name top := Session.walkAt_eq h hp top (near p hp)
    compute rule := Session.computeAt_eq h enough rule
    check settings cs queue :=
      Session.checkAt_eq h enough ((Session.declared_fresh g settings).calls h.wf cs)
    build settings queue := buildAt_eq h enough settings queue }

/-- Then a number that is to be that of a row is one, too. -/
theorem Ordered.findsRowsAt (h : g.Ordered) (enough : g.callDepth ≤ depth) :
    g.FindsRowsAt depth := by
  have returned := h.returnsAt enough
  constructor
  · intro p hp node t problem t' run
    rw [returned.node p hp node] at run
    have failed := Limited.returns_eq_error.mp run
    exact (Problem.Arises.ofParser (raises_deriveNode node p failed)).isNotRow_eq_false
  · intro rule q problem q' run
    rw [returned.compute rule] at run
    exact (Session.arises_of_compute (Limited.returns_eq_error.mp run)).isNotRow_eq_false
  · intro settings queue problem q' run
    rw [Session.passAt_eq h enough (Session.declared_fresh g settings)] at run
    exact (Session.arises_of_passOver (Limited.returns_eq_error.mp run)).isNotRow_eq_false

/-- **Every computation on a grammar comes to an end.**  What is inside a parser has smaller
numbers, and the rows of transforms and picks are rows.  So at any depth of calls from `callDepth`
on, the computations on numbers return, whatever the rules refer to, and none ends with the problem
that a parser does not hold a row. -/
theorem terminates (built : g.Built) :
    (∀ p ∈ g.parsers, ∀ q ∈ p.children, g.parser? q.id = some q ∧ q.id.raw < p.id.raw) ∧
    (∀ id node rowId items, .transform id node rowId items ∈ g.parsers →
      g.parser? rowId = some (.row rowId items)) ∧
    (∀ id rowId items index, .pick id rowId items index ∈ g.parsers →
      g.parser? rowId = some (.row rowId items)) ∧
    ∀ depth, g.callDepth ≤ depth → g.ReturnsAt depth ∧ g.FindsRowsAt depth := by
  have h := built.ordered
  refine ⟨fun p hp q hq => ?_, fun id node rowId items hp => h.wf.parser?_row hp rfl,
    fun id rowId items index hp => h.wf.parser?_row hp rfl,
    fun depth enough => ⟨h.returnsAt enough, h.findsRowsAt enough⟩⟩
  obtain ⟨declared, less⟩ := h.child hp hq
  exact ⟨h.wf.numbered q declared, less⟩

end Grammar

/-! ## Sums

An expression is a term, or a sum of a term and an expression; a term is a number, or an expression
between bars. -/

namespace Sums

open Grammar

/-- The token `+`. -/
def plus : Parser := .token ⟨0⟩ ⟨1⟩ none
/-- The token `|`. -/
def bar : Parser := .token ⟨1⟩ ⟨2⟩ none
/-- The digits `0`. -/
def digits : Parser := .token ⟨2⟩ ⟨3⟩ (some "0")
/-- A reference to the rule of expressions. -/
def anExpr : Parser := .defer ⟨3⟩ ⟨0⟩
/-- A reference to the rule of terms. -/
def aTerm : Parser := .defer ⟨4⟩ ⟨1⟩
/-- A term, a plus sign and an expression. -/
def sum : Parser := .transform ⟨6⟩ ⟨2⟩ ⟨5⟩ [aTerm, plus, anExpr]
/-- A sum, or a term. -/
def expr : Parser := .choice ⟨7⟩ [sum, aTerm]
/-- A number, which stands for its digits. -/
def number : Parser := .transform ⟨9⟩ ⟨1⟩ ⟨8⟩ [digits]
/-- An expression between bars. -/
def group : Parser := .pick ⟨11⟩ ⟨10⟩ [bar, anExpr, bar] 1
/-- A number, or an expression between bars. -/
def term : Parser := .choice ⟨12⟩ [number, group]

/-- The node types and token kinds of sums. -/
def registries : Grammar where
  nodes := (({} : NodeTypes).declare "Expr" none { abstract := true }).2
    |>.declare "Number" (some ⟨0⟩) { tokenNode := true } |>.2.declare "Sum" (some ⟨0⟩) {}
    |>.2.addField ⟨2⟩ "left" |>.2.addField ⟨2⟩ "right" |>.2
  kinds := (({} : TokenKinds).declareLiteral "Plus" "+").2.declareLiteral "Bar" "|"
    |>.2.declarePattern "Digits" |>.2

/-- The rules of expressions and of terms, which refer to each other. -/
def grammar : Grammar :=
  registries.declareRule "expr" |>.2.declareRule "term" |>.2.token ⟨1⟩ none |>.2.token ⟨2⟩ none
    |>.2.token ⟨3⟩ (some "0") |>.2.defer ⟨0⟩ |>.2.defer ⟨1⟩
    |>.2.transform ⟨2⟩ [aTerm, plus, anExpr] |>.2.choice [sum, aTerm]
    |>.2.transform ⟨1⟩ [digits] |>.2.pick [bar, anExpr, bar] 1 |>.2.choice [number, group]
    |>.2.defineRule ⟨0⟩ expr |>.defineRule ⟨1⟩ term

theorem built_registries : registries.Built :=
  Built.empty.step (.nodes (.declare "Expr" none { abstract := true } nofun))
    |>.step (.nodes (.declare "Number" (some ⟨0⟩) { tokenNode := true } (by decide)))
    |>.step (.nodes (.declare "Sum" (some ⟨0⟩) {} (by decide)))
    |>.step (.nodes (.addField ⟨2⟩ "left" (by decide)))
    |>.step (.nodes (.addField ⟨2⟩ "right" (by decide)))
    |>.step (.kinds (.declareLiteral "Plus" "+"))
    |>.step (.kinds (.declareLiteral "Bar" "|"))
    |>.step (.kinds (.declarePattern "Digits"))

/-- Sums are declared step by step. -/
theorem built : grammar.Built := by
  refine built_registries.step (.declareRule "expr") |>.step (.declareRule "term")
    |>.step (.token ⟨1⟩ none ?_) |>.step (.token ⟨2⟩ none ?_) |>.step (.token ⟨3⟩ (some "0") ?_)
    |>.step (.defer ⟨0⟩ ?_) |>.step (.defer ⟨1⟩ ?_)
    |>.step (.transform ⟨2⟩ [aTerm, plus, anExpr] ?_ ?_) |>.step (.choice [sum, aTerm] ?_)
    |>.step (.transform ⟨1⟩ [digits] ?_ ?_) |>.step (.pick [bar, anExpr, bar] 1 ?_)
    |>.step (.choice [number, group] ?_)
    |>.step (.defineRule ⟨0⟩ expr ?_) |>.step (.defineRule ⟨1⟩ term ?_)
  all_goals
    first
    | exact mem_parsers rfl
    | exact forall_mem_parsers rfl
    | exact Index.mem_upTo.mpr (by decide +kernel)

/-- The rules of sums are followed from each other, and a sum is an expression. -/
theorem terminates_sums : grammar.Built ∧ grammar.callDepth = 66 ∧
    (grammar.typeOfAt 66 [] ⟨3⟩).run ∅ = some (.node ⟨0⟩, ∅) ∧
    grammar.createsNodeAt 66 ⟨11⟩ = some false ∧
    ∃ s queue, grammar.buildAt 66 { mode := .bestEffort } {} = some (.ok s, queue) := by
  have depth : grammar.callDepth = 66 := by with_unfolding_all rfl
  obtain ⟨-, -, -, ends⟩ := terminates built
  obtain ⟨returned, -⟩ := ends 66 (Nat.le_of_eq depth)
  refine ⟨built, depth, (returned.typeOf anExpr (mem_parsers rfl)).trans ?_,
    (returned.createsNode group (mem_parsers rfl)).trans ?_, ?_⟩
  · with_unfolding_all rfl
  · with_unfolding_all rfl
  · obtain ⟨s, ended⟩ := eq_ok_of_isSome (by decide +kernel :
      (grammar.buildUnparsers { mode := .bestEffort } {}).1.toOption.isSome = true)
    exact ⟨s, _, (returned.build _ {}).trans (congrArg some ended)⟩

end Sums

end Unparsing
