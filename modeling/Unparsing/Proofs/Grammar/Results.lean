import Mathlib.Logic.Relation
import Unparsing.Proofs.Grammar.Built
import Unparsing.Proofs.Grammar.Choice
import Unparsing.Proofs.Grammar.Visiting

/-!
# Proofs/Grammar/Results — what a parser yields is true of all its results

The results of a parser are what the parsers at the ends of all ways through optionals, wrappers,
choices, picks and rules build (`Grammar.Results`).  The yield of a parser describes them all
(`Grammar.results_of_yield`), if no choice on the way has results that have nothing in common: such
a choice yields nothing, and a choice around it passes it over (`Expressions.mixed_yields_paren`).

Rules may refer to each other, and the yield leaves out the rules being followed.  Nothing is lost
by that: what is found by coming back to a rule is found without (`Grammar.Avoiding.cut`).
-/

namespace Unparsing

/-! ## Results -/

namespace Parser

/-- What the parser builds itself. -/
def result? : Parser → Option Yield
  | transform _ node .. | list _ node .. | null _ node | skip _ node => some (.node node)
  | optBool _ _ alternatives => some (.node alternatives.base)
  | token .. => some .token
  | row .. | pick .. | opt .. | choice .. | defer .. | predicate .. | noBacktrack ..
  | dontSkip .. =>
    none

/-- The rule that the parser refers to. -/
def rule? : Parser → Option RuleId
  | defer _ rule => some rule
  | _ => none

end Parser

namespace Grammar

variable {g : Grammar} {p q : Parser} {r : Yield}

/-- The parser hands over what another one yields as its own. -/
inductive HandsOver (g : Grammar) : Parser → Parser → Prop
  | opt (id : ParserId) (inner : Parser) (tolerant : Bool) :
      HandsOver g (.opt id inner tolerant) inner
  | predicate (id : ParserId) (inner : Parser) (property : String) :
      HandsOver g (.predicate id inner property) inner
  | dontSkip (id : ParserId) (inner : Parser) : HandsOver g (.dontSkip id inner) inner
  | choice (id : ParserId) {branches : List Parser} {branch : Parser} :
      branch ∈ branches → HandsOver g (.choice id branches) branch
  | pick (id rowId : ParserId) {items : List Parser} {index : Nat} {item : Parser} :
      items[index]? = some item → HandsOver g (.pick id rowId items index) item
  | defer (id : ParserId) {rule : RuleId} {root : Parser} :
      g.root? rule = some root → HandsOver g (.defer id rule) root

/-- **The results of a parser**: what it builds itself, and the results that it hands over. -/
inductive Results (g : Grammar) : Parser → Yield → Prop
  | own {p : Parser} {r : Yield} : p.result? = some r → Results g p r
  | handed {p q : Parser} {r : Yield} : g.HandsOver p q → Results g q r → Results g p r

/-- One parser hands over to another, in any number of steps. -/
def LeadsTo (g : Grammar) : Parser → Parser → Prop := Relation.ReflTransGen g.HandsOver

/-- No choice that the parser leads to has results without anything in common. -/
def Coherent (g : Grammar) (p : Parser) : Prop :=
  ∀ id branches, g.LeadsTo p (.choice id branches) →
    Yield.Compatible g.nodes (g.Results (.choice id branches))

variable {visiting : List RuleId} {rule : RuleId} {root : Parser} {own : Yield}

/-! ## Following a parser to its results -/

/-- The parser only passes on what another one yields. -/
structure Passes (g : Grammar) (p q : Parser) : Prop where
  step : g.HandsOver p q
  only (q' : Parser) : g.HandsOver p q' → q' = q
  plain : p.rule? = none
  yields (visiting : List RuleId) : g.yieldUnder visiting p = g.yieldUnder visiting q

/-- The parser builds nothing and hands nothing over. -/
structure Ends (g : Grammar) (p : Parser) : Prop where
  builds : p.result? = none
  stops (q : Parser) : ¬g.HandsOver p q
  yields (visiting : List RuleId) : g.yieldUnder visiting p = .nothing

theorem yieldUnder_of_result (built : p.result? = some own) : g.yieldUnder visiting p = own := by
  cases p <;> first | exact Option.some.inj built | cases built

/-- A rule that is being followed already contributes nothing. -/
theorem yieldUnder_defer_of_mem {id : ParserId} (followed : rule ∈ visiting) :
    g.yieldUnder visiting (.defer id rule) = .nothing :=
  (g.ruleYield_eq visiting rule).trans (if_pos followed)

theorem yieldUnder_defer_of_undefined {id : ParserId} (undefined : g.root? rule = none) :
    g.yieldUnder visiting (.defer id rule) = .nothing := by
  refine (g.ruleYield_eq visiting rule).trans ?_
  rw [undefined, Option.elim_none, ite_self]

/-- A reference to a rule yields what the rule's root does, with the rule followed from there on. -/
theorem yieldUnder_defer {id : ParserId} (rooted : g.root? rule = some root)
    (fresh : rule ∉ visiting) :
    g.yieldUnder visiting (.defer id rule) = g.yieldUnder (rule :: visiting) root := by
  refine (g.ruleYield_eq visiting rule).trans ?_
  rw [if_neg fresh, rooted, Option.elim_some]

/-- A choice joins what its branches yield. -/
theorem yieldUnder_choice {id : ParserId} {branches : List Parser} :
    g.yieldUnder visiting (.choice id branches) =
      ((branches.map (g.yieldUnder visiting)).foldl (Yield.merge g.nodes) none).getD .nothing :=
  congrArg (·.getD .nothing) (Parser.yieldMerged_eq_foldl ..)

/-- **Induction along the ways to the results of a parser,** with the rules being followed. -/
theorem yieldUnder_induction {motive : List RuleId → Parser → Prop}
    (builds : ∀ visiting p own, p.result? = some own → motive visiting p)
    (ends : ∀ visiting p, g.Ends p → motive visiting p)
    (passes : ∀ visiting p q, g.Passes p q → motive visiting q → motive visiting p)
    (followed : ∀ visiting id rule, rule ∈ visiting → motive visiting (.defer id rule))
    (follows : ∀ visiting id rule root, g.root? rule = some root → rule ∉ visiting →
      motive (rule :: visiting) root → motive visiting (.defer id rule))
    (choice : ∀ visiting id branches, (∀ branch ∈ branches, motive visiting branch) →
      motive visiting (.choice id branches))
    (visiting : List RuleId) (p : Parser) : motive visiting p := by
  induction visiting using g.visiting_induction generalizing p with
  | step visiting inside =>
    induction p using Parser.induction with
    | transform | list | null | skip | optBool | token => exact builds _ _ _ rfl
    | row | noBacktrack => exact ends _ _ ⟨rfl, nofun, fun _ => rfl⟩
    | opt id inner tolerant ih =>
      exact passes _ _ _ ⟨.opt .., fun _ step => by cases step; rfl, rfl, fun _ => rfl⟩ ih
    | predicate id inner property ih =>
      exact passes _ _ _ ⟨.predicate .., fun _ step => by cases step; rfl, rfl, fun _ => rfl⟩ ih
    | dontSkip id inner ih =>
      exact passes _ _ _ ⟨.dontSkip .., fun _ step => by cases step; rfl, rfl, fun _ => rfl⟩ ih
    | choice id branches ih => exact choice _ id branches ih
    | pick id rowId items index ih =>
      have yields (visiting : List RuleId) : g.yieldUnder visiting (.pick id rowId items index) =
          (items[index]?).elim .nothing (g.yieldUnder visiting) := Parser.yieldNth_eq ..
      cases picked : items[index]? with
      | none =>
        refine ends _ _ ⟨rfl, fun q step => ?_, fun visiting => by rw [yields, picked]; rfl⟩
        cases step with
        | pick _ _ found => cases picked.symm.trans found
      | some item =>
        refine passes _ _ item ⟨.pick id rowId picked, fun q step => ?_, rfl,
          fun visiting => by rw [yields, picked]; rfl⟩ (ih item (List.mem_of_getElem? picked))
        cases step with
        | pick _ _ found => exact Option.some.inj (found.symm.trans picked)
    | defer id rule =>
      cases rooted : g.root? rule with
      | none =>
        refine ends _ _ ⟨rfl, fun q step => ?_, fun _ => yieldUnder_defer_of_undefined rooted⟩
        cases step with
        | defer _ rooted' => cases rooted.symm.trans rooted'
      | some root =>
        by_cases known : rule ∈ visiting
        · exact followed visiting id rule known
        · exact follows visiting id rule root rooted known (inside rule root rooted known root)

/-! ## Results found without the rules being followed -/

/-- The results that are found without following the rules in a list. -/
inductive Avoiding (g : Grammar) (visiting : List RuleId) : Parser → Yield → Prop
  | own {p : Parser} {r : Yield} : p.result? = some r → Avoiding g visiting p r
  | handed {p q : Parser} {r : Yield} : (∀ rule ∈ p.rule?, rule ∉ visiting) → g.HandsOver p q →
      Avoiding g visiting q r → Avoiding g visiting p r

/-- What is reached without following some rules is reached. -/
theorem Avoiding.results (h : g.Avoiding visiting p r) : g.Results p r := by
  induction h with
  | own own => exact .own own
  | handed _ step _ ih => exact .handed step ih

/-- If no rule is to be avoided, every result is reached. -/
theorem Results.avoiding (h : g.Results p r) : g.Avoiding [] p r := by
  induction h with
  | own own => exact .own own
  | handed step _ ih => exact .handed (fun _ _ => List.not_mem_nil) step ih

theorem Avoiding.mono {visiting' : List RuleId} (h : g.Avoiding visiting p r)
    (sub : visiting' ⊆ visiting) : g.Avoiding visiting' p r := by
  induction h with
  | own own => exact .own own
  | handed avoids step _ ih => exact .handed (fun rule h h' => avoids rule h (sub h')) step ih

/-- **A result found by coming back to a rule** is found from its root without. -/
theorem Avoiding.cut (rooted : g.root? rule = some root) (h : g.Avoiding visiting p r) :
    g.Avoiding (rule :: visiting) p r ∨ g.Avoiding (rule :: visiting) root r := by
  induction h with
  | own own => exact .inl (.own own)
  | @handed p q r avoids step _ ih =>
    obtain below | again := ih
    · by_cases here : p.rule? = some rule
      · cases step with
        | defer id rooted' =>
          cases here
          cases rooted.symm.trans rooted'
          exact .inr below
        | _ => cases here
      · refine .inl (.handed (fun rule' h h' => ?_) step below)
        obtain rfl | h' := List.mem_cons.mp h'
        · exact here h
        · exact avoids rule' h h'
    · exact .inr again

/-- From the root of a rule, the rule itself need not be followed again. -/
theorem avoiding_root (rooted : g.root? rule = some root) :
    g.Avoiding (rule :: visiting) root r ↔ g.Avoiding visiting root r :=
  ⟨fun h => h.mono (List.subset_cons_self _ _), fun h => (h.cut rooted).elim id id⟩

/-- A result is the parser's own, or one of those that the parser hands over to. -/
theorem avoiding_iff : g.Avoiding visiting p r ↔ p.result? = some r ∨
    (∀ rule ∈ p.rule?, rule ∉ visiting) ∧ ∃ q, g.HandsOver p q ∧ g.Avoiding visiting q r := by
  constructor
  · rintro (own | ⟨avoids, step, rest⟩)
    · exact .inl own
    · exact .inr ⟨avoids, _, step, rest⟩
  · rintro (own | ⟨avoids, _, step, rest⟩)
    · exact .own own
    · exact .handed avoids step rest

/-- A parser that builds something hands nothing over. -/
theorem avoiding_of_result (built : p.result? = some own) :
    g.Avoiding visiting p r ↔ r = own := by
  rw [avoiding_iff, built]
  constructor
  · rintro (same | ⟨-, q, step, -⟩)
    · exact (Option.some.inj same).symm
    · cases step <;> cases built
  · rintro rfl
    exact .inl rfl

/-- A parser that hands over to just one other has its results. -/
theorem Passes.avoiding (h : g.Passes p q) : g.Avoiding visiting p r ↔ g.Avoiding visiting q r := by
  have none : p.result? = none := by cases h.step <;> rfl
  rw [avoiding_iff, none, h.plain]
  constructor
  · rintro (⟨⟨⟩⟩ | ⟨-, q', step, rest⟩)
    exact h.only q' step ▸ rest
  · exact fun rest => .inr ⟨nofun, q, h.step, rest⟩

/-- A parser without a result of its own that hands over to nothing has none. -/
theorem Ends.not_avoiding (h : g.Ends p) : ¬g.Avoiding visiting p r := by
  rw [avoiding_iff, h.builds]
  rintro (⟨⟨⟩⟩ | ⟨-, q, step, -⟩)
  exact h.stops q step

/-- A choice has the results of its branches. -/
theorem avoiding_choice {id : ParserId} {branches : List Parser} :
    g.Avoiding visiting (.choice id branches) r ↔
      ∃ branch ∈ branches, g.Avoiding visiting branch r := by
  rw [avoiding_iff]
  constructor
  · rintro (⟨⟨⟩⟩ | ⟨-, q, step, rest⟩)
    cases step with
    | choice _ hq => exact ⟨q, hq, rest⟩
  · rintro ⟨q, hq, rest⟩
    exact .inr ⟨nofun, q, .choice id hq, rest⟩

/-- A reference to a rule that is to be avoided has no results. -/
theorem not_avoiding_of_mem {id : ParserId} (followed : rule ∈ visiting) :
    ¬g.Avoiding visiting (.defer id rule) r := by
  rw [avoiding_iff]
  rintro (⟨⟨⟩⟩ | ⟨avoids, -⟩)
  exact avoids rule rfl followed

/-- A reference has the results of the rule's root, while the rule is being followed. -/
theorem avoiding_defer {id : ParserId} (rooted : g.root? rule = some root)
    (fresh : rule ∉ visiting) :
    g.Avoiding visiting (.defer id rule) r ↔ g.Avoiding (rule :: visiting) root r := by
  rw [avoiding_root rooted, avoiding_iff]
  constructor
  · rintro (⟨⟨⟩⟩ | ⟨-, q, step, rest⟩)
    cases step with
    | defer _ rooted' =>
      cases rooted.symm.trans rooted'
      exact rest
  · refine fun rest => .inr ⟨fun rule' same => ?_, root, .defer id rooted, rest⟩
    cases same
    exact fresh

/-- Inside a coherent parser, everything is coherent. -/
theorem Coherent.of_handsOver (h : g.Coherent p) (step : g.HandsOver p q) : g.Coherent q :=
  fun id branches leads => h id branches (.head step leads)

/-! ## The yield of a parser -/

theorem describes_own (built : p.result? = some own) : own.Describes g.nodes own := by
  refine .self g.nodes ?_
  rintro rfl
  cases p <;> cases built

/-- **The yield of a parser describes its results**, those aside that are found through the rules
being followed. -/
theorem yieldUnder_describesAll (coherent : g.Coherent p) :
    (g.yieldUnder visiting p).DescribesAll g.nodes (g.Avoiding visiting p) := by
  induction visiting, p using g.yieldUnder_induction with
  | builds visiting p own built =>
    rw [yieldUnder_of_result built]
    refine ⟨fun r hr => ?_, fun _ => ⟨own, .own built⟩⟩
    obtain rfl := (avoiding_of_result built).mp hr
    exact describes_own built
  | ends visiting p ends =>
    rw [ends.yields]
    exact Yield.describesAll_nothing fun _ => ends.not_avoiding
  | passes visiting p q passes ih =>
    rw [passes.yields]
    exact (ih (coherent.of_handsOver passes.step)).congr fun _ => passes.avoiding
  | followed visiting id rule followed =>
    rw [yieldUnder_defer_of_mem followed]
    exact Yield.describesAll_nothing fun _ => not_avoiding_of_mem followed
  | follows visiting id rule root rooted fresh ih =>
    rw [yieldUnder_defer rooted fresh]
    exact (ih (coherent.of_handsOver (.defer id rooted))).congr fun _ =>
      avoiding_defer rooted fresh
  | choice visiting id branches ih =>
    rw [yieldUnder_choice]
    have results (r : Yield) : g.Avoiding visiting (.choice id branches) r ↔
        False ∨ ∃ branch ∈ branches, g.Avoiding visiting branch r := by
      rw [avoiding_choice, false_or]
    refine Yield.DescribesAll.congr ?_ results
    refine Yield.foldl_merge_describesAll nofun (Yield.describesAll_nothing fun _ => False.elim)
      (fun branch hb => ih branch hb (coherent.of_handsOver (.choice id hb))) ?_
    intro r r' hr hr'
    exact coherent id branches .refl r r' ((results r).mpr hr).results
      ((results r').mpr hr').results

/-- **The yield of a parser describes its results.** -/
theorem yield_describesAll (coherent : g.Coherent p) :
    (g.yield p).DescribesAll g.nodes (g.Results p) :=
  (yieldUnder_describesAll coherent).congr fun _ => ⟨Results.avoiding, Avoiding.results⟩

/-- **Whatever describes the results of a parser is above its yield:** the yield is the closest
description. -/
theorem yieldUnder_below {w : Yield} (describes : ∀ r, g.Results p r → w.Describes g.nodes r) :
    Yield.Below g.nodes (g.yieldUnder visiting p).contribution (some w) := by
  induction visiting, p using g.yieldUnder_induction with
  | builds visiting p own built =>
    have proper := (describes_own (g := g) built).ne_nothing
    rw [yieldUnder_of_result built, Yield.contribution_of_ne_nothing proper]
    exact .describes (describes own (.own built))
  | ends visiting p ends =>
    rw [ends.yields]
    exact .start _
  | passes visiting p q passes ih =>
    rw [passes.yields]
    exact ih fun r hr => describes r (.handed passes.step hr)
  | followed visiting id rule followed =>
    rw [yieldUnder_defer_of_mem followed]
    exact .start _
  | follows visiting id rule root rooted fresh ih =>
    rw [yieldUnder_defer rooted fresh]
    exact ih fun r hr => describes r (.handed (.defer id rooted) hr)
  | choice visiting id branches ih =>
    rw [yieldUnder_choice]
    refine Yield.Below.contribution_getD ?_
    refine Yield.foldl_merge_below_iff.mpr ⟨.start _, fun y hy => ?_⟩
    obtain ⟨branch, hb, rfl⟩ := List.mem_map.mp hy
    exact ih branch hb fun r hr => describes r (.handed (.choice id hb) hr)

/-- Parsers with the same results yield the same, if they yield what describes these. -/
theorem yield_eq_of_results (same : ∀ r, g.Results p r ↔ g.Results q r)
    (hp : (g.yield p).DescribesAll g.nodes (g.Results p))
    (hq : (g.yield q).DescribesAll g.nodes (g.Results q)) : g.yield p = g.yield q := by
  have below {p q : Parser} (same : ∀ r, g.Results p r ↔ g.Results q r)
      (hq : (g.yield q).DescribesAll g.nodes (g.Results q)) :
      Yield.Below g.nodes (g.yield p).contribution (some (g.yield q)) :=
    yieldUnder_below fun r hr => hq.each r ((same r).mp hr)
  by_cases idle : g.yield p = .nothing
  · rw [idle] at hp ⊢
    by_contra busy
    obtain ⟨r, hr⟩ := hq.exists_result (Ne.symm busy)
    exact hp.not_of_nothing r ((same r).mpr hr)
  · obtain ⟨r, hr⟩ := hp.exists_result idle
    have busy : g.yield q ≠ .nothing := (hq.each r ((same r).mp hr)).ne_nothing
    have upper := below same hq
    have lower := below (fun r => (same r).symm) hp
    rw [Yield.contribution_of_ne_nothing idle] at upper
    rw [Yield.contribution_of_ne_nothing busy] at lower
    exact Option.some.inj (upper.antisymm lower)

/-! ## The theorem -/

/-- **All results of a parser that yields a node type** are of types that derive from it, if no
choice that the parser leads to has results without anything in common; likewise all results are
tokens if it yields tokens, and there are none if it yields nothing. -/
theorem results_of_yield (coherent : g.Coherent p) :
    (∀ n, g.yield p = .node n → ∀ r, g.Results p r → ∃ m, r = .node m ∧ n ∈ g.nodes.ancestry m) ∧
    (g.yield p = .token → ∀ r, g.Results p r → r = .token) ∧
    (g.yield p = .nothing → ∀ r, ¬g.Results p r) := by
  have h := yield_describesAll coherent
  refine ⟨fun n typed r result => ?_, fun typed r result => ?_, fun typed => ?_⟩
  · rw [typed] at h
    cases h.each r result with
    | @node _ m above => exact ⟨m, rfl, above⟩
  · rw [typed] at h
    cases h.each r result
    rfl
  · rw [typed] at h
    exact h.not_of_nothing

end Grammar

/-! ## A grammar of expressions

An expression is a number or an expression in parentheses; the rule refers to itself. -/

namespace Expressions

open Grammar

/-- The token `.`. -/
def dot : Parser := .token ⟨0⟩ ⟨1⟩ none
/-- A number, written as a dot. -/
def num : Parser := .transform ⟨2⟩ ⟨1⟩ ⟨1⟩ [dot]
/-- A reference to the rule of expressions. -/
def again : Parser := .defer ⟨3⟩ ⟨0⟩
/-- An expression in parentheses, which are left out. -/
def paren : Parser := .transform ⟨5⟩ ⟨2⟩ ⟨4⟩ [again]
/-- A number, a parenthesis, or the rule again. -/
def expr : Parser := .choice ⟨6⟩ [num, paren, again]
/-- A number, or a token that is none. -/
def numOrDot : Parser := .choice ⟨7⟩ [num, dot]
/-- What is no expression, or a parenthesis. -/
def mixed : Parser := .choice ⟨8⟩ [numOrDot, paren]

/-- Numbers and parentheses, both expressions. -/
def registries : Grammar where
  nodes := (({} : NodeTypes).declare "Expr" none { abstract := true }
    |>.2.declare "Num" (some ⟨0⟩) {} |>.2.declare "Paren" (some ⟨0⟩) {}).2
  kinds := (({} : TokenKinds).declareLiteral "Dot" ".").2

/-- The rule of expressions, and the choices of what is none. -/
def grammar : Grammar :=
  registries.declareRule "expr" |>.2.token ⟨1⟩ none |>.2.transform ⟨1⟩ [dot] |>.2.defer ⟨0⟩
    |>.2.transform ⟨2⟩ [again] |>.2.choice [num, paren, again] |>.2.choice [num, dot]
    |>.2.choice [numOrDot, paren] |>.2.defineRule ⟨0⟩ expr

theorem built : grammar.Built := by
  have registered : registries.Built := Built.empty.step (.nodes (.declare "Expr" none _ nofun))
    |>.step (.nodes (.declare "Num" (some ⟨0⟩) {} (by decide)))
    |>.step (.nodes (.declare "Paren" (some ⟨0⟩) {} (by decide)))
    |>.step (.kinds (.declareLiteral "Dot" "."))
  refine registered.step (.declareRule "expr")
    |>.step (.token ⟨1⟩ none (TokenKinds.first_mem_ids (by decide) _))
    |>.step (.transform ⟨1⟩ [dot] ?_ ?_)
    |>.step (.defer ⟨0⟩ ?_)
    |>.step (.transform ⟨2⟩ [again] ?_ ?_)
    |>.step (.choice [num, paren, again] ?_) |>.step (.choice [num, dot] ?_)
    |>.step (.choice [numOrDot, paren] ?_) |>.step (.defineRule ⟨0⟩ expr ?_)
  all_goals
    first
    | exact mem_parsers rfl
    | exact forall_mem_parsers rfl
    | exact Index.mem_upTo.mpr (by decide)

/-- The parsers that a reference to the rule leads to. -/
def reached : List Parser := [again, expr, num, paren]

theorem mem_reached {p q : Parser} (hp : p ∈ reached) (step : grammar.HandsOver p q) :
    q ∈ reached := by
  simp only [reached, List.mem_cons, List.not_mem_nil, or_false] at hp ⊢
  obtain rfl | rfl | rfl | rfl := hp
  · cases step with
    | defer _ rooted =>
      cases rooted
      exact .inr (.inl rfl)
  · cases step with
    | choice _ hq =>
      simp only [List.mem_cons, List.not_mem_nil, or_false] at hq
      obtain rfl | rfl | rfl := hq
      · exact .inr (.inr (.inl rfl))
      · exact .inr (.inr (.inr rfl))
      · exact .inl rfl
  · cases step
  · cases step

/-- A reference to the rule leads to nothing else. -/
theorem mem_reached_of_leadsTo {q : Parser} (leads : grammar.LeadsTo again q) : q ∈ reached := by
  induction leads with
  | refl => exact List.mem_cons_self
  | tail _ step ih => exact mem_reached ih step

/-- Whatever is reached builds expressions. -/
theorem describes_of_mem_reached {p : Parser} {r : Yield} (hp : p ∈ reached)
    (result : grammar.Results p r) : (Yield.node ⟨0⟩).Describes grammar.nodes r := by
  induction result with
  | own own =>
    simp only [reached, List.mem_cons, List.not_mem_nil, or_false] at hp
    obtain rfl | rfl | rfl | rfl := hp
    · cases own
    · cases own
    · cases own
      exact .node (by decide +kernel)
    · cases own
      exact .node (by decide +kernel)
  | handed step _ ih => exact ih (mem_reached hp step)

theorem coherent_again : grammar.Coherent again := by
  intro id branches leads r r' hr hr'
  have found := mem_reached_of_leadsTo leads
  exact ⟨.node ⟨0⟩, describes_of_mem_reached found hr, describes_of_mem_reached found hr'⟩

/-- The reference yields expressions, and all that it results in are such. -/
theorem results_of_again : grammar.yield again = .node ⟨0⟩ ∧
    ∀ r, grammar.Results again r → ∃ m, r = .node m ∧ ⟨0⟩ ∈ grammar.nodes.ancestry m := by
  have typed : grammar.yield again = .node ⟨0⟩ := by decide +kernel
  exact ⟨typed, (results_of_yield coherent_again).1 ⟨0⟩ typed⟩

/-- **A choice whose results have nothing in common is passed over.**  A number or a dot, or else an
expression in parentheses, yields parentheses, though some results are numbers and some dots. -/
theorem mixed_yields_paren : grammar.Built ∧ grammar.yield mixed = .node ⟨2⟩ ∧
    grammar.Results mixed .token ∧
    grammar.Results mixed (.node ⟨1⟩) ∧ ⟨2⟩ ∉ grammar.nodes.ancestry ⟨1⟩ := by
  have typed : grammar.yield mixed = .node ⟨2⟩ := by decide +kernel
  have inner : grammar.HandsOver mixed numOrDot := .choice _ List.mem_cons_self
  refine ⟨built, typed, ?_, ?_, by decide +kernel⟩
  · exact .handed inner (.handed (.choice _ (List.mem_cons_of_mem _ List.mem_cons_self)) (.own rfl))
  · exact .handed inner (.handed (.choice _ List.mem_cons_self) (.own rfl))

end Expressions

end Unparsing
