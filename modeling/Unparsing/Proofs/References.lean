import Unparsing.Proofs.Grammar.NodeCreation
import Unparsing.Proofs.Grammar.Results
import Unparsing.Proofs.Session.Reports

/-!
# Proofs/References — a reference stands for the root of its rule

A reference and the root of its rule have the same results.  What they yield is computed with
different rules being followed, and is the same unless results that have nothing in common are
passed over (`Grammar.yield_defer`, `Strokes.yield_stroke_again`).

Whether a reference creates a node is told from what it yields, and whether the root does from the
parsers that it leads to.  The root may lead to parsers that all create nodes, with nothing in
common or none at all, and then the reference creates none (`Grammar.createsNode_defer`,
`Strokes.createsNode_sign`).
-/

namespace Unparsing

namespace Grammar

variable {g : Grammar} {p : Parser} {r : Yield} {visiting : List RuleId} {rule : RuleId}
  {root : Parser} {id : ParserId}

/-! ## The rules being followed -/

/-- **The rules being followed** matter only to references to them. -/
theorem yieldUnder_congr {visiting' : List RuleId}
    (same : ∀ id rule, g.LeadsTo p (.defer id rule) → (rule ∈ visiting ↔ rule ∈ visiting')) :
    g.yieldUnder visiting p = g.yieldUnder visiting' p := by
  induction visiting, p using g.yieldUnder_induction generalizing visiting' with
  | builds visiting p own built => rw [yieldUnder_of_result built, yieldUnder_of_result built]
  | ends visiting p ends => rw [ends.yields, ends.yields]
  | passes visiting p q passes ih =>
    rw [passes.yields, passes.yields]
    exact ih fun id rule leads => same id rule (.head passes.step leads)
  | followed visiting id rule followed =>
    have followed' := (same id rule .refl).mp followed
    rw [yieldUnder_defer_of_mem followed, yieldUnder_defer_of_mem followed']
  | follows visiting id rule root rooted fresh ih =>
    have fresh' : rule ∉ visiting' := fun followed => fresh ((same id rule .refl).mpr followed)
    rw [yieldUnder_defer rooted fresh, yieldUnder_defer rooted fresh']
    refine ih fun id' rule' leads => ?_
    rw [List.mem_cons, List.mem_cons, same id' rule' (.head (.defer id rooted) leads)]
  | choice visiting id branches ih =>
    rw [yieldUnder_choice, yieldUnder_choice]
    have yields : branches.map (g.yieldUnder visiting) = branches.map (g.yieldUnder visiting') :=
      List.map_congr_left fun branch hb =>
        ih branch hb fun id' rule leads => same id' rule (.head (.choice id hb) leads)
    rw [yields]

/-! ## The results of a reference -/

/-- What a reference results in is what the root of its rule does. -/
theorem results_defer (rooted : g.root? rule = some root) :
    g.Results (.defer id rule) r ↔ g.Results root r := by
  constructor
  · rintro (⟨⟨⟩⟩ | ⟨step, rest⟩)
    cases step with
    | defer _ rooted' =>
      cases rooted.symm.trans rooted'
      exact rest
  · exact .handed (.defer id rooted)

/-- A parser results in all that it leads to. -/
theorem Results.of_leadsTo {q : Parser} (leads : g.LeadsTo p q) (h : g.Results q r) :
    g.Results p r := by
  induction leads using Relation.ReflTransGen.head_induction_on with
  | refl => exact h
  | head step _ ih => exact .handed step ih

/-- What a coherent parser leads to is coherent. -/
theorem Coherent.of_leadsTo {q : Parser} (h : g.Coherent p) (leads : g.LeadsTo p q) :
    g.Coherent q :=
  fun id branches further => h id branches (leads.trans further)

/-- A parser whose results all have something in common leads to no others. -/
theorem coherent_of_compatible (compatible : Yield.Compatible g.nodes (g.Results p)) :
    g.Coherent p :=
  fun _ _ leads r r' hr hr' => compatible r r' (hr.of_leadsTo leads) (hr'.of_leadsTo leads)

/-- A reference yields what its rule does, if all results have something in common. -/
theorem yield_defer_of_compatible (rooted : g.root? rule = some root)
    (compatible : Yield.Compatible g.nodes (g.Results root)) :
    g.yield (.defer id rule) = g.yield root := by
  have both : Yield.Compatible g.nodes (g.Results (.defer id rule)) := fun r r' hr hr' =>
    compatible r r' ((results_defer rooted).mp hr) ((results_defer rooted).mp hr')
  exact yield_eq_of_results (fun r => results_defer rooted)
    (yield_describesAll (coherent_of_compatible both))
    (yield_describesAll (coherent_of_compatible compatible))

/-- A parser that yields anything has results. -/
theorem exists_result_of_yield (busy : g.yield p ≠ .nothing) : ∃ r, g.Results p r := by
  by_contra none
  -- Without results, tokens and nodes alike describe them all; nothing yielded is below both.
  have below (w : Yield) : Yield.Below g.nodes (some (g.yield p)) (some w) := by
    rw [← Yield.contribution_of_ne_nothing busy]
    exact yieldUnder_below fun r hr => absurd ⟨r, hr⟩ none
  have asToken := (below .token).describes_of_ne_nothing nofun
  have asNode := (below (.node ⟨0⟩)).describes_of_ne_nothing nofun
  generalize g.yield p = y at asToken asNode
  cases asToken
  cases asNode

/-- Results that are all described by one yield have something in common. -/
theorem compatible_of_describes (y : Yield) (h : ∀ r, g.Results p r → y.Describes g.nodes r) :
    Yield.Compatible g.nodes (g.Results p) :=
  fun r r' hr hr' => ⟨y, h r hr, h r' hr'⟩

/-- **A reference yields what the root of its rule yields,** if the root does not lead to a
reference to the rule, or if all its results have something in common.  In any case, if it yields
something else, then what one of the two yields is not true of all results. -/
theorem yield_defer (rooted : g.root? rule = some root) (id : ParserId) :
    ((∀ id, ¬g.LeadsTo root (.defer id rule)) → g.yield (.defer id rule) = g.yield root) ∧
    (Yield.Compatible g.nodes (g.Results root) → g.yield (.defer id rule) = g.yield root) ∧
    (g.yield (.defer id rule) ≠ g.yield root → ∃ y ∈ [g.yield (.defer id rule), g.yield root],
      y ≠ .nothing ∧ ∃ r, g.Results root r ∧ ¬y.Describes g.nodes r) := by
  refine ⟨fun once => ?_, yield_defer_of_compatible rooted, fun differ => ?_⟩
  · rw [yield, yieldUnder_defer rooted List.not_mem_nil]
    refine yieldUnder_congr fun id' rule' leads => ?_
    have other : rule' ≠ rule := fun again => once id' (again ▸ leads)
    simp [other]
  · have untrue (y : Yield) : ∃ r, g.Results root r ∧ ¬y.Describes g.nodes r := by
      by_contra! described
      exact differ (yield_defer_of_compatible rooted (compatible_of_describes y described))
    by_cases idle : g.yield root = .nothing
    · exact ⟨_, List.mem_cons_self, idle ▸ differ, untrue _⟩
    · exact ⟨_, List.mem_cons_of_mem _ List.mem_cons_self, idle, untrue _⟩

/-! ## Creating nodes -/

/-- No choice inside one that the parser leads to has results without anything in common. -/
def CoherentInside (g : Grammar) (p : Parser) : Prop :=
  ∀ id branches, g.LeadsTo p (.choice id branches) → ∀ q ∈ branches, g.Coherent q

/-- What a parser that is coherent inside hands over to is coherent inside. -/
theorem CoherentInside.of_handsOver {q : Parser} (h : g.CoherentInside p)
    (step : g.HandsOver p q) : g.CoherentInside q :=
  fun id branches leads => h id branches (.head step leads)

/-- A reference is coherent inside if the root of its rule is. -/
theorem coherentInside_defer (rooted : g.root? rule = some root) (h : g.CoherentInside root) :
    g.CoherentInside (.defer id rule) := by
  intro id' branches leads
  obtain same | ⟨q, step, leads⟩ := leads.cases_head
  · cases same
  · cases step with
    | defer _ rooted' =>
      cases rooted.symm.trans rooted'
      exact h id' branches leads

/-- **What is yielded at all is true of all results,** if no choice with results that have nothing
in common lies inside another. -/
theorem describes_of_coherentInside (inside : g.CoherentInside p)
    (busy : g.yieldUnder visiting p ≠ .nothing) (found : g.Avoiding visiting p r) :
    (g.yieldUnder visiting p).Describes g.nodes r := by
  induction visiting, p using g.yieldUnder_induction with
  | builds visiting p own built =>
    rw [yieldUnder_of_result built]
    obtain rfl := (avoiding_of_result built).mp found
    exact describes_own built
  | ends visiting p ends => exact absurd (ends.yields visiting) busy
  | passes visiting p q passes ih =>
    rw [passes.yields] at busy ⊢
    exact ih (inside.of_handsOver passes.step) busy (passes.avoiding.mp found)
  | followed visiting id rule followed => exact absurd (yieldUnder_defer_of_mem followed) busy
  | follows visiting id rule root rooted fresh ih =>
    rw [yieldUnder_defer rooted fresh] at busy ⊢
    exact ih (inside.of_handsOver (.defer id rooted)) busy ((avoiding_defer rooted fresh).mp found)
  | choice visiting id branches ih =>
    obtain ⟨branch, hb, found⟩ := avoiding_choice.mp found
    have described := (yieldUnder_describesAll (inside id branches .refl branch hb)).each r found
    rw [yieldUnder_choice] at busy ⊢
    refine Yield.Describes.trans ?_ described
    exact Yield.getD_foldl_merge_describes busy (List.mem_map_of_mem hb) described.ne_nothing

/-- A reference creates a node just if it yields a node type. -/
theorem createsNode_defer_eq : g.createsNode (.defer id rule) =
    (g.yield (.defer id rule)).node?.isSome := rfl

/-- Recording a rule that stands for a reference reports nothing, if the reference creates a
node. -/
theorem compute_of_createsNode_defer {other : RuleId}
    (rooted : g.root? other = some (.defer id rule))
    (creates : g.createsNode (.defer id rule) = true) (q : Progress) :
    Session.compute g other q = .ok () q := by
  cases user : (g.rule? other).any (·.dontSkip) with
  | true => simp [Session.compute, user]
  | false =>
    -- A survey finds nothing at a reference.
    have noted : forM (Parser.defer id rule).survey (Session.note g (g.ruleName other)) q.session =
        .ok () q.session := rfl
    rw [Session.compute_of_noted user rooted noted, if_pos creates]

/-- A parser that creates a node and keeps what its picks lead with yields a node type, if its
results have something in common. -/
theorem exists_node_of_createsNode (creates : g.createsNode p = true)
    (leading : ∀ id rowId items index, .pick id rowId items index ∈ p.outerPicks → index = 0)
    (result : g.Results p r) (compatible : Yield.Compatible g.nodes (g.Results p)) :
    ∃ n, g.yield p = .node n := by
  cases yields : g.yield p with
  | node n => exact ⟨n, rfl⟩
  | token =>
    obtain ⟨id, rowId, items, inside⟩ := Parser.exists_pick_of_yield_token creates yields
    cases leading id rowId items 1 inside
  | nothing =>
    have described := yield_describesAll (coherent_of_compatible compatible)
    rw [yields] at described
    exact absurd result (described.not_of_nothing r)

/-- **A reference to a rule whose root creates a node** creates one too, if the root has results and
they have something in common: then a rule that stands for the reference is recorded without a
report.  No other references create nodes, as long as no choice whose results have nothing in common
lies inside another. -/
theorem createsNode_defer (rooted : g.root? rule = some root) (creates : g.createsNode root = true)
    (leading : ∀ id rowId items index, .pick id rowId items index ∈ root.outerPicks → index = 0)
    (id : ParserId) :
    ((∃ r, g.Results root r) → Yield.Compatible g.nodes (g.Results root) →
      g.createsNode (.defer id rule) = true ∧
      ∀ other, g.root? other = some (.defer id rule) → ∀ q, Session.compute g other q = .ok () q) ∧
    (g.createsNode (.defer id rule) = true → g.CoherentInside root →
      (∃ r, g.Results root r) ∧ Yield.Compatible g.nodes (g.Results root)) := by
  rw [createsNode_defer_eq]
  constructor
  · rintro ⟨r, result⟩ compatible
    obtain ⟨n, yields⟩ := exists_node_of_createsNode creates leading result compatible
    have created : g.createsNode (.defer id rule) = true := by
      rw [createsNode_defer_eq, yield_defer_of_compatible rooted compatible, yields]
      rfl
    exact ⟨created, fun other rooted' q => compute_of_createsNode_defer rooted' created q⟩
  · intro created inside
    have busy : g.yield (.defer id rule) ≠ .nothing := by
      intro idle
      rw [idle] at created
      cases created
    obtain ⟨r, result⟩ := exists_result_of_yield busy
    have described (r : Yield) (hr : g.Results root r) :
        (g.yield (.defer id rule)).Describes g.nodes r :=
      describes_of_coherentInside (coherentInside_defer rooted inside) busy
        ((results_defer rooted).mpr hr).avoiding
    exact ⟨⟨r, (results_defer rooted).mp result⟩, compatible_of_describes _ described⟩

end Grammar

namespace Expressions

open Grammar

/-- All that an expression can be is an expression. -/
theorem compatible_expr : Yield.Compatible grammar.nodes (grammar.Results expr) :=
  compatible_of_describes (.node ⟨0⟩) fun _ =>
    describes_of_mem_reached (List.mem_cons_of_mem _ List.mem_cons_self)

/-- An expression results in something. -/
theorem exists_result_expr : ∃ r, grammar.Results expr r :=
  ⟨.node ⟨1⟩, .handed (.choice _ List.mem_cons_self) (.own rfl)⟩

/-- A reference to the rule of expressions yields what an expression does. -/
theorem yield_again : grammar.yield again = grammar.yield expr :=
  have rooted : grammar.root? ⟨0⟩ = some expr := rfl
  (yield_defer rooted ⟨3⟩).2.1 compatible_expr

/-- A reference to the rule of expressions creates a node, and only because they have something in
common. -/
theorem createsNode_again : grammar.createsNode again = true ∧
    Yield.Compatible grammar.nodes (grammar.Results expr) := by
  have rooted : grammar.root? ⟨0⟩ = some expr := rfl
  have creates : grammar.createsNode expr = true := by with_unfolding_all rfl
  obtain ⟨created, only⟩ := createsNode_defer rooted creates nofun ⟨3⟩
  have again := (created exists_result_expr compatible_expr).1
  refine ⟨again, (only again fun id branches leads p hp => ?_).2⟩
  exact (coherent_of_compatible compatible_expr).of_leadsTo (leads.tail (.choice id hp))

end Expressions

/-! ## A grammar of strokes

A stroke is a dot, a stroke again, a dash or a star, told apart two at a time. -/

namespace Strokes

open Grammar

/-- The token `.`. -/
def dot : Parser := .token ⟨0⟩ ⟨1⟩ none
/-- A dash, written as a dot. -/
def dash : Parser := .transform ⟨2⟩ ⟨0⟩ ⟨1⟩ [dot]
/-- A star, written as a dot. -/
def star : Parser := .transform ⟨4⟩ ⟨1⟩ ⟨3⟩ [dot]
/-- A reference to the rule of strokes. -/
def again : Parser := .defer ⟨5⟩ ⟨0⟩
/-- A dot, or a stroke again. -/
def dotOrAgain : Parser := .choice ⟨6⟩ [dot, again]
/-- A dot, a stroke again, or a dash. -/
def dotted : Parser := .choice ⟨7⟩ [dotOrAgain, dash]
/-- A dot, a stroke again, a dash, or a star. -/
def stroke : Parser := .choice ⟨8⟩ [dotted, star]
/-- A dash or a star. -/
def dashOrStar : Parser := .choice ⟨9⟩ [dash, star]
/-- A reference to the rule of dashes and stars. -/
def sign : Parser := .defer ⟨10⟩ ⟨1⟩
/-- A choice without branches. -/
def neither : Parser := .choice ⟨11⟩ []
/-- A reference to the rule of no branches. -/
def absent : Parser := .defer ⟨12⟩ ⟨3⟩

/-- Dashes and stars, with nothing in common. -/
def registries : Grammar where
  nodes := (({} : NodeTypes).declare "Dash" none {} |>.2.declare "Star" none {}).2
  kinds := (({} : TokenKinds).declareLiteral "Dot" ".").2

/-- The rules of strokes, of dashes and stars, and of no branches, and rules that refer to the last
two. -/
def grammar : Grammar :=
  registries.declareRule "stroke" |>.2.token ⟨1⟩ none |>.2.transform ⟨0⟩ [dot]
    |>.2.transform ⟨1⟩ [dot] |>.2.defer ⟨0⟩ |>.2.choice [dot, again] |>.2.choice [dotOrAgain, dash]
    |>.2.choice [dotted, star] |>.2.defineRule ⟨0⟩ stroke |>.choice [dash, star]
    |>.2.addRule "sign" dashOrStar |>.2.defer ⟨1⟩ |>.2.addRule "signs" sign |>.2.choice []
    |>.2.addRule "neither" neither |>.2.defer ⟨3⟩ |>.2.addRule "nothing" absent |>.2

/-- Strokes are declared step by step. -/
theorem built : grammar.Built := by
  have registered : registries.Built := Built.empty.step (.nodes (.declare "Dash" none {} nofun))
    |>.step (.nodes (.declare "Star" none {} nofun))
    |>.step (.kinds (.declareLiteral "Dot" "."))
  refine registered.step (.declareRule "stroke")
    |>.step (.token ⟨1⟩ none (TokenKinds.first_mem_ids (by decide) _))
    |>.step (.transform ⟨0⟩ [dot] ?_ ?_) |>.step (.transform ⟨1⟩ [dot] ?_ ?_)
    |>.step (.defer ⟨0⟩ ?_) |>.step (.choice [dot, again] ?_)
    |>.step (.choice [dotOrAgain, dash] ?_) |>.step (.choice [dotted, star] ?_)
    |>.step (.defineRule ⟨0⟩ stroke ?_)
    |>.step (.choice [dash, star] ?_) |>.step (.addRule "sign" dashOrStar ?_)
    |>.step (.defer ⟨1⟩ ?_) |>.step (.addRule "signs" sign ?_) |>.step (.choice [] nofun)
    |>.step (.addRule "neither" neither ?_) |>.step (.defer ⟨3⟩ ?_)
    |>.step (.addRule "nothing" absent ?_)
  all_goals
    first
    | exact mem_parsers rfl
    | exact forall_mem_parsers rfl
    | exact Index.mem_upTo.mpr (by decide)

/-- **A reference that does not yield what its rule does.**  In the rule itself, a stroke again is a
star, and a dot or a star is passed over for having nothing in common; what is left are dashes and
stars. -/
theorem yield_stroke_again : grammar.Built ∧ grammar.root? ⟨0⟩ = some stroke ∧
    grammar.yield again = .node ⟨1⟩ ∧ grammar.yield stroke = .nothing := by
  exact ⟨built, rfl, by with_unfolding_all rfl, by with_unfolding_all rfl⟩

/-- **References that do not create nodes**, though the roots of their rules do: there are dashes
and stars, which have nothing in common, or else there is nothing at all.  The rules that stand for
these references are taken to lose something. -/
theorem createsNode_sign : grammar.Built ∧
    (grammar.root? ⟨1⟩ = some dashOrStar ∧ grammar.createsNode dashOrStar = true ∧
      grammar.createsNode sign = false ∧ grammar.root? ⟨2⟩ = some sign ∧ grammar.loses ⟨2⟩ = true) ∧
    grammar.root? ⟨3⟩ = some neither ∧ grammar.createsNode neither = true ∧
      grammar.createsNode absent = false ∧ grammar.root? ⟨4⟩ = some absent ∧
      grammar.loses ⟨4⟩ = true := by
  refine ⟨built, ⟨rfl, ?_, ?_, rfl, ?_⟩, rfl, ?_, ?_, rfl, ?_⟩ <;> with_unfolding_all rfl

end Strokes

end Unparsing
