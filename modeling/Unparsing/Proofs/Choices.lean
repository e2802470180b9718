import Unparsing.Proofs.Grammar.Results

/-!
# Proofs/Choices — what a choice yields depends on the set of its branches

The branches of a choice are computed from the left with one set of rules being followed, and
merged as they come.  Neither matters: each branch returns with the set that it was given
(`Grammar.run_yieldVisiting`), and what is merged is the least yield above those of all branches
(`Yield.foldl_merge_congr`).  So branches may be put in any order and repeated at will
(`Grammar.run_yieldVisiting_choice_congr`).
-/

namespace Unparsing

namespace Grammar

variable {g : Grammar} {branches branches' : List Parser}

/-- Choices between the same branches yield the same, whatever rules are being followed. -/
theorem yieldUnder_choice_congr (same : ∀ p, p ∈ branches ↔ p ∈ branches') (id id' : ParserId)
    (visiting : List RuleId) :
    g.yieldUnder visiting (.choice id branches) =
      g.yieldUnder visiting (.choice id' branches') := by
  have yields (y : Yield) : y ∈ branches.map (g.yieldUnder visiting) ↔
      y ∈ branches'.map (g.yieldUnder visiting) := by
    simp only [List.mem_map, same]
  rw [yieldUnder_choice, yieldUnder_choice, Yield.foldl_merge_congr yields]

/-- **What a choice yields depends on the set of its branches only,** for every set of rules being
followed; and every computation returns with the set that it was given. -/
theorem run_yieldVisiting_choice_congr (same : ∀ p, p ∈ branches ↔ p ∈ branches')
    (id id' : ParserId) :
    (∀ V : Finset RuleId, (g.yieldVisiting (.choice id branches)).run V =
      (g.yieldVisiting (.choice id' branches')).run V) ∧
    g.yield (.choice id branches) = g.yield (.choice id' branches') ∧
    (∀ p (V : Finset RuleId), ((g.yieldVisiting p).run V).2 = V) ∧
    ∀ p (visiting : List RuleId),
      ((g.yieldVisiting p).run visiting.toFinset).1 = g.yieldUnder visiting p := by
  refine ⟨fun V => ?_, yieldUnder_choice_congr same id id' [], fun p V => ?_,
    fun p visiting => ?_⟩
  · obtain ⟨visiting, -, rfl⟩ := V.exists_list_nodup_eq
    rw [run_yieldVisiting, run_yieldVisiting, yieldUnder_choice_congr same id id' visiting]
  · obtain ⟨visiting, -, rfl⟩ := V.exists_list_nodup_eq
    rw [run_yieldVisiting]
  · rw [run_yieldVisiting]

end Grammar

namespace Expressions

/-- The alternatives of an expression the other way round, with numbers twice. -/
def reordered : Parser := .choice ⟨9⟩ [again, paren, num, num]

/-- The branches of an expression may be exchanged. -/
theorem run_yieldVisiting_reordered :
    (∀ V, (grammar.yieldVisiting expr).run V = (grammar.yieldVisiting reordered).run V) ∧
      grammar.yield reordered = .node ⟨0⟩ := by
  have same (p : Parser) : p ∈ [num, paren, again] ↔ p ∈ [again, paren, num, num] := by
    simp only [List.mem_cons, List.not_mem_nil, or_false]
    tauto
  obtain ⟨runs, yields, -⟩ := Grammar.run_yieldVisiting_choice_congr same ⟨6⟩ ⟨9⟩
  exact ⟨runs, yields.symm.trans (by with_unfolding_all rfl)⟩

end Expressions

end Unparsing
