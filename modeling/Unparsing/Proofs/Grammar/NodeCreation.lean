import Unparsing.Grammar.Yield
import Unparsing.Proofs.Grammar.Yield
import Unparsing.Session.Survey

/-!
# Proofs/Grammar/NodeCreation — a parser that creates a node drops nothing

A survey reports the picks at the top of a rule that drop more than the end of the input.  Inside a
combinator that builds a node it reports none (`Parser.drops_notMem_inside`), and outside of these a
parser that creates a node has no picks but those that drop the end of the input
(`Parser.drops_notMem_of_createsNodeWith`).

Neither a survey nor the test whether a parser creates a node asks which item a pick keeps.  So a
pick may also keep the end of the input and drop the node: only then does a parser that creates a
node yield a token (`Parser.exists_pick_of_yield_token`).
-/

namespace Unparsing

namespace Parser

variable {ofRule : RuleId → Yield} {p q : Parser}

/-- Nothing inside a producer is at the top of its rule, so no loss is reported there. -/
theorem drops_notMem_inside (p q : Parser) : Finding.drops q ∉ p.surveyUnder false := by
  have all (ps : List Parser) (ih : ∀ p ∈ ps, Finding.drops q ∉ p.surveyUnder false) :
      Finding.drops q ∉ surveyAll false ps := by
    simpa using ih
  induction p using Parser.induction with
  | row id items ih | choice id items ih => exact all items ih
  | transform id node rowId items ih | pick id rowId items index ih =>
    simpa [surveyUnder, findings] using ih
  | list id node element separator ih ihs =>
    cases separator with
    | none => simpa [surveyUnder, findings] using ih
    | some separator => simpa [surveyUnder, findings] using ⟨ih, ihs separator rfl⟩
  | optBool id inner alternatives ih => simpa [surveyUnder, findings] using ih
  | opt id inner tolerant ih => exact ih
  | predicate id inner property ih => exact ih
  | dontSkip id inner ih => exact ih
  | defer | token | null | skip | noBacktrack => exact List.not_mem_nil

/-- A pick that creates a node drops the end of the input. -/
theorem pick_of_createsNodeWith {id rowId : ParserId} {items : List Parser} {index : Nat}
    (creates : (pick id rowId items index).createsNodeWith ofRule = true) :
    ∃ inner last, items = [inner, last] ∧ last.isTermination = true ∧
      inner.createsNodeWith ofRule = true := by
  obtain _ | ⟨inner, _ | ⟨last, _ | _⟩⟩ := items
  · cases creates
  · cases creates
  · rw [createsNodeWith, Bool.and_eq_true] at creates
    exact ⟨inner, last, rfl, creates⟩
  · cases creates

/-- **A parser that creates a node drops nothing at its top.** -/
theorem drops_notMem_of_createsNodeWith (creates : p.createsNodeWith ofRule = true) :
    Finding.drops q ∉ p.surveyUnder true := by
  have inside (ps : List Parser) : Finding.drops q ∉ surveyAll false ps := by
    simpa using fun p _ => drops_notMem_inside p q
  induction p using Parser.induction with
  | transform id node rowId items => simpa [surveyUnder, findings] using inside items
  | list id node element separator =>
    cases separator <;> simp [surveyUnder, findings, drops_notMem_inside]
  | optBool id inner alternatives => simp [surveyUnder, findings, drops_notMem_inside]
  | choice id branches ih =>
    rw [createsNodeWith, allCreateNodes_eq_all, List.all_eq_true] at creates
    simpa [surveyUnder] using fun p hp => ih p hp (creates p hp)
  | pick id rowId items index ih =>
    obtain ⟨inner, last, rfl, ending, creates⟩ := pick_of_createsNodeWith creates
    have leading := ih inner List.mem_cons_self creates
    -- The end of the input is a token, and a survey finds nothing at a token.
    have trailing : last.surveyUnder true = [] := by
      cases last with
      | token => rfl
      | _ => cases ending
    simpa [surveyUnder, surveyAll, findings, endsInput, ending, trailing] using leading
  | opt id inner tolerant ih => exact ih creates
  | predicate id inner property ih => exact ih creates
  | dontSkip id inner ih => exact ih creates
  | defer | skip => exact List.not_mem_nil
  | row | token | null | noBacktrack => cases creates

/-! ## The item picked -/

mutual

/-- The picks through which a parser hands on a result, none of them inside a combinator that builds
a node. -/
def outerPicks : Parser → List Parser
  | pick id rowId items index => pick id rowId items index :: outerPicksAll items
  | choice _ branches => outerPicksAll branches
  | opt _ inner _ | predicate _ inner _ | dontSkip _ inner => inner.outerPicks
  | row .. | transform .. | list .. | optBool .. | defer .. | token .. | null .. | skip ..
  | noBacktrack .. => []

/-- Companion of `outerPicks` on a list of parsers. -/
def outerPicksAll : List Parser → List Parser
  | [] => []
  | p :: ps => p.outerPicks ++ outerPicksAll ps

end

@[simp] theorem outerPicksAll_eq_flatMap (ps : List Parser) :
    outerPicksAll ps = ps.flatMap outerPicks := by
  induction ps with
  | nil => rfl
  | cons p ps ih => rw [outerPicksAll, ih, List.flatMap_cons]

theorem outerPicks_of_isTermination (ending : p.isTermination = true) : p.outerPicks = [] := by
  cases p with
  | token => rfl
  | _ => cases ending

/-- **The picks of a parser that creates a node** have two items: one that creates a node, and the
end of the input. -/
theorem outerPick_of_createsNodeWith (creates : p.createsNodeWith ofRule = true)
    {id rowId : ParserId} {items : List Parser} {index : Nat}
    (h : pick id rowId items index ∈ p.outerPicks) :
    ∃ inner last, items = [inner, last] ∧ last.isTermination = true ∧
      inner.createsNodeWith ofRule = true := by
  induction p using Parser.induction with
  | choice id branches ih =>
    rw [createsNodeWith, allCreateNodes_eq_all, List.all_eq_true] at creates
    rw [outerPicks, outerPicksAll_eq_flatMap, List.mem_flatMap] at h
    obtain ⟨branch, hbranch, inside⟩ := h
    exact ih branch hbranch (creates branch hbranch) inside
  | pick id rowId items index ih =>
    obtain ⟨inner, last, rfl, ending, leading⟩ := pick_of_createsNodeWith creates
    rw [outerPicks, List.mem_cons] at h
    obtain same | inside := h
    · cases same
      exact ⟨inner, last, rfl, ending, leading⟩
    · simp only [outerPicksAll, outerPicks_of_isTermination ending, List.append_nil] at inside
      exact ih inner List.mem_cons_self leading inside
  | opt id inner tolerant ih => exact ih creates h
  | predicate id inner property ih => exact ih creates h
  | dontSkip id inner ih => exact ih creates h
  | row | transform | list | optBool | defer | token | null | skip | noBacktrack => cases h

/-- **A token is yielded** by a parser that creates a node only if one of its picks keeps the end of
the input. -/
theorem exists_pick_of_yield_token {ns : NodeTypes} (creates : p.createsNodeWith ofRule = true)
    (token : p.yieldWith ns ofRule = .token) :
    ∃ id rowId items, pick id rowId items 1 ∈ p.outerPicks := by
  induction p using Parser.induction with
  | choice id branches ih =>
    rw [createsNodeWith, allCreateNodes_eq_all, List.all_eq_true] at creates
    rw [yieldWith, yieldMerged_eq_foldl] at token
    cases merged : (branches.map (yieldWith ns ofRule)).foldl (Yield.merge ns) none with
    | none => simp [merged] at token
    | some y =>
      obtain rfl : y = .token := by simpa [merged] using token
      obtain first | later := Yield.token_of_foldl_merge merged
      · cases first
      · obtain ⟨branch, hbranch, token⟩ := List.mem_map.mp later
        obtain ⟨id, rowId, items, inside⟩ := ih branch hbranch (creates branch hbranch) token
        refine ⟨id, rowId, items, ?_⟩
        rw [outerPicks, outerPicksAll_eq_flatMap]
        exact List.mem_flatMap_of_mem hbranch inside
  | pick id rowId items index ih =>
    obtain ⟨inner, last, rfl, -, leading⟩ := pick_of_createsNodeWith creates
    rw [yieldWith, yieldNth_eq] at token
    match index with
    | 0 =>
      obtain ⟨id, rowId, items, inside⟩ := ih inner List.mem_cons_self leading token
      refine ⟨id, rowId, items, ?_⟩
      rw [outerPicks, outerPicksAll]
      exact List.mem_cons_of_mem _ (List.mem_append_left _ inside)
    | 1 => exact ⟨id, rowId, [inner, last], List.mem_cons_self⟩
    | index + 2 => cases token
  | opt id inner tolerant ih => exact ih creates token
  | predicate id inner property ih => exact ih creates token
  | dontSkip id inner ih => exact ih creates token
  | defer id rule =>
    rw [createsNodeWith, show ofRule rule = .token from token] at creates
    cases creates
  | transform | list | optBool | skip => cases token
  | row | token | null | noBacktrack => cases creates

end Parser

/-- A rule whose root creates a node drops nothing at its top. -/
theorem Grammar.drops_notMem_survey {g : Grammar} {root pick : Parser}
    (creates : g.createsNode root = true) : Finding.drops pick ∉ root.survey :=
  Parser.drops_notMem_of_createsNodeWith creates

end Unparsing
