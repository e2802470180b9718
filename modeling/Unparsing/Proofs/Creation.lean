import Unparsing.Proofs.Grammar.Built
import Unparsing.Proofs.Grammar.NodeCreation

/-!
# Proofs/Creation — which item a pick keeps

A parser creates a node although it has picks, as long as these drop no more than the end of the
input, which carries nothing.  But whether a parser creates a node is told from the items of a pick
alone.  `Grammar.picks_of_createsNode` says what is known of the items, and that all depends on
which of them is picked: a pick may just as well keep the end of the input and drop the node
(`Files.unit_lost`).
-/

namespace Unparsing

namespace Grammar

/-- **The picks of a parser that creates a node** each have two items: one that creates a node, and
then the end of the input.  Those that pick the first item keep the node and drop the end of the
input; no others do.  The parser yields a token only if one of its picks keeps the second item. -/
theorem picks_of_createsNode {g : Grammar} {p : Parser} (creates : g.createsNode p = true) :
    (∀ id rowId items index, .pick id rowId items index ∈ p.outerPicks →
      ∃ inner last, items = [inner, last] ∧ g.createsNode inner = true ∧
        last.isTermination = true ∧
        (items[index]? = some inner ∧ items.eraseIdx index = [last] ↔ index = 0)) ∧
    (g.yield p = .token → ∃ id rowId items, .pick id rowId items 1 ∈ p.outerPicks) := by
  refine ⟨fun id rowId items index h => ?_, Parser.exists_pick_of_yield_token creates⟩
  obtain ⟨inner, last, rfl, ending, leading⟩ := Parser.outerPick_of_createsNodeWith creates h
  refine ⟨inner, last, rfl, leading, ending, ?_, fun first => first ▸ ⟨rfl, rfl⟩⟩
  rintro ⟨kept, -⟩
  match index with
  | 0 => rfl
  | 1 =>
    obtain rfl : last = inner := Option.some.inj kept
    cases last with
    | token => cases leading
    | _ => cases ending
  | index + 2 => cases kept

end Grammar

/-! ## Files of one unit

A file is a unit and the end of the input.  One parser of files keeps the unit, the other the end of
the input. -/

namespace Files

open Grammar

/-- The end of the input. -/
def stop : Parser := .token ⟨0⟩ .termination none
/-- A unit, which is written as nothing. -/
def unit : Parser := .transform ⟨2⟩ ⟨0⟩ ⟨1⟩ []
/-- A unit, with the end of the input dropped. -/
def file : Parser := .pick ⟨4⟩ ⟨3⟩ [unit, stop] 0
/-- A file that may be missing. -/
def perhapsFile : Parser := .opt ⟨5⟩ file false
/-- The end of the input, with the unit dropped. -/
def stopped : Parser := .pick ⟨7⟩ ⟨6⟩ [unit, stop] 1

/-- Files of both sorts. -/
def grammar : Grammar :=
  ({ nodes := (({} : NodeTypes).declare "Unit" none {}).2 } : Grammar)
    |>.token .termination none |>.2.transform ⟨0⟩ [] |>.2.pick [unit, stop] 0 |>.2.opt file
    |>.2.pick [unit, stop] 1 |>.2

/-- Files are declared step by step. -/
theorem built : grammar.Built := by
  refine Built.empty.step (.nodes (.declare "Unit" none {} nofun))
    |>.step (.token .termination none ?_)
    |>.step (.transform ⟨0⟩ [] ?_ ?_) |>.step (.pick [unit, stop] 0 ?_)
    |>.step (.opt file ?_) |>.step (.pick [unit, stop] 1 ?_)
  all_goals
    first
    | exact mem_parsers rfl
    | exact forall_mem_parsers rfl
    | exact Index.mem_upTo.mpr (by decide)

/-- A file that may be missing keeps its unit, if there is one. -/
theorem picks_of_createsNode_of_file : grammar.createsNode perhapsFile = true ∧
    grammar.createsNode unit = true ∧ [unit, stop][0]? = some unit ∧
    [unit, stop].eraseIdx 0 = [stop] := by
  have creates : grammar.createsNode perhapsFile = true := by decide +kernel
  obtain ⟨_, _, items, leading, -, first⟩ :=
    (picks_of_createsNode creates).1 _ _ _ _ List.mem_cons_self
  cases items
  exact ⟨creates, leading, first.mpr rfl⟩

/-- **A unit is lost**: the other parser of files creates a node, though it keeps the end of the
input and drops the unit. -/
theorem unit_lost : grammar.Built ∧ grammar.createsNode stopped = true ∧
    grammar.yield stopped = .token ∧ [unit, stop][1]? = some stop ∧
    [unit, stop].eraseIdx 1 = [unit] :=
  ⟨built, by decide +kernel, by decide +kernel, rfl, rfl⟩

end Files

end Unparsing
