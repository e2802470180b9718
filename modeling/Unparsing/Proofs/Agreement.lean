import Unparsing.Proofs.Grammar.Built
import Unparsing.Proofs.Grammar.Fewer

/-!
# Proofs/Agreement — the order of the producers, and how many they are

Whether producers agree depends on neither their order (`Grammar.agree_perm`) nor on where the
comparison has come from.  It does depend on how many they are.  A reference is only asked whether
it leads to a node, and all that stand beside it in its column are asked no more than that; leave
out the reference, and these are compared in full.  So producers that agree may be left with two
that do not (`Crates.disagree`), and `Grammar.agree_sublist_iff` says when they are.
-/

namespace Unparsing

namespace Grammar

open List (Perm)
open Unparsing.Parser (Uniform SameShape Reaches columnAt)

variable {ps qs : List Parser}

/-- **The order of the producers does not matter**: neither to their comparison, nor to that of any
column that it comes to. -/
theorem agree_perm (g : Grammar) (h : Perm ps qs) :
    g.agree ps = g.agree qs ∧
      ∀ path, g.agreeAt false (columnAt ps path) = g.agreeAt false (columnAt qs path) :=
  ⟨agreeAt_perm h, fun path => agreeAt_perm (columnAt_perm h path)⟩

/-- **Fewer producers**: some of the producers that agree do so among themselves, if and only if
they do in every column where the comparison becomes stricter: where there were parsers of several
kinds, and only transforms, only lists, only optionals or only picks are left. -/
theorem agree_sublist_iff (g : Grammar) (sub : qs.Sublist ps)
    (h : g.agree ps = true) : g.agree qs = true ↔
      ∀ path, Reaches ps path → ¬Uniform (columnAt ps path) → SameShape (columnAt qs path) →
        g.agreeAt false (columnAt qs path) = true :=
  ⟨fun agree _ reaches _ _ => agreeAt_columnAt reaches sub agree, agreeAt_of_sublist sub h⟩

end Grammar

/-! ## Crates of units

A crate holds a unit.  The unit is built in place, with or without a dot, or referred to. -/

namespace Crates

open Grammar

/-- The token `.`. -/
def dot : Parser := .token ⟨0⟩ ⟨1⟩ none
/-- A unit, which is written as nothing. -/
def unit : Parser := .transform ⟨2⟩ ⟨0⟩ ⟨1⟩ []
/-- A unit that is written as a dot. -/
def dotted : Parser := .transform ⟨4⟩ ⟨0⟩ ⟨3⟩ [dot]
/-- A reference to the rule of units. -/
def reference : Parser := .defer ⟨5⟩ ⟨0⟩
/-- A crate with a unit. -/
def plain : Parser := .transform ⟨7⟩ ⟨1⟩ ⟨6⟩ [unit]
/-- A crate with a unit that is written as a dot. -/
def withDot : Parser := .transform ⟨9⟩ ⟨1⟩ ⟨8⟩ [dotted]
/-- A crate with whatever the rule of units parses. -/
def referring : Parser := .transform ⟨11⟩ ⟨1⟩ ⟨10⟩ [reference]
/-- A second crate with a unit. -/
def again : Parser := .transform ⟨13⟩ ⟨1⟩ ⟨12⟩ [unit]

/-- Units and crates. -/
def registries : Grammar where
  nodes := (({} : NodeTypes).declare "Unit" none {} |>.2.declare "Crate" none {}
    |>.2.addField ⟨1⟩ "content").2
  kinds := (({} : TokenKinds).declareLiteral "Dot" ".").2

/-- Units, crates, and the rule of units. -/
def grammar : Grammar :=
  registries.token ⟨1⟩ none |>.2.transform ⟨0⟩ [] |>.2.transform ⟨0⟩ [dot]
    |>.2.addRule "unit" unit |>.2.defer ⟨0⟩ |>.2.transform ⟨1⟩ [unit] |>.2.transform ⟨1⟩ [dotted]
    |>.2.transform ⟨1⟩ [reference] |>.2.transform ⟨1⟩ [unit] |>.2

theorem built_registries : registries.Built :=
  Built.empty.step (.nodes (.declare "Unit" none {} nofun))
    |>.step (.nodes (.declare "Crate" none {} nofun))
    |>.step (.nodes (.addField ⟨1⟩ "content" (by decide)))
    |>.step (.kinds (.declareLiteral "Dot" "."))

/-- Crates are declared step by step. -/
theorem built : grammar.Built := by
  refine built_registries.step (.token ⟨1⟩ none (TokenKinds.first_mem_ids (by decide) _))
    |>.step (.transform ⟨0⟩ [] ?_ ?_)
    |>.step (.transform ⟨0⟩ [dot] ?_ ?_)
    |>.step (.addRule "unit" unit ?_) |>.step (.defer ⟨0⟩ ?_)
    |>.step (.transform ⟨1⟩ [unit] ?_ ?_)
    |>.step (.transform ⟨1⟩ [dotted] ?_ ?_)
    |>.step (.transform ⟨1⟩ [reference] ?_ ?_)
    |>.step (.transform ⟨1⟩ [unit] ?_ ?_)
  all_goals
    first
    | exact mem_parsers rfl
    | exact forall_mem_parsers rfl
    | exact Index.mem_upTo.mpr (by decide)

/-- The reference makes up for the dot, wherever it stands. -/
theorem agree_perm_of_crates : grammar.agree [plain, withDot, referring] = true ∧
    grammar.agree [referring, plain, withDot] = true := by
  have agree : grammar.agree [plain, withDot, referring] = true := by decide +kernel
  have swapped : List.Perm ([plain, withDot] ++ [referring]) ([referring] ++ [plain, withDot]) :=
    List.perm_append_comm
  exact ⟨agree, (agree_perm grammar swapped).1.symm.trans agree⟩

/-- Without the reference, the units of two crates are compared in full. -/
theorem agree_sublist_iff_of_crates : grammar.agree [plain, referring, again] = true ∧
    grammar.agree [plain, again] = true ∧ grammar.agreeAt false [unit, unit] = true := by
  have all : grammar.agree [plain, referring, again] = true := by decide +kernel
  have two : grammar.agree [plain, again] = true := by decide +kernel
  have sub : [plain, again].Sublist [plain, referring, again] :=
    .cons_cons plain (.cons referring (.refl _))
  have uniform : Parser.Uniform [plain, referring, again] := by
    simp [Parser.Uniform, Parser.comparable, Parser.strip, plain, referring, again, Parser.kind]
  have mixed : ¬Parser.Uniform [unit, reference, unit] := by
    intro uniform
    have same := uniform unit List.mem_cons_self reference
      (List.mem_cons_of_mem _ List.mem_cons_self)
    cases same
  have shape : Parser.SameShape [unit, unit] :=
    ⟨.transform, List.mem_cons_self, by simp [Parser.comparable, Parser.strip, unit, Parser.kind]⟩
  exact ⟨all, two, (agree_sublist_iff grammar sub all).mp two [0] ⟨uniform, trivial⟩ mixed shape⟩

/-- **Crates that agree, but not without the reference**: it may be left out, and then the dot
matters. -/
theorem disagree : grammar.Built ∧ [plain, withDot].Sublist [plain, withDot, referring] ∧
    grammar.agree [plain, withDot, referring] = true ∧ grammar.agree [plain, withDot] = false :=
  ⟨built, List.sublist_append_left [plain, withDot] [referring], by decide +kernel,
    by decide +kernel⟩

end Crates

end Unparsing
