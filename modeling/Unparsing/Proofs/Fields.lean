import Unparsing.Proofs.Derivation.Outcomes
import Unparsing.Proofs.Grammar.Built

/-!
# Proofs/Fields — when the tokens around a field are there

The unparser of a field writes the tokens around it just if the field is shown.  Whether this is
right depends on the parser of the field: `Grammar.tied_iff_joined` says for which parsers every way
to match is either what is written, or nothing at all.  A derivation does not ask for that.  It also
accepts a `pick` whose tokens are parsed although the item picked is not there
(`Contents.dot_without_content`).
-/

namespace Unparsing

namespace Parser

/-- The parsers in a layout are those that a row keeps. -/
theorem map_fst_layout (items : List Parser) :
    (layout items).2.map (·.1) = items.filter (!·.discards) := by
  induction items with
  | nil => rfl
  | cons p ps ih =>
    rw [layout]
    cases discards : p.discards with
    | true => simp [discards, ih]
    | false => simp [discards, ih]

end Parser

namespace Grammar

variable {g : Grammar} {t t' : TokenTable}

/-- **Tokens and field come together**: whenever the parser of a field matches, the field is shown
and the tokens that its unparser puts around it have been matched, or it is not shown and no token
has. -/
def Tied (t : TokenTable) (f : FieldUnparser) (p : Parser) : Prop :=
  ∀ before shown after, p.Matches before shown after →
    if shown then List.Forall₂ t.Names f.pre before ∧ List.Forall₂ t.Names f.post after
    else before = [] ∧ after = []

/-- A field comes together with its tokens just if the parser of the field is joined. -/
theorem FieldOf.tied_iff {f : FieldUnparser} {p : Parser} (h : FieldOf t f p) :
    Tied t f p ↔ p.Joined := by
  obtain ⟨⟨b, a, field, hpre, hpost⟩, -⟩ := h
  rw [field.joined_iff]
  refine forall_congr' fun before => forall_congr' fun shown => forall_congr' fun after =>
    imp_congr_right fun outcome => ?_
  cases shown with
  | false => exact Iff.rfl
  | true =>
    obtain ⟨ahead, behind⟩ := field.sublist outcome
    exact and_congr (names_iff_eq hpre ahead) (names_iff_eq hpost behind)

/-- **The fields that come together with their tokens.**  For every field of a derived unparser,
whatever is matched by its parser is what the unparser writes, or nothing without the field, if and
only if the parser is joined: a `pick` in it drops no tokens; or it picks an item that is always
there, and drops no tokens that are hidden from the derivation. -/
theorem tied_iff_joined {node type : NodeId} {id rowId : ParserId} {items : List Parser}
    {u : RegularUnparser} (ht : t.Faithful g.kinds)
    (run : g.deriveNode node (.transform id type rowId items) t = .ok (.regular u) t') :
    List.Forall₂ (fun f p => Tied t' f p ↔ p.Joined) u.fields (items.filter (!·.discards)) := by
  obtain ⟨concrete, ⟨-, -, token⟩ | regular⟩ := deriveNode_cases run
  · cases token
  rw [deriveNode_transform concrete regular] at run
  obtain ⟨r, _, filled, run⟩ := estate_bind_eq_ok.mp run
  split at run
  · cases run
  cases run
  obtain ⟨-, -, slots⟩ := fillRow_layout ht blank_fields filled
  rw [← Parser.map_fst_layout, RegularUnparser.ofRow]
  rw [List.forall₂_map_left_iff, List.forall₂_map_right_iff]
  exact slots.imp fun slot part h => h.1.tied_iff

end Grammar

/-! ## Boxes with a dot

The content of a box is a unit with a dot before it.  The content may be left out: together with the
dot in one box, and without it in the other. -/

namespace Contents

open Grammar

/-- The token `.`. -/
def dot : Parser := .token ⟨0⟩ ⟨1⟩ none
/-- A unit, which is written as nothing. -/
def unit : Parser := .transform ⟨2⟩ ⟨0⟩ ⟨1⟩ []
/-- A unit with a dot before it. -/
def dotted : Parser := .pick ⟨4⟩ ⟨3⟩ [dot, unit] 1
/-- A dot and a unit, or nothing. -/
def perhapsDotted : Parser := .opt ⟨5⟩ dotted false
/-- A box with a dot and a unit, or with nothing. -/
def box : Parser := .transform ⟨7⟩ ⟨1⟩ ⟨6⟩ [perhapsDotted]
/-- A unit that may be missing. -/
def perhapsUnit : Parser := .opt ⟨8⟩ unit false
/-- A dot, and a unit that may be missing. -/
def dottedAnyway : Parser := .pick ⟨10⟩ ⟨9⟩ [dot, perhapsUnit] 1
/-- A box with a dot, and with a unit that may be missing. -/
def dottedBox : Parser := .transform ⟨12⟩ ⟨1⟩ ⟨11⟩ [dottedAnyway]

/-- Units and boxes. -/
def registries : Grammar where
  nodes := (({} : NodeTypes).declare "Unit" none {} |>.2.declare "Box" none {}
    |>.2.addField ⟨1⟩ "content").2
  kinds := (({} : TokenKinds).declareLiteral "Dot" ".").2

/-- Units and boxes of both sorts. -/
def grammar : Grammar :=
  registries.token ⟨1⟩ none |>.2.transform ⟨0⟩ [] |>.2.pick [dot, unit] 1 |>.2.opt dotted
    |>.2.transform ⟨1⟩ [perhapsDotted] |>.2.opt unit |>.2.pick [dot, perhapsUnit] 1
    |>.2.transform ⟨1⟩ [dottedAnyway] |>.2

/-- What both boxes derive: a field with a dot before it. -/
def field : FieldUnparser := { node := ⟨1⟩, field := ⟨0⟩, alwaysAbsent := false, pre := [⟨0⟩] }

/-- The unparser of either box. -/
def written : RegularUnparser :=
  { node := ⟨1⟩, pre := [], fields := [field], inter := [], post := [] }

/-- The table of one dot. -/
def table : TokenTable := { tokens := #[⟨⟨⟨1⟩, none⟩, "."⟩] }

theorem built_registries : registries.Built :=
  Built.empty.step (.nodes (.declare "Unit" none {} nofun))
    |>.step (.nodes (.declare "Box" none {} nofun))
    |>.step (.nodes (.addField ⟨1⟩ "content" (by decide)))
    |>.step (.kinds (.declareLiteral "Dot" "."))

/-- Both boxes are declared step by step. -/
theorem built : grammar.Built := by
  refine built_registries.step (.token ⟨1⟩ none (TokenKinds.first_mem_ids (by decide) _))
    |>.step (.transform ⟨0⟩ [] ?_ ?_) |>.step (.pick [dot, unit] 1 ?_)
    |>.step (.opt dotted ?_) |>.step (.transform ⟨1⟩ [perhapsDotted] ?_ ?_)
    |>.step (.opt unit ?_) |>.step (.pick [dot, perhapsUnit] 1 ?_)
    |>.step (.transform ⟨1⟩ [dottedAnyway] ?_ ?_)
  all_goals
    first
    | exact mem_parsers rfl
    | exact forall_mem_parsers rfl
    | exact Index.mem_upTo.mpr (by decide)

/-- The dot is left out with the content. -/
theorem tied_iff_joined_of_box :
    grammar.deriveNode ⟨1⟩ box {} = .ok (.regular written) table ∧
    Tied table field perhapsDotted := by
  have run : grammar.deriveNode ⟨1⟩ box {} = .ok (.regular written) table :=
    Derivation.attempt_eq_derived.mp (by decide +kernel)
  have joined : perhapsDotted.Joined := by
    refine .opt (.always rfl (fun p hp => ?_) (.bare rfl rfl) (.bare rfl))
    obtain rfl := List.mem_singleton.mp hp
    rfl
  have fields := tied_iff_joined (TokenTable.faithful_empty grammar.kinds) run
  cases fields with
  | cons tied _ => exact ⟨run, tied.mpr joined⟩

/-- **A dot without its content**: the unparser of the second box writes the dot just if there is a
content, but the dot is parsed also if there is none. -/
theorem dot_without_content : grammar.Built ∧
    grammar.deriveNode ⟨1⟩ dottedBox {} = .ok (.regular written) table ∧
    dottedAnyway.Matches [dot] false [] ∧ ¬ Tied table field dottedAnyway := by
  have run : grammar.deriveNode ⟨1⟩ dottedBox {} = .ok (.regular written) table :=
    Derivation.attempt_eq_derived.mp (by decide +kernel)
  have outcome : dottedAnyway.Matches [dot] false [] := .pick rfl (.absent ..)
  exact ⟨built, run, outcome, fun tied => List.cons_ne_nil _ _ (tied _ _ _ outcome).1⟩

end Contents

end Unparsing
