import Unparsing.Proofs.Derivation.InPlace
import Unparsing.Proofs.Derivation.Shape
import Unparsing.Proofs.Unparser.Laws
import Unparsing.Proofs.Unparser.Merge
import Unparsing.Proofs.Unparser.Places

/-!
# Proofs/Places — the parts of every unparser stand in their places

An unparser of a node type is derived from a parser, or two of them are combined, and both leave it
in the shape of its node type (`Grammar.Unparses.wellShaped`).  So every part of it is found where
it is looked up: when the unparser is listed, when its runs are collected, when it is combined with
another one, and when a row is written into it (`Grammar.parts_of_unparses`).
-/

namespace Unparsing

open Unparsing.Limited (returns)

namespace Grammar

variable {g : Grammar} {node : NodeId} {u : NodeUnparser}

/-- The unparsers of a node type: those derived from parsers, and those combined of two others,
whatever tokens there are then. -/
inductive Unparses (g : Grammar) (node : NodeId) : NodeUnparser → Prop
  | derived {p : Parser} {t t' : TokenTable} {u : NodeUnparser} :
      g.deriveNode node p t = .ok u t' → Unparses g node u
  | combined {t : TokenTable} {u v w : NodeUnparser} : Unparses g node u → Unparses g node v →
      u.combine ⟨g.nodes, t⟩ v = .ok w → Unparses g node w

/-- **Every unparser is one of its node type, in its shape.** -/
theorem Unparses.wellShaped (h : g.Unparses node u) : u.node = node ∧ u.WellShaped g.nodes := by
  induction h with
  | derived run =>
    obtain ⟨-, node, shaped, -⟩ := deriveNode_ok run
    exact ⟨node, shaped⟩
  | combined _ _ run left right =>
    obtain ⟨compatible, rfl⟩ := (NodeUnparser.combine_eq_ok left.2.tidy).mp run
    exact ⟨compatible.node_merge left.1 right.1, left.2.merge right.2 compatible⟩

/-- **The parts of every unparser are found where they are looked up.**  An unparser of a node type
has an unparser for each field of the type, in order, a run between any two, and no token around a
field that is always absent.  Its fields are met with the runs before them, its runs collected, it
is listed and combined with another unparser of the type, and the row of a transform is written in
place, all without a lookup in vain. -/
theorem parts_of_unparses (g : Grammar) (node : NodeId) :
    (∀ u, g.Unparses node u → u.node = node ∧ u.WellShaped g.nodes ∧
      (∀ r, u = .regular r → r.zipFieldsAt = some r.zipFields) ∧ u.runsAt = some u.runs ∧
      ∀ t, u.listingAt ⟨g.nodes, t⟩ = some (u.listing ⟨g.nodes, t⟩) ∧
        ∀ v, g.Unparses node v →
          u.combineAt ⟨g.nodes, t⟩ v = .returns (u.combine ⟨g.nodes, t⟩ v)) ∧
    (g.nodes.isConcrete node = true → g.nodes.isTokenNode node = false →
      ∀ id type rowId items, g.transformInPlace node id type rowId items =
        returns (g.deriveNode node (.transform id type rowId items))) := by
  refine ⟨fun u h => ?_, transformInPlace_eq⟩
  obtain ⟨type, shaped⟩ := h.wellShaped
  refine ⟨type, shaped, ?_, shaped.runsAt, fun t => ⟨shaped.listingAt, fun v hv => ?_⟩⟩
  · rintro r rfl
    exact RegularUnparser.zipFieldsAt_eq (RegularUnparser.WellShaped.inter shaped)
  · exact shaped.combineAt hv.wellShaped.2

end Grammar

/-! ## Jumps

A jump has a label and a value, and a comma between them.  Of two parsers of it, each leaves one of
them out. -/

namespace Jumps

open Grammar

/-- The token `jump`. -/
def word : Parser := .token ⟨0⟩ ⟨1⟩ none
/-- The token `,`. -/
def comma : Parser := .token ⟨1⟩ ⟨2⟩ none
/-- A name, which is written as nothing. -/
def name : Parser := .transform ⟨3⟩ ⟨0⟩ ⟨2⟩ []
/-- A name that is not there. -/
def nothing : Parser := .null ⟨4⟩ ⟨0⟩
/-- A jump with a label and no value. -/
def labelled : Parser := .transform ⟨6⟩ ⟨1⟩ ⟨5⟩ [word, name, comma, nothing]
/-- A jump with a value and no label. -/
def valued : Parser := .transform ⟨8⟩ ⟨1⟩ ⟨7⟩ [word, nothing, comma, name]

/-- Jumps, their labels and values, and their tokens. -/
def grammar : Grammar where
  nodes := (({} : NodeTypes).declare "Name" none {} |>.2.declare "Jump" none {}
    |>.2.addField ⟨1⟩ "label" |>.2.addField ⟨1⟩ "value").2
  kinds := (({} : TokenKinds).declareLiteral "Word" "jump" |>.2.declareLiteral "Comma" ",").2

/-- The table of both tokens. -/
def table : TokenTable where
  tokens := #[⟨⟨⟨1⟩, none⟩, "jump"⟩, ⟨⟨⟨2⟩, none⟩, ","⟩]

/-- A jump with either of its fields always absent. -/
def written (label value : Bool) : RegularUnparser where
  node := ⟨1⟩
  pre := [⟨0⟩]
  fields := [{ node := ⟨1⟩, field := ⟨0⟩, alwaysAbsent := label },
    { node := ⟨1⟩, field := ⟨1⟩, alwaysAbsent := value }]
  inter := [[⟨1⟩]]
  post := []

/-- Both parsers in one: the comma is looked up before the value. -/
theorem parts_of_unparses_jump :
    grammar.Unparses ⟨1⟩ (.regular (written false true)) ∧
    grammar.Unparses ⟨1⟩ (.regular (written true false)) ∧
    NodeUnparser.combineAt ⟨grammar.nodes, table⟩ (.regular (written false true))
      (.regular (written true false)) = some (.ok (.regular (written false false))) ∧
    (written false true).zipFieldsAt = some [
      ({ node := ⟨1⟩, field := ⟨0⟩, alwaysAbsent := false }, none),
      ({ node := ⟨1⟩, field := ⟨1⟩ }, some [⟨1⟩])] ∧
    grammar.transformInPlace ⟨1⟩ ⟨6⟩ ⟨1⟩ ⟨5⟩ [word, name, comma, nothing] {} =
      some (.ok (.regular (written false true)), table) := by
  have first : grammar.deriveNode ⟨1⟩ labelled {} = .ok (.regular (written false true)) table :=
    Derivation.attempt_eq_derived.mp (by decide +kernel)
  have second : grammar.deriveNode ⟨1⟩ valued {} = .ok (.regular (written true false)) table :=
    Derivation.attempt_eq_derived.mp (by decide +kernel)
  obtain ⟨parts, place⟩ := parts_of_unparses grammar ⟨1⟩
  obtain ⟨-, -, zipped, -, rest⟩ := parts _ (.derived first)
  have combined := (rest table).2 _ (.derived second)
  have transform := place (by decide +kernel) (by decide +kernel) ⟨6⟩ ⟨1⟩ ⟨5⟩
    [word, name, comma, nothing]
  have both : (NodeUnparser.regular (written false true)).combine ⟨grammar.nodes, table⟩
      (.regular (written true false)) = .ok (.regular (written false false)) := by
    decide +kernel
  refine ⟨.derived first, .derived second, combined.trans (congrArg some both), zipped _ rfl, ?_⟩
  rw [transform]
  exact Limited.returns_eq_ok.mpr first

end Jumps

end Unparsing
