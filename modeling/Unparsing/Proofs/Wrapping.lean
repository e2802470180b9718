import Unparsing.Proofs.Derivation.Wrapping

/-!
# Proofs/Wrapping — when wrappers do not show in an unparser

Wrapping parsers inside a producer, and the producer itself, leaves its unparser as it is: same
tokens, same numbers (`Grammar.deriveNode_of_wrapsTo`).  Two things must not be wrapped.  A token
node is a transform of one bare token, so a wrapped token is refused there; and only one wrapper is
taken off at a time, so under two of them a token is lost (`Sheaths.not_transparent`).
-/

namespace Unparsing

namespace Grammar

/-- **Wrappers do not show.**  If a parser has an unparser, the same parser with wrappers put in has
the same one and leaves the same table, as long as no wrapper stands directly inside another and
the rows of token nodes get none. -/
theorem deriveNode_of_wrapsTo {g : Grammar} {n : NodeId} {p p' : Parser} {t t' : TokenTable}
    {u : NodeUnparser} (wraps : p.WrapsTo p') (single : p'.hidden = [])
    (bare : ∀ q ∈ p'.preorder, q.wrapsItem = true →
      g.nodes.isTokenNode n = false ∧ ∀ m, g.yield q = .node m → g.nodes.isTokenNode m = false)
    (run : g.deriveNode n p t = .ok u t') : g.deriveNode n p' t = .ok u t' := by
  have wrapped : g.WellWrapped p' := by
    refine ⟨single, fun q hq m yields token => Bool.eq_false_iff.mpr fun wrapsItem => ?_⟩
    exact absurd ((bare q hq wrapsItem).2 m yields) (by simp [token])
  refine (transparent_and_unwrap wraps wrapped).1.node n (fun token => ?_) run
  refine Bool.eq_false_iff.mpr fun wrapsItem => ?_
  exact absurd (bare p'.unwrap p'.mem_preorder_unwrap wrapsItem).1 (by simp [token])

end Grammar

/-! ### Units in boxes

A unit is a token node, written with a dot.  A box holds a dot and perhaps a unit. -/

namespace Sheaths

open Grammar

/-- The token `.`. -/
def dot : Parser := .token ⟨0⟩ ⟨1⟩ none
/-- A unit, which stands for a dot. -/
def unit : Parser := .transform ⟨2⟩ ⟨0⟩ ⟨1⟩ [dot]
/-- A choice of just the unit. -/
def either : Parser := .choice ⟨3⟩ [unit]
/-- That choice, or nothing. -/
def maybe : Parser := .opt ⟨4⟩ either false
/-- A dot, and a unit that may be missing. -/
def box : Parser := .transform ⟨6⟩ ⟨1⟩ ⟨5⟩ [dot, maybe]

/-- A dot under a wrapper. -/
def wrappedDot : Parser := .dontSkip ⟨7⟩ dot
/-- A unit under a wrapper. -/
def wrappedUnit : Parser := .dontSkip ⟨8⟩ unit
/-- A choice of just the wrapped unit. -/
def wrappedEither : Parser := .choice ⟨9⟩ [wrappedUnit]
/-- That choice under a wrapper, or nothing. -/
def wrappedMaybe : Parser := .opt ⟨11⟩ (.dontSkip ⟨10⟩ wrappedEither) false
/-- A box of which each item is wrapped. -/
def padded : Parser := .transform ⟨14⟩ ⟨1⟩ ⟨13⟩ [wrappedDot, .dontSkip ⟨12⟩ wrappedMaybe]
/-- That box under a wrapper. -/
def wrappedBox : Parser := .dontSkip ⟨15⟩ padded

/-- A unit whose dot is wrapped. -/
def sealedUnit : Parser := .transform ⟨17⟩ ⟨0⟩ ⟨16⟩ [wrappedDot]
/-- A box whose dot is under two wrappers. -/
def lossyBox : Parser := .transform ⟨20⟩ ⟨1⟩ ⟨19⟩ [.dontSkip ⟨18⟩ wrappedDot, maybe]

/-- Units, which stand for single tokens, boxes, and dots. -/
def registries : Grammar where
  nodes := ((({} : NodeTypes).declare "Unit" none { tokenNode := true }).2.declare "Box" none {}).2
    |>.addField ⟨1⟩ "content" |>.2
  kinds := (({} : TokenKinds).declareLiteral "Dot" ".").2

/-- All parsers above. -/
def grammar : Grammar :=
  registries.token ⟨1⟩ none |>.2.transform ⟨0⟩ [dot] |>.2.choice [unit] |>.2.opt either
    |>.2.transform ⟨1⟩ [dot, maybe]
    |>.2.dontSkip dot |>.2.dontSkip unit |>.2.choice [wrappedUnit] |>.2.dontSkip wrappedEither
    |>.2.opt (.dontSkip ⟨10⟩ wrappedEither) |>.2.dontSkip wrappedMaybe
    |>.2.transform ⟨1⟩ [wrappedDot, .dontSkip ⟨12⟩ wrappedMaybe] |>.2.dontSkip padded
    |>.2.transform ⟨0⟩ [wrappedDot] |>.2.dontSkip wrappedDot
    |>.2.transform ⟨1⟩ [.dontSkip ⟨18⟩ wrappedDot, maybe] |>.2

/-- All boxes are declared step by step. -/
theorem built : grammar.Built := by
  refine Built.empty.step (.nodes (.declare "Unit" none { tokenNode := true } nofun))
    |>.step (.nodes (.declare "Box" none {} nofun))
    |>.step (.nodes (.addField ⟨1⟩ "content" (by decide)))
    |>.step (.kinds (.declareLiteral "Dot" "."))
    |>.step (.token ⟨1⟩ none (TokenKinds.first_mem_ids (by decide) _))
    |>.step (.transform ⟨0⟩ [dot] ?_ ?_) |>.step (.choice [unit] ?_) |>.step (.opt either ?_)
    |>.step (.transform ⟨1⟩ [dot, maybe] ?_ ?_)
    |>.step (.dontSkip dot ?_) |>.step (.dontSkip unit ?_) |>.step (.choice [wrappedUnit] ?_)
    |>.step (.dontSkip wrappedEither ?_) |>.step (.opt (.dontSkip ⟨10⟩ wrappedEither) ?_)
    |>.step (.dontSkip wrappedMaybe ?_)
    |>.step (.transform ⟨1⟩ [wrappedDot, .dontSkip ⟨12⟩ wrappedMaybe] ?_ ?_)
    |>.step (.dontSkip padded ?_) |>.step (.transform ⟨0⟩ [wrappedDot] ?_ ?_)
    |>.step (.dontSkip wrappedDot ?_)
    |>.step (.transform ⟨1⟩ [.dontSkip ⟨18⟩ wrappedDot, maybe] ?_ ?_)
  all_goals
    first
    | exact mem_parsers rfl
    | exact forall_mem_parsers rfl
    | exact Index.mem_upTo.mpr (by decide)

/-- The table of one dot. -/
def table : TokenTable := { tokens := #[⟨⟨⟨1⟩, none⟩, "."⟩] }

/-- The unparser of a box: a dot, and the unit if there is one. -/
def boxed : RegularUnparser :=
  { RegularUnparser.blank grammar.nodes ⟨1⟩ with
    pre := [⟨0⟩]
    fields := [{ node := ⟨1⟩, field := ⟨0⟩, alwaysAbsent := false }] }

/-- The wrapped box is the box with wrappers put in. -/
theorem box_wrapsTo : box.WrapsTo wrappedBox :=
  .wrap ⟨15⟩ <| .transform _ _ _ _ _ <| .cons (.wrap ⟨7⟩ (.refl dot)) <| .cons (.wrap ⟨12⟩ <|
    .opt _ _ _ <| .wrap ⟨10⟩ <| .choice _ _ <| .cons (.wrap ⟨8⟩ (.refl unit)) .nil) .nil

/-- A box is unparsed alike with five wrappers in it. -/
theorem deriveNode_wrappedBox : grammar.Built ∧ box.WrapsTo wrappedBox ∧
    grammar.deriveNode ⟨1⟩ box {} = .ok (.regular boxed) table ∧
    grammar.deriveNode ⟨1⟩ wrappedBox {} = .ok (.regular boxed) table := by
  have run : grammar.deriveNode ⟨1⟩ box {} = .ok (.regular boxed) table := by
    with_unfolding_all rfl
  have only : wrappedBox.preorder.filter Parser.wrapsItem = [padded] := rfl
  refine ⟨built, box_wrapsTo, run, deriveNode_of_wrapsTo box_wrapsTo rfl (fun q hq wraps => ?_) run⟩
  obtain rfl := List.mem_singleton.mp (only ▸ List.mem_filter.mpr ⟨hq, wraps⟩)
  refine ⟨rfl, fun m yields => ?_⟩
  cases yields
  rfl

/-- **Some wrappers show.**  A unit whose dot is wrapped is refused, and a box whose dot is wrapped
twice is unparsed without its dot. -/
theorem not_transparent : grammar.Built ∧
    (unit.WrapsTo sealedUnit ∧ grammar.deriveNode ⟨0⟩ unit {} = .ok (.tokenNode ⟨0⟩) {} ∧
      grammar.deriveNode ⟨0⟩ sealedUnit {} =
        .error (.unsupportedTokenNode (grammar.site sealedUnit)) {}) ∧
    box.WrapsTo lossyBox ∧ grammar.deriveNode ⟨1⟩ box {} = .ok (.regular boxed) table ∧
      grammar.deriveNode ⟨1⟩ lossyBox {} = .ok (.regular { boxed with pre := [] }) {} := by
  have unit_wrapsTo : unit.WrapsTo sealedUnit :=
    .transform _ _ _ _ _ <| .cons (.wrap ⟨7⟩ (.refl dot)) .nil
  have box_wrapsTo : box.WrapsTo lossyBox :=
    .transform _ _ _ _ _ <| .cons (.wrap ⟨18⟩ (.wrap ⟨7⟩ (.refl dot))) <| .cons (.refl maybe) .nil
  refine ⟨built, ⟨unit_wrapsTo, ?_, ?_⟩, box_wrapsTo, ?_, ?_⟩
  all_goals with_unfolding_all rfl

end Sheaths

end Unparsing
