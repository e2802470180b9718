import Unparsing.Proofs.Derivation.Outcomes
import Unparsing.Proofs.Derivation.Row
import Unparsing.Proofs.Grammar.Built

/-!
# Proofs/Extraction — which tokens a row writes for what it drops

A `pick` drops all items but one, and a transform those without a result.  For each stretch of
dropped items the run has the tokens in them, in order (`Grammar.static_tokens`), except for what is
*hidden* under two wrappers, one directly inside the other: that is passed over, whatever it is.  So
a token may be missing from the run (`Wrapped.dot_dropped`), and a `pick` may drop an item that has
a result (`Wrapped.unit_dropped`).
-/

namespace Unparsing

namespace Parser

variable {p q : Parser}

/-! ## Inside a parser -/

/-- What is inside a parser comes with all that is inside it, in the same order. -/
theorem preorder_sublist_of_mem (hq : q ∈ p.preorder) : q.preorder.Sublist p.preorder := by
  induction p using children_induction with
  | step p ih =>
    rw [preorder_eq, List.mem_cons, List.mem_flatMap] at hq
    obtain rfl | ⟨child, hchild, inside⟩ := hq
    · exact .refl _
    · rw [preorder_eq p, List.flatMap_def]
      refine (ih child hchild inside).trans (.cons _ ?_)
      exact List.sublist_flatten_of_mem (List.mem_map_of_mem hchild)

/-- What is inside a parser that is thrown away is of the sort that is. -/
theorem discards_of_mem_preorder (h : p.discards = true) (hq : q ∈ p.preorder) :
    q.discards = true := by
  induction p using children_induction with
  | step p ih =>
    rw [preorder_eq, List.mem_cons, List.mem_flatMap] at hq
    obtain rfl | ⟨child, hchild, inside⟩ := hq
    · exact h
    · refine ih child hchild ?_ inside
      cases p with
      | row id items =>
        rw [discards_row, List.all_eq_true] at h
        exact h child hchild
      | opt | dontSkip =>
        obtain rfl := List.mem_singleton.mp hchild
        exact h
      | token | noBacktrack => cases hchild
      | _ => cases h

/-! ## What is hidden -/

/-- What two wrappers hold, one directly inside the other. -/
def rewrapped? : Parser → Option Parser
  | dontSkip _ (dontSkip _ p) => some p
  | _ => none

/-- Everything in a parser that stands under two wrappers, one directly inside the other. -/
def hidden (p : Parser) : List Parser := p.preorder.filterMap rewrapped?

/-- Something is hidden in a parser under its own two wrappers, or inside what it holds. -/
theorem hidden_eq (p : Parser) : p.hidden = p.rewrapped?.toList ++ p.children.flatMap hidden := by
  rw [hidden, preorder_eq, List.filterMap_cons, List.filterMap_flatMap]
  cases p.rewrapped? <;> rfl

/-- What is hidden in a row is hidden in its items. -/
theorem hidden_row (id : ParserId) (items : List Parser) :
    (row id items).hidden = items.flatMap hidden := hidden_eq _

/-- What is hidden in an optional is hidden in its inner parser. -/
theorem hidden_opt (id : ParserId) (inner : Parser) (tolerant : Bool) :
    (opt id inner tolerant).hidden = inner.hidden := by
  simp [hidden_eq (opt id inner tolerant), rewrapped?, children]

/-- A wrapper hides what is under it if that is a wrapper, too. -/
theorem hidden_dontSkip (id : ParserId) (inner : Parser) :
    (dontSkip id inner).hidden = (dontSkip id inner).rewrapped?.toList ++ inner.hidden := by
  simp [hidden_eq (dontSkip id inner), children]

/-- A single wrapper hides nothing. -/
theorem hidden_dontSkip_of_single {id : ParserId} {inner : Parser}
    (single : inner.isDontSkip = false) : (dontSkip id inner).hidden = inner.hidden := by
  rw [hidden_dontSkip]
  cases inner with
  | dontSkip => cases single
  | _ => rfl

/-- What is hidden in a parser is inside it. -/
theorem preorder_sublist_of_mem_hidden (hq : q ∈ p.hidden) : q.preorder.Sublist p.preorder := by
  obtain ⟨r, hr, wrapped⟩ := List.mem_filterMap.mp hq
  refine List.Sublist.trans ?_ (preorder_sublist_of_mem hr)
  unfold rewrapped? at wrapped
  split at wrapped
  · cases wrapped
    exact .cons _ (.cons _ (.refl _))
  · cases wrapped

/-- What is hidden in a parser is inside it. -/
theorem mem_preorder_of_mem_hidden (hq : q ∈ p.hidden) : q ∈ p.preorder := by
  refine (preorder_sublist_of_mem_hidden hq).subset ?_
  rw [preorder_eq]
  exact List.mem_cons_self

/-- **What is thrown away with a run**: a parser with a fixed run of tokens has no result, unless it
hides something that has one. -/
theorem IsRun.discards_iff (h : p.IsRun) :
    p.discards = true ↔ ∀ q ∈ p.hidden, q.discards = true := by
  refine ⟨fun discards q hq =>
    discards_of_mem_preorder discards (mem_preorder_of_mem_hidden hq), fun hidden => ?_⟩
  induction h with
  | token | noBacktrack => rfl
  | @row id items _ ih =>
    rw [hidden_row] at hidden
    rw [discards_row, List.all_eq_true]
    exact fun p hp => ih p hp fun q hq => hidden q (List.mem_flatMap.mpr ⟨p, hp, hq⟩)
  | opt _ ih =>
    rw [hidden_opt] at hidden
    exact ih hidden
  | @dontSkip id inner _ ih =>
    cases wrapped : inner.isDontSkip with
    | false => exact ih wrapped (hidden_dontSkip_of_single wrapped ▸ hidden)
    | true =>
      cases inner with
      | dontSkip id' q => exact hidden q (by simp [hidden_dontSkip, rewrapped?])
      | _ => cases wrapped

/-- Items expose all their tokens together if each of them does. -/
theorem flatMap_tokens_eq_iff {ps : List Parser} :
    ps.flatMap tokens = ps.flatMap exposed ↔ ∀ p ∈ ps, p.tokens = p.exposed :=
  ⟨eq_of_flatMap_eq fun p _ => p.exposed_sublist_tokens, List.flatMap_congr⟩

/-- **What is written of a run**: a parser with a fixed run of tokens exposes all its tokens, unless
it hides some. -/
theorem IsRun.tokens_eq_exposed_iff (h : p.IsRun) :
    p.tokens = p.exposed ↔ ∀ q ∈ p.hidden, q.tokens = [] := by
  induction h with
  | token | noBacktrack => exact iff_of_true rfl nofun
  | @row id items _ ih =>
    rw [tokens_row, exposed, exposedAll_eq_flatMap, flatMap_tokens_eq_iff, hidden_row]
    constructor
    · intro all q hq
      obtain ⟨p, hp, hq⟩ := List.mem_flatMap.mp hq
      exact (ih p hp).mp (all p hp) q hq
    · intro none p hp
      exact (ih p hp).mpr fun q hq => none q (List.mem_flatMap.mpr ⟨p, hp, hq⟩)
  | opt _ ih =>
    rw [tokens_opt, hidden_opt]
    exact ih
  | @dontSkip id inner _ ih =>
    rw [exposed_dontSkip]
    cases wrapped : inner.isDontSkip with
    | false =>
      rw [if_neg Bool.false_ne_true, hidden_dontSkip_of_single wrapped, tokens_dontSkip]
      exact ih wrapped
    | true =>
      rw [if_pos rfl]
      constructor
      · intro none q hq
        have inside : q.tokens.Sublist _ := (preorder_sublist_of_mem_hidden hq).filter _
        exact List.sublist_nil.mp (none ▸ inside)
      · intro none
        cases inner with
        | dontSkip id' q =>
          rw [tokens_dontSkip, tokens_dontSkip]
          exact none q (by simp [hidden_dontSkip, rewrapped?])
        | _ => cases wrapped

end Parser

/-! ## Runs -/

namespace Grammar

variable {g : Grammar} {t t' : TokenTable} {ps : List Parser} {r : TokenRun}

/-- **The run of what is dropped** has the tokens that the parsers expose, in order.  These are all
tokens in the parsers just if none is hidden. -/
structure StaticRun (t : TokenTable) (ps : List Parser) (r : TokenRun) : Prop where
  exposed : List.Forall₂ t.Names r (ps.flatMap Parser.exposed)
  all_iff : List.Forall₂ t.Names r (ps.flatMap Parser.tokens) ↔
    ∀ p ∈ ps, ∀ q ∈ p.hidden, q.tokens = []

/-- A run that names what parsers expose is that of their fixed tokens. -/
theorem staticRun_of_names (runs : ∀ p ∈ ps, p.IsRun)
    (named : List.Forall₂ t.Names r (ps.flatMap Parser.exposed)) : StaticRun t ps r where
  exposed := named
  all_iff := by
    rw [names_iff_eq named (List.Sublist.flatMap_right _ fun p _ => p.exposed_sublist_tokens),
      Parser.flatMap_tokens_eq_iff]
    exact forall₂_congr fun p hp => (runs p hp).tokens_eq_exposed_iff

/-- The run of a stretch of items is that of their fixed tokens. -/
theorem RunOf.staticRun (h : g.RunOf t ps r) : StaticRun t ps r := by
  obtain ⟨runs, emitted, rfl⟩ := h
  refine staticRun_of_names (fun p hp => ?_) ?_
  · obtain ⟨_, _, run⟩ := exists_mem_of_forall₂ emitted hp
    exact isRun_of_emitRun run
  · rw [List.flatMap_def]
    refine List.rel_flatten (List.forall₂_map_right_iff.mpr ?_)
    exact emitted.flip.imp fun _ _ => emitRun_names

/-- A `pick` that can be split: both runs are those of what it drops. -/
theorem splitPick_cases {p item : Parser} {pre post : TokenRun}
    (run : g.splitPick p t = .ok (pre, item, post) t') :
    ∃ id rowId items index, p = .pick id rowId items index ∧ items[index]? = some item ∧
      (∀ e ∈ items.eraseIdx index, e.IsRun) ∧ StaticRun t' (items.take index) pre ∧
      StaticRun t' (items.drop (index + 1)) post := by
  cases p with
  | pick id rowId items index =>
    obtain ⟨found, before, after, hpre, hpost⟩ := splitPick_names run
    refine ⟨id, rowId, items, index, rfl, found, ?_, staticRun_of_names before hpre,
      staticRun_of_names after hpost⟩
    rw [List.eraseIdx_eq_take_drop_succ, List.forall_mem_append]
    exact ⟨before, after⟩
  | _ => cases run

/-- **The tokens of what is dropped.**  In a `pick` that can be split, an item dropped has no result
unless it hides something that has one.  The runs before and after the item picked, and those
before, between and after the fields of a transform, have the tokens of what is dropped there in
order, and they have all of them unless some are hidden. -/
theorem static_tokens (g : Grammar) (t t' : TokenTable) :
    (∀ p pre item post, g.splitPick p t = .ok (pre, item, post) t' →
      ∃ id rowId items index, p = .pick id rowId items index ∧ items[index]? = some item ∧
        (∀ e ∈ items.eraseIdx index,
          (e.discards = true ↔ ∀ q ∈ e.hidden, q.discards = true)) ∧
        StaticRun t' (items.take index) pre ∧ StaticRun t' (items.drop (index + 1)) post) ∧
    ∀ node id type rowId items u,
      g.deriveNode node (.transform id type rowId items) t = .ok (.regular u) t' →
      List.Forall₂ (StaticRun t') (items.splitOnP (!·.discards)) u.rowRuns := by
  constructor
  · intro p pre item post run
    obtain ⟨id, rowId, items, index, rfl, found, dropped, before, after⟩ := splitPick_cases run
    exact ⟨id, rowId, items, index, rfl, found, fun e he => (dropped e he).discards_iff, before,
      after⟩
  · intro node id type rowId items u run
    obtain ⟨concrete, ⟨-, -, token⟩ | regular⟩ := deriveNode_cases run
    · cases token
    obtain ⟨_, r, filled, -, same⟩ := fillRow_of_deriveNode concrete regular run
    cases same
    rw [RegularUnparser.rowRuns_ofRow]
    exact (fillRow_filled filled (.refl t')).runs.imp fun _ _ => RunOf.staticRun

end Grammar

/-! ## Units between dots

A unit is picked from between dots.  Some of what is dropped is wrapped, once or twice. -/

namespace Wrapped

open Grammar

/-- The token `.`. -/
def dot : Parser := .token ⟨0⟩ ⟨1⟩ none
/-- A unit, which is written as nothing. -/
def unit : Parser := .transform ⟨2⟩ ⟨0⟩ ⟨1⟩ []
/-- A dot that is reported if it is missing. -/
def again : Parser := .opt ⟨3⟩ dot true
/-- A row of two dots. -/
def dots : Parser := .row ⟨4⟩ [dot, again]
/-- A dot under one wrapper. -/
def wrappedDot : Parser := .dontSkip ⟨5⟩ dot
/-- A unit with two dots before it and one behind it. -/
def dotted : Parser := .pick ⟨7⟩ ⟨6⟩ [dots, unit, wrappedDot] 1
/-- A dot under two wrappers. -/
def hiddenDot : Parser := .dontSkip ⟨8⟩ wrappedDot
/-- A unit with a dot under two wrappers before it. -/
def undotted : Parser := .pick ⟨10⟩ ⟨9⟩ [hiddenDot, unit] 1
/-- A unit under one wrapper. -/
def wrappedUnit : Parser := .dontSkip ⟨11⟩ unit
/-- A unit under two wrappers. -/
def hiddenUnit : Parser := .dontSkip ⟨12⟩ wrappedUnit
/-- A unit with another one, under two wrappers, before it. -/
def doubled : Parser := .pick ⟨14⟩ ⟨13⟩ [hiddenUnit, unit] 1

/-- All parsers above. -/
def grammar : Grammar :=
  ({ nodes := (({} : NodeTypes).declare "Unit" none {}).2
     kinds := (({} : TokenKinds).declareLiteral "Dot" ".").2 } : Grammar)
    |>.token ⟨1⟩ none |>.2.transform ⟨0⟩ [] |>.2.optTolerant dot |>.2.row [dot, again]
    |>.2.dontSkip dot |>.2.pick [dots, unit, wrappedDot] 1 |>.2.dontSkip wrappedDot
    |>.2.pick [hiddenDot, unit] 1 |>.2.dontSkip unit |>.2.dontSkip wrappedUnit
    |>.2.pick [hiddenUnit, unit] 1 |>.2

/-- Units between dots are declared step by step. -/
theorem built : grammar.Built := by
  refine Built.empty.step (.nodes (.declare "Unit" none {} nofun))
    |>.step (.kinds (.declareLiteral "Dot" "."))
    |>.step (.token ⟨1⟩ none (TokenKinds.first_mem_ids (by decide) _))
    |>.step (.transform ⟨0⟩ [] ?_ ?_) |>.step (.optTolerant dot ?_)
    |>.step (.row [dot, again] ?_) |>.step (.dontSkip dot ?_)
    |>.step (.pick [dots, unit, wrappedDot] 1 ?_) |>.step (.dontSkip wrappedDot ?_)
    |>.step (.pick [hiddenDot, unit] 1 ?_) |>.step (.dontSkip unit ?_)
    |>.step (.dontSkip wrappedUnit ?_) |>.step (.pick [hiddenUnit, unit] 1 ?_)
  all_goals
    first
    | exact mem_parsers rfl
    | exact forall_mem_parsers rfl
    | exact Index.mem_upTo.mpr (by decide)

/-- The table of one dot. -/
def table : TokenTable := { tokens := #[⟨⟨⟨1⟩, none⟩, "."⟩] }

/-- Without anything hidden, all dots stand in the runs. -/
theorem static_tokens_of_dotted :
    grammar.splitPick dotted {} = .ok ([⟨0⟩, ⟨0⟩], unit, [⟨0⟩]) table ∧
    dots.discards = true ∧ wrappedDot.discards = true ∧
    List.Forall₂ table.Names [⟨0⟩, ⟨0⟩] dots.tokens ∧
    List.Forall₂ table.Names [⟨0⟩] wrappedDot.tokens := by
  have run : grammar.splitPick dotted {} = .ok ([⟨0⟩, ⟨0⟩], unit, [⟨0⟩]) table := by
    with_unfolding_all rfl
  obtain ⟨_, _, _, _, same, -, dropped, before, after⟩ :=
    (static_tokens grammar {} table).1 _ _ _ _ run
  cases same
  have plain : ∀ p ∈ [dots, wrappedDot], p.hidden = [] := by decide
  rw [List.forall_mem_cons, List.forall_mem_singleton] at plain
  refine ⟨run, (dropped dots List.mem_cons_self).mpr ?_,
    (dropped wrappedDot (List.mem_cons_of_mem _ List.mem_cons_self)).mpr ?_,
    before.all_iff.mpr ?_, after.all_iff.mpr ?_⟩
  · simp [plain.1]
  · simp [plain.2]
  · simp [plain.1]
  · simp [plain.2]

/-- **A hidden dot is missing** from the run of what a `pick` drops. -/
theorem dot_dropped : grammar.Built ∧
    grammar.splitPick undotted {} = .ok ([], unit, []) {} ∧ hiddenDot.tokens = [dot] :=
  ⟨built, by with_unfolding_all rfl, rfl⟩

/-- **A hidden unit is dropped**, although it has a result. -/
theorem unit_dropped : grammar.splitPick doubled {} = .ok ([], unit, []) {} ∧
    hiddenUnit.discards = false := ⟨by with_unfolding_all rfl, rfl⟩

end Wrapped

end Unparsing
