import Unparsing.Proofs.Derivation.Filling

/-!
# Proofs/Reflexivity — when a producer agrees with itself

The same producer may be met twice, and is then compared with itself.  That an unparser is derived
of it does not mean that it passes.  A choice is compared only in that it creates a node, although a
derivation also accepts branches without a node; and a derivation does not read all that is
compared.  `Grammar.agree_self_iff` says what else it takes, and `Doubles.at_odds` shows that
nothing of it can be left out.
-/

namespace Unparsing

namespace Parser

/-- What fills the fields of a transform, in order. -/
def fillings : Parser → List Parser
  | transform _ _ _ items => items.filterMap filling?
  | _ => []

/-- What a producer holds that is not read when an unparser for a node type is derived of it: the
producers in its fields, its elements, or its inner parser if that is not there. -/
def unread (node : NodeId) : Parser → List Parser
  | transform id type rowId items => (transform id type rowId items).fillings.filter (·.isProducer)
  | list _ _ element _ => [element]
  | optBool _ inner alternatives => if node = alternatives.present then [] else [inner]
  | _ => []

/-- What is read only for its tokens when an unparser for a node type is derived of a producer: what
is dropped around its fields, or its inner parser if that is there. -/
def readAsRuns (node : NodeId) : Parser → List Parser
  | transform _ _ _ items => items.flatMap setAside
  | optBool _ inner alternatives => if node = alternatives.present then [inner] else []
  | _ => []

end Parser

namespace Grammar

variable {g : Grammar} {t t' : TokenTable}

/-- An item of a row agrees with itself if what fills its field does: a choice in that its branches
build nodes, a reference in that its rule creates one. -/
theorem agreesWithSelf_item_iff {q : Parser}
    (read : q.discards = true ∨ ∃ f f', g.emitField q f t = .ok f' t')
    (rooted : ∀ id rule, .defer id rule ∈ q.preorder → (g.root? rule).any g.createsNode = true)
    (hidden : ∀ d ∈ q.setAside, ∀ x ∈ d.hidden, g.agreesWithSelf x = true) :
    g.agreesWithSelf q = true ↔ ∀ e, q.filling? = some e →
      (∀ id branches, e = .choice id branches → ∀ b ∈ branches, g.BuildsNode b) ∧
        (e.isProducer = true → g.agreesWithSelf e = true) := by
  obtain discards | ⟨f, f', run⟩ := read
  · refine iff_of_true (agreesWithSelf_of_discards discards) fun e filled => ?_
    rw [Parser.filling?_of_discards discards] at filled
    cases filled
  obtain ⟨runs, e, filled, bare, checked⟩ := emitField_filling run
  rw [agreesWithSelf_filling_iff filled fun d hd =>
    agreesWithSelf_of_isRun (runs d hd) (hidden d hd), filled]
  simp only [Option.some.injEq, forall_eq']
  cases e with
  | transform | list | optBool => simp [Parser.isProducer]
  | null => simp [agreesWithSelf_null, Parser.isProducer]
  | defer id rule =>
    have root := rooted id rule (Parser.mem_preorder_of_filling filled)
    simp [agreesWithSelf_defer, root, Parser.isProducer]
  | choice id branches =>
    obtain ⟨_, _, accepted⟩ := checked id branches rfl
    rw [agreesWithSelf_choice, createsNode_of_checkBranches accepted]
    simp [Parser.isProducer]
  | _ => cases bare

/-- A transform agrees with itself if all that fills its fields does. -/
theorem agree_self_transform_iff {node type : NodeId} {id rowId : ParserId} {items : List Parser}
    {u : NodeUnparser} (run : g.deriveNode node (.transform id type rowId items) t = .ok u t')
    (rooted : ∀ q ∈ items, ∀ id rule, .defer id rule ∈ q.preorder →
      (g.root? rule).any g.createsNode = true)
    (hidden : ∀ q ∈ items, ∀ d ∈ q.setAside, ∀ x ∈ d.hidden, g.agreesWithSelf x = true) :
    g.agree [.transform id type rowId items, .transform id type rowId items] = true ↔
      (∀ id branches, .choice id branches ∈ items.filterMap Parser.filling? →
        ∀ b ∈ branches, g.BuildsNode b) ∧
      ∀ e ∈ (items.filterMap Parser.filling?).filter (·.isProducer), g.agreesWithSelf e = true := by
  have item (q : Parser) (hq : q ∈ items) :=
    agreesWithSelf_item_iff (exists_emitField_of_deriveNode run q hq) (rooted q hq) (hidden q hq)
  rw [agree, agreeAt_self_transform, forall₂_congr item]
  simp only [List.mem_filter, List.mem_filterMap]
  constructor
  · intro all
    constructor
    · rintro id branches ⟨q, hq, filled⟩
      exact (all q hq _ filled).1 id branches rfl
    · rintro e ⟨⟨q, hq, filled⟩, builds⟩
      exact (all q hq e filled).2 builds
  · rintro ⟨choices, producers⟩ q hq e filled
    exact ⟨fun id branches same => choices id branches ⟨q, hq, same ▸ filled⟩,
      fun builds => producers e ⟨⟨q, hq, filled⟩, builds⟩⟩

/-- The separator of a list of which an unparser is derived is a token. -/
theorem agreesWithSelf_separator {node type : NodeId} {id : ParserId} {element : Parser}
    {separator : Option Parser} {u : NodeUnparser}
    (run : g.deriveNode node (.list id type element separator) t = .ok u t') :
    ∀ q ∈ separator.toList, g.agreesWithSelf q = true := by
  obtain ⟨concrete, ⟨-, wraps, -⟩ | regular⟩ := deriveNode_cases run
  · cases wraps
  intro q hq
  obtain rfl := Option.mem_toList.mp hq
  rw [deriveNode_list_some concrete regular] at run
  obtain ⟨_, _, interned, -⟩ := estate_bind_eq_ok.mp run
  cases q with
  | token => exact agreesWithSelf_token
  | _ => cases interned

/-- **A producer agrees with itself**, once an unparser has been derived of it and all rules it
refers to create nodes, if and only if the branches of the choices in its fields build nodes, and
what has not been read agrees with itself.  What is hidden in its runs is left aside. -/
theorem agree_self_iff {node : NodeId} {p : Parser} {u : NodeUnparser}
    (producer : p.isProducer = true) (run : g.deriveNode node p t = .ok u t')
    (rooted : ∀ id rule, .defer id rule ∈ p.preorder → (g.root? rule).any g.createsNode = true)
    (hidden : ∀ d ∈ p.readAsRuns node, ∀ x ∈ d.hidden, g.agreesWithSelf x = true) :
    g.agree [p, p] = true ↔
      (∀ id branches, .choice id branches ∈ p.fillings → ∀ b ∈ branches, g.BuildsNode b) ∧
        ∀ q ∈ p.unread node, g.agreesWithSelf q = true := by
  cases p with
  | transform id type rowId items =>
    refine agree_self_transform_iff run (fun q hq id rule inside => rooted id rule ?_)
      fun q hq d hd => hidden d (List.mem_flatMap_of_mem hq hd)
    simpa [Parser.preorder] using ⟨q, hq, inside⟩
  | list id type element separator =>
    rw [agree, agreeAt_self_list, List.forall_mem_cons, and_iff_left (agreesWithSelf_separator run)]
    simp [Parser.fillings, Parser.unread]
  | optBool id inner alternatives =>
    obtain ⟨concrete, ⟨-, wraps, -⟩ | regular⟩ := deriveNode_cases run
    · cases wraps
    rw [deriveNode_optBool concrete regular] at run
    rw [Parser.readAsRuns] at hidden
    rw [agree, agreeAt_self_optBool, Parser.unread]
    split at run
    next present =>
      obtain ⟨_, _, pre, -⟩ := estate_bind_eq_ok.mp run
      rw [if_pos present, List.forall_mem_singleton] at hidden
      simp [present, Parser.fillings, agreesWithSelf_of_isRun (isRun_of_emitRun pre) hidden]
    next absent => simp [absent, Parser.fillings]
  | _ => cases producer

/-- A parser is at odds with itself: an unparser is derived of it, but it does not agree with
itself. -/
def AtOdds (g : Grammar) (node : NodeId) (p : Parser) : Prop :=
  (∃ u t, g.deriveNode node p {} = .ok u t) ∧ g.agree [p, p] = false

instance (g : Grammar) (node : NodeId) (p : Parser) : Decidable (g.AtOdds node p) :=
  match run : g.deriveNode node p {} with
  | .error _ _ => isFalse fun ⟨⟨_, _, done⟩, _⟩ => by cases run.symm.trans done
  | .ok u t => decidable_of_iff (g.agree [p, p] = false)
      ⟨fun differ => ⟨⟨u, t, run⟩, differ⟩, fun ⟨_, differ⟩ => differ⟩

end Grammar

/-! ## Boxes of units

The content of a box is a unit, or something that is not known to be one. -/

namespace Doubles

open Grammar

/-- The token `.`. -/
def dot : Parser := .token ⟨0⟩ ⟨1⟩ none
/-- A unit, which is written as nothing. -/
def unit : Parser := .transform ⟨2⟩ ⟨0⟩ ⟨1⟩ []
/-- A reference to the rule of units. -/
def reference : Parser := .defer ⟨3⟩ ⟨0⟩
/-- A unit, or whatever the rule of units parses. -/
def either : Parser := .choice ⟨4⟩ [unit, reference]
/-- A unit of either sort with a dot before it. -/
def dotted : Parser := .pick ⟨6⟩ ⟨5⟩ [dot, either] 1
/-- A box with a dot and a unit of either sort. -/
def box : Parser := .transform ⟨8⟩ ⟨1⟩ ⟨7⟩ [dotted]
/-- A unit that is not there. -/
def absent : Parser := .null ⟨9⟩ ⟨0⟩
/-- A unit that is there, or one that is not. -/
def perhaps : Parser := .choice ⟨10⟩ [unit, absent]
/-- A box with a unit that may not be there. -/
def absentBox : Parser := .transform ⟨12⟩ ⟨1⟩ ⟨11⟩ [perhaps]
/-- A list of units. -/
def items : Parser := .list ⟨13⟩ ⟨5⟩ unit none
/-- A unit, or a list of units. -/
def mixture : Parser := .choice ⟨14⟩ [unit, items]
/-- A reference to the rule of units and lists. -/
def mixed : Parser := .defer ⟨15⟩ ⟨1⟩
/-- A choice of just that reference. -/
def only : Parser := .choice ⟨16⟩ [mixed]
/-- A box with a unit or a list. -/
def mixedBox : Parser := .transform ⟨18⟩ ⟨1⟩ ⟨17⟩ [only]
/-- A choice between dots. -/
def dots : Parser := .choice ⟨19⟩ [dot, dot]
/-- A unit, written as one of two dots. -/
def dotUnit : Parser := .transform ⟨21⟩ ⟨0⟩ ⟨20⟩ [dots]
/-- A box with a unit that is written as one of two dots. -/
def nestedBox : Parser := .transform ⟨23⟩ ⟨1⟩ ⟨22⟩ [dotUnit]
/-- A list of dots, each one of two. -/
def dotItems : Parser := .list ⟨24⟩ ⟨5⟩ dots none
/-- A box with a list of dots. -/
def listBox : Parser := .transform ⟨26⟩ ⟨1⟩ ⟨25⟩ [dotItems]
/-- A flag, set by one of two dots. -/
def flag : Parser := .optBool ⟨27⟩ dots ⟨⟨2⟩, ⟨3⟩, ⟨4⟩⟩
/-- A choice between dots under one wrapper. -/
def wrapped : Parser := .dontSkip ⟨28⟩ dots
/-- A choice between dots under two wrappers. -/
def rewrapped : Parser := .dontSkip ⟨29⟩ wrapped
/-- A unit with a choice between dots, under two wrappers, before it. -/
def picked : Parser := .pick ⟨31⟩ ⟨30⟩ [rewrapped, unit] 1
/-- A box with such a unit. -/
def hiddenBox : Parser := .transform ⟨33⟩ ⟨1⟩ ⟨32⟩ [picked]

/-- Units, boxes of units, flags, and lists of units. -/
def registries : Grammar where
  nodes := (({} : NodeTypes).declare "Unit" none {} |>.2.declare "Box" none {}
    |>.2.addField ⟨1⟩ "content" |>.2.declareBool "Flag" |>.2.declareList "Items" ⟨0⟩ {}).2
  kinds := (({} : TokenKinds).declareLiteral "Dot" ".").2

/-- All parsers above, and the rules of units and of mixtures. -/
def grammar : Grammar :=
  registries.token ⟨1⟩ none |>.2.transform ⟨0⟩ [] |>.2.addRule "unit" unit |>.2.defer ⟨0⟩
    |>.2.choice [unit, reference] |>.2.pick [dot, either] 1 |>.2.transform ⟨1⟩ [dotted]
    |>.2.null ⟨0⟩ |>.2.choice [unit, absent] |>.2.transform ⟨1⟩ [perhaps]
    |>.2.list ⟨5⟩ unit none |>.2.choice [unit, items] |>.2.addRule "mixture" mixture
    |>.2.defer ⟨1⟩ |>.2.choice [mixed] |>.2.transform ⟨1⟩ [only]
    |>.2.choice [dot, dot] |>.2.transform ⟨0⟩ [dots] |>.2.transform ⟨1⟩ [dotUnit]
    |>.2.list ⟨5⟩ dots none |>.2.transform ⟨1⟩ [dotItems]
    |>.2.optBool dots ⟨⟨2⟩, ⟨3⟩, ⟨4⟩⟩
    |>.2.dontSkip dots |>.2.dontSkip wrapped |>.2.pick [rewrapped, unit] 1
    |>.2.transform ⟨1⟩ [picked] |>.2

/-- What the box derives: a field with a dot before it. -/
def written : NodeUnparser := .regular
  { node := ⟨1⟩, pre := [], inter := [], post := []
    fields := [{ node := ⟨1⟩, field := ⟨0⟩, alwaysAbsent := false, pre := [⟨0⟩] }] }

/-- The table of one dot. -/
def table : TokenTable := { tokens := #[⟨⟨⟨1⟩, none⟩, "."⟩] }

theorem built_registries : registries.Built :=
  Built.empty.step (.nodes (.declare "Unit" none {} nofun))
    |>.step (.nodes (.declare "Box" none {} nofun))
    |>.step (.nodes (.addField ⟨1⟩ "content" (by decide)))
    |>.step (.nodes (.declareBool "Flag"))
    |>.step (.nodes (.declareList "Items" ⟨0⟩ {} (by decide)))
    |>.step (.kinds (.declareLiteral "Dot" "."))

/-- Boxes of all sorts are declared step by step. -/
theorem built : grammar.Built := by
  refine built_registries.step (.token ⟨1⟩ none (TokenKinds.first_mem_ids (by decide) _))
    |>.step (.transform ⟨0⟩ [] ?_ ?_) |>.step (.addRule "unit" unit ?_)
    |>.step (.defer ⟨0⟩ ?_) |>.step (.choice [unit, reference] ?_)
    |>.step (.pick [dot, either] 1 ?_) |>.step (.transform ⟨1⟩ [dotted] ?_ ?_)
    |>.step (.null ⟨0⟩ ?_) |>.step (.choice [unit, absent] ?_)
    |>.step (.transform ⟨1⟩ [perhaps] ?_ ?_)
    |>.step (.list ⟨5⟩ unit none ?_ ?_ nofun) |>.step (.choice [unit, items] ?_)
    |>.step (.addRule "mixture" mixture ?_) |>.step (.defer ⟨1⟩ ?_)
    |>.step (.choice [mixed] ?_) |>.step (.transform ⟨1⟩ [only] ?_ ?_)
    |>.step (.choice [dot, dot] ?_) |>.step (.transform ⟨0⟩ [dots] ?_ ?_)
    |>.step (.transform ⟨1⟩ [dotUnit] ?_ ?_)
    |>.step (.list ⟨5⟩ dots none ?_ ?_ nofun)
    |>.step (.transform ⟨1⟩ [dotItems] ?_ ?_)
    |>.step (.optBool dots ⟨⟨2⟩, ⟨3⟩, ⟨4⟩⟩
      (List.forall_mem_cons.mpr ⟨?_, List.forall_mem_singleton.mpr ?_⟩) ?_)
    |>.step (.dontSkip dots ?_) |>.step (.dontSkip wrapped ?_)
    |>.step (.pick [rewrapped, unit] 1 ?_) |>.step (.transform ⟨1⟩ [picked] ?_ ?_)
  all_goals
    first
    | exact mem_parsers rfl
    | exact forall_mem_parsers rfl
    | exact Index.mem_upTo.mpr (by decide)

/-- A box agrees with itself if its content is a unit or a reference to one. -/
theorem agree_self_iff_of_box : grammar.deriveNode ⟨1⟩ box {} = .ok written table ∧
    grammar.agree [box, box] = true := by
  have run : grammar.deriveNode ⟨1⟩ box {} = .ok written table :=
    Derivation.attempt_eq_derived.mp (by decide +kernel)
  have dropped : box.readAsRuns ⟨1⟩ = [dot] := rfl
  have plain : dot.hidden = [] := rfl
  have filled : box.fillings = [either] := rfl
  have read : box.unread ⟨1⟩ = [] := rfl
  refine ⟨run, (agree_self_iff rfl run ?_ ?_).mpr ⟨?_, ?_⟩⟩
  · intro id rule h
    obtain ⟨-, rfl⟩ : id = ⟨3⟩ ∧ rule = ⟨0⟩ := by
      simpa [box, dotted, either, dot, unit, reference, Parser.preorder, Parser.preorderAll] using h
    decide +kernel
  · simp [dropped, plain]
  · intro id branches h
    rw [filled, List.mem_singleton] at h
    cases h
    rw [List.forall_mem_cons, List.forall_mem_singleton]
    exact ⟨⟨rfl, fun h => absurd h (by decide)⟩, rfl, fun _ => by decide +kernel⟩
  · simp [read]

/-- **Parsers at odds with themselves**: boxes that hold a unit or an absent one, or a node of a
type that is not known; and those whose unit, list or dropped item is not read, though it holds a
choice of tokens, as well as a flag that holds one and is not set.  All rules that could be referred
to create nodes. -/
theorem at_odds : grammar.Built ∧
    (∀ p ∈ [absentBox, mixedBox, nestedBox, listBox, flag, hiddenBox], p ∈ grammar.parsers) ∧
    (∀ rule ∈ grammar.ruleIds, (grammar.root? rule).any grammar.createsNode = true) ∧
    grammar.AtOdds ⟨1⟩ absentBox ∧ grammar.AtOdds ⟨1⟩ mixedBox ∧ grammar.AtOdds ⟨1⟩ nestedBox ∧
    grammar.AtOdds ⟨1⟩ listBox ∧ grammar.AtOdds ⟨4⟩ flag ∧ grammar.AtOdds ⟨1⟩ hiddenBox :=
  ⟨built, forall_mem_parsers rfl, by decide +kernel, by decide +kernel⟩

end Doubles

end Unparsing
