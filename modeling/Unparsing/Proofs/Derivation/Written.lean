import Unparsing.Proofs.Derivation.Shape
import Unparsing.Proofs.Derivation.Stepwise
import Unparsing.Proofs.Unparser.Tokens

/-!
# Proofs/Derivation/Written — the tokens that a derived unparser writes

Which tokens a producer has an unparser write is read off its tree: those around its fields, in its
runs, or its separator (`Parser.written`).  A part that builds nodes itself keeps its tokens to
itself, and so does anything under two wrappers.

* `Parser.IsRun`, `Parser.IsField` — the parsers that match a run, and those that fill a field, with
  the tokens they put before and after it.
* `Parser.layout` — a row split around its fields.
* `Grammar.emitRun_names`, `Grammar.emitField_names`, `Grammar.fillRow_layout` — the tokens of a
  run, around a field and of a row, in order.
* `Grammar.deriveNode_names` — a derived unparser writes just what its producer is said to.
-/

namespace Unparsing

open TokenTable

/-! ## Tokens in the tree -/

namespace Parser

/-- What makes the token that a token parser matches. -/
def identity? : Parser → Option TokenIdentity
  | token _ kind text => some (.of kind text)
  | _ => none

mutual

/-- The tokens that a parser leaves to be written by the node around it, in order. -/
def exposed : Parser → List Parser
  | token id kind text => [token id kind text]
  | row _ items | pick _ _ items _ | choice _ items => exposedAll items
  | opt _ inner _ | predicate _ inner _ => inner.exposed
  | dontSkip _ (dontSkip _ _) => []
  | dontSkip _ inner => inner.exposed
  | transform .. | list .. | optBool .. | defer .. | null .. | skip .. | noBacktrack .. => []

/-- Companion of `exposed` on a list of parsers. -/
def exposedAll : List Parser → List Parser
  | [] => []
  | p :: ps => p.exposed ++ exposedAll ps

end

/-- A list exposes what its parsers do, in order. -/
@[simp] theorem exposedAll_eq_flatMap (ps : List Parser) :
    exposedAll ps = ps.flatMap exposed := by
  induction ps with
  | nil => rfl
  | cons p ps ih => rw [exposedAll, ih, List.flatMap_cons]

/-- A wrapper exposes what is under it, unless that is a wrapper, too. -/
theorem exposed_dontSkip (id : ParserId) (inner : Parser) :
    (dontSkip id inner).exposed = if inner.isDontSkip then [] else inner.exposed := by
  cases inner <;> simp [exposed, isDontSkip]

/-- A wrapper exposes no more than what it wraps. -/
theorem exposed_eq_nil_of_unwrap {p : Parser} (h : p.unwrap.exposed = []) : p.exposed = [] := by
  cases p with
  | dontSkip id inner =>
    rw [exposed_dontSkip]
    split
    · rfl
    · exact h
  | _ => exact h

/-- The tokens that a producer has written for nodes of a type: those of its row, its separator, or
those of its inner parser if that is present. -/
def written (node : NodeId) : Parser → List Parser
  | transform _ _ _ items => items.flatMap exposed
  | list _ _ _ separator => separator.toList
  | optBool _ inner alternatives => if node = alternatives.present then inner.exposed else []
  | row .. | pick .. | opt .. | choice .. | defer .. | token .. | null .. | predicate .. | skip ..
  | noBacktrack .. | dontSkip .. => []

/-- The parsers that match a fixed run of tokens.  What is wrapped twice is not looked at. -/
inductive IsRun : Parser → Prop
  | token (id : ParserId) (kind : KindId) (text : Option String) : IsRun (.token id kind text)
  | noBacktrack (id : ParserId) : IsRun (.noBacktrack id)
  | row {id : ParserId} {items : List Parser} : (∀ p ∈ items, IsRun p) → IsRun (.row id items)
  | opt {id : ParserId} {inner : Parser} : IsRun inner → IsRun (.opt id inner true)
  | dontSkip {id : ParserId} {inner : Parser} : (inner.isDontSkip = false → IsRun inner) →
      IsRun (.dontSkip id inner)

/-- Whether the parser fills a field without putting any token around it. -/
def isBareField : Parser → Bool
  | transform .. | list .. | optBool .. | defer .. | null .. | choice .. => true
  | row .. | pick .. | opt .. | token .. | predicate .. | skip .. | noBacktrack .. | dontSkip .. =>
    false

/-- The parsers that fill a field, with the tokens that they put before and after it. -/
inductive IsField : Parser → List Parser → List Parser → Prop
  | bare {p : Parser} : p.isBareField = true → p.exposed = [] → IsField p [] []
  | opt {id : ParserId} {inner : Parser} {tolerant : Bool} {before after : List Parser} :
      IsField inner before after → IsField (.opt id inner tolerant) before after
  | pick {id rowId : ParserId} {items : List Parser} {index : Nat} {item : Parser}
      {before after : List Parser} : items[index]? = some item →
      (∀ p ∈ items.take index, IsRun p) → (∀ p ∈ items.drop (index + 1), IsRun p) →
      IsField item before after →
      IsField (.pick id rowId items index) ((items.take index).flatMap exposed ++ before)
        (after ++ (items.drop (index + 1)).flatMap exposed)
  | dontSkip {id : ParserId} {inner : Parser} {before after : List Parser} :
      inner.isDontSkip = false → IsField inner before after →
      IsField (.dontSkip id inner) before after

/-- Whether the parser has its place in a row: what the row throws away is a run, and what it keeps
fills a field. -/
def InRow (p : Parser) : Prop :=
  if p.discards then p.IsRun else ∃ before after, p.IsField before after

/-- What fills a field has all tokens that it exposes put around it. -/
theorem IsField.exposed_eq {p : Parser} {before after : List Parser} (h : p.IsField before after) :
    p.exposed = before ++ after := by
  induction h with
  | bare _ none => exact none
  | opt _ ih => exact ih
  | @pick id rowId items index item before after found _ _ _ ih =>
    obtain ⟨lt, rfl⟩ := List.getElem?_eq_some_iff.mp found
    rw [exposed, exposedAll_eq_flatMap]
    conv_lhs => rw [← List.take_append_drop index items, List.drop_eq_getElem_cons lt]
    simp only [List.flatMap_append, List.flatMap_cons, ih, List.append_assoc]
  | dontSkip single _ ih =>
    rw [exposed_dontSkip, single]
    exact ih

/-- A row split around the parsers that are kept: the tokens before the first one, and each of them
with the tokens after it. -/
def layout : List Parser → List Parser × List (Parser × List Parser)
  | [] => ([], [])
  | p :: ps =>
    if p.discards then
      (p.exposed ++ (layout ps).1, (layout ps).2)
    else
      ([], (p, (layout ps).1) :: (layout ps).2)

/-- A layout leaves out no token. -/
theorem flatMap_exposed_eq_layout (items : List Parser) :
    items.flatMap exposed =
      (layout items).1 ++ (layout items).2.flatMap fun part => part.1.exposed ++ part.2 := by
  induction items with
  | nil => rfl
  | cons p ps ih =>
    rw [List.flatMap_cons, ih, layout]
    split <;> simp

end Parser

/-- A number of a table names the token that a parser matches. -/
def TokenTable.Names (t : TokenTable) (i : TokenId) (p : Parser) : Prop :=
  ∃ u, t.get? i = some u ∧ p.identity? = some u.toTokenIdentity

/-- A token names the same parser in every larger table. -/
theorem TokenTable.Names.mono {t t' : TokenTable} (grown : t.Extends t') {i : TokenId} {p : Parser}
    (h : t.Names i p) : t'.Names i p :=
  let ⟨u, hi, hp⟩ := h
  ⟨u, grown.get? hi, hp⟩

namespace Grammar

variable {g : Grammar} {t t' : TokenTable}

/-! ## Runs -/

/-- A run that names tokens names no more of them. -/
theorem names_iff_eq {r : TokenRun} {ps qs : List Parser} (named : List.Forall₂ t.Names r ps)
    (more : ps.Sublist qs) : List.Forall₂ t.Names r qs ↔ qs = ps := by
  constructor
  · intro named'
    exact (more.eq_of_length (named.length_eq.symm.trans named'.length_eq)).symm
  · rintro rfl
    exact named

/-- The token that a parser is given names it. -/
theorem internParser_names {p : Parser} {i : TokenId} (run : internParser g p t = .ok i t') :
    t'.Names i p := by
  cases p with
  | token id kind text =>
    obtain ⟨u, hu, same⟩ := find?_eq_some (find?_of_intern run)
    exact ⟨u, hu, congrArg some same.symm⟩
  | _ => cases run

/-- The runs of items name what the items expose, if each of them does. -/
theorem emitRuns_names {items : List Parser} {r : TokenRun}
    (ih : ∀ p ∈ items, ∀ t r t', g.emitRun p t = .ok r t' → List.Forall₂ t'.Names r p.exposed)
    (run : g.emitRuns items t = .ok r t') :
    List.Forall₂ t'.Names r (items.flatMap Parser.exposed) := by
  induction items generalizing t r t' with
  | nil =>
    cases run
    exact .nil
  | cons p ps ihps =>
    rw [List.forall_mem_cons] at ih
    obtain ⟨_, _, first, run⟩ := estate_bind_eq_ok.mp run
    obtain ⟨_, _, rest, run⟩ := estate_bind_eq_ok.mp run
    cases run
    have grown := (stepwise_emitRuns fun p _ => stepwise_emitRun p).grows_of_ok rest
    rw [List.flatMap_cons]
    exact List.rel_append ((ih.1 _ _ _ first).imp fun _ _ => .mono grown) (ihps ih.2 rest)

/-- Every item of a row has its own run. -/
theorem exists_emitRun_of_emitRuns {items : List Parser} {p : Parser} {r : TokenRun}
    (hp : p ∈ items) (run : g.emitRuns items t = .ok r t') :
    ∃ t₁ r₁ t₂, g.emitRun p t₁ = .ok r₁ t₂ := by
  induction items generalizing t r t' with
  | nil => cases hp
  | cons q ps ih =>
    obtain ⟨_, _, first, run⟩ := estate_bind_eq_ok.mp run
    obtain ⟨_, _, rest, run⟩ := estate_bind_eq_ok.mp run
    obtain rfl | hp := List.mem_cons.mp hp
    · exact ⟨_, _, _, first⟩
    · exact ih hp rest

/-- **The run of a parser** is that of the tokens that the parser exposes. -/
theorem emitRun_names {p : Parser} {r : TokenRun} (run : g.emitRun p t = .ok r t') :
    List.Forall₂ t'.Names r p.exposed := by
  induction p using Parser.induction generalizing t r t' with
  | row id items ih =>
    rw [Parser.exposed, Parser.exposedAll_eq_flatMap]
    exact emitRuns_names (fun p hp _ _ _ run => ih p hp run) run
  | token id kind text =>
    obtain ⟨_, _, interned, run⟩ := estate_bind_eq_ok.mp run
    cases run
    exact .cons (internParser_names interned) .nil
  | opt id inner tolerant ih =>
    cases tolerant with
    | true => exact ih run
    | false => cases run
  | noBacktrack =>
    cases run
    exact .nil
  | dontSkip id inner ih =>
    rw [emitRun_dontSkip] at run
    rw [Parser.exposed_dontSkip]
    split at run
    next wrapped =>
      cases run
      rw [if_pos wrapped]
      exact .nil
    next single =>
      rw [if_neg single]
      exact ih run
  | _ => cases run

/-- What has a run is one. -/
theorem isRun_of_emitRun {p : Parser} {r : TokenRun} (run : g.emitRun p t = .ok r t') :
    p.IsRun := by
  induction p using Parser.induction generalizing t r t' with
  | row id items ih =>
    refine .row fun p hp => ?_
    obtain ⟨_, _, _, part⟩ := exists_emitRun_of_emitRuns hp run
    exact ih p hp part
  | token id kind text => exact .token id kind text
  | opt id inner tolerant ih =>
    cases tolerant with
    | true => exact .opt (ih run)
    | false => cases run
  | noBacktrack id => exact .noBacktrack id
  | dontSkip id inner ih =>
    refine .dontSkip fun single => ?_
    rw [emitRun_dontSkip, if_neg (by simp [single])] at run
    exact ih run
  | _ => cases run

/-- Items that are written as a run are runs. -/
theorem isRun_of_emitRuns {items : List Parser} {r : TokenRun}
    (run : g.emitRuns items t = .ok r t') : ∀ p ∈ items, p.IsRun := by
  intro p hp
  obtain ⟨_, _, _, part⟩ := exists_emitRun_of_emitRuns hp run
  exact isRun_of_emitRun part

/-! ## Branches

A choice is written by the nodes that its branches build, so these must not leave any token. -/

/-- A parser that derives a node leaves no token to the node around it. -/
theorem exposed_of_deriveNode {node : NodeId} {p : Parser} {u : NodeUnparser}
    (run : g.deriveNode node p t = .ok u t') : p.exposed = [] := by
  obtain ⟨concrete, ⟨-, wraps, -⟩ | regular⟩ := deriveNode_cases run
  · refine Parser.exposed_eq_nil_of_unwrap ?_
    cases h : p.unwrap with
    | transform => rfl
    | _ =>
      rw [h] at wraps
      cases wraps
  induction p using Parser.induction generalizing t u t' with
  | transform | list | optBool | null => rfl
  | opt id inner tolerant ih =>
    rw [deriveNode_opt concrete regular] at run
    exact ih run
  | dontSkip id inner ih =>
    rw [deriveNode_dontSkip concrete regular] at run
    rw [Parser.exposed_dontSkip]
    split at run
    · cases run
    next single =>
      rw [if_neg single]
      exact ih run
  | _ =>
    rw [deriveNode_unparsable concrete regular rfl] at run
    cases run

/-- A branch that is accepted exposes no tokens. -/
theorem exposed_of_checkBranch {p : Parser} {derive : NodeId → Interning NodeUnparser}
    (h : ∀ node t u t', derive node t = .ok u t' → p.exposed = [])
    (run : g.checkBranch p derive t = .ok () t') : p.exposed = [] := by
  obtain ⟨_, _, rfl⟩ | ⟨_, _, rfl⟩ | ⟨_, _, _, _, derived⟩ := checkBranch_cases run
  · rfl
  · rfl
  · exact h _ _ _ _ derived

/-- Branches that are accepted expose no tokens. -/
theorem exposed_of_checkBranches {branches : List Parser}
    (run : g.checkBranches branches t = .ok () t') : branches.flatMap Parser.exposed = [] := by
  induction branches generalizing t with
  | nil => rfl
  | cons p ps ih =>
    rw [checkBranches_cons] at run
    obtain ⟨_, _, first, rest⟩ := estate_bind_eq_ok.mp run
    rw [List.flatMap_cons, ih rest, List.append_nil]
    refine Parser.exposed_eq_nil_of_unwrap (exposed_of_checkBranch ?_ first)
    exact fun node t u t' derived => exposed_of_deriveNode derived

/-! ## Fields -/

/-- The tokens around a field name what parsers expose, in order. -/
abbrev Around (t : TokenTable) (f : FieldUnparser) (before after : List Parser) : Prop :=
  List.Forall₂ t.Names f.pre before ∧ List.Forall₂ t.Names f.post after

/-- Tokens around a field stand there in every larger table. -/
theorem Around.mono {f : FieldUnparser} {before after : List Parser} (grown : t.Extends t')
    (h : Around t f before after) : Around t' f before after :=
  ⟨h.1.imp fun _ _ => .mono grown, h.2.imp fun _ _ => .mono grown⟩

/-- Nothing stands around a field without tokens. -/
theorem around_blank (t : TokenTable) {f : FieldUnparser} (h : f.pre = [] ∧ f.post = []) :
    Around t f [] [] := by
  rw [Around, h.1, h.2]
  exact ⟨.nil, .nil⟩

/-- Completing a field only adds to the table. -/
theorem emitField_grows {p : Parser} {f f' : FieldUnparser} (ht : t.Faithful g.kinds)
    (run : g.emitField p f t = .ok f' t') : t.Extends t' ∧ t'.Faithful g.kinds := by
  have steps := stepwise_emitField (g := g) p f
  exact ⟨steps.grows_of_ok run, steps.faithful_of_ok ht run⟩

/-- **A pick is split into two runs and an item**: the runs name what the other items expose. -/
theorem splitPick_names {id rowId : ParserId} {items : List Parser} {index : Nat}
    {pre post : TokenRun} {inner : Parser}
    (run : g.splitPick (.pick id rowId items index) t = .ok (pre, inner, post) t') :
    items[index]? = some inner ∧
      (∀ p ∈ items.take index, p.IsRun) ∧ (∀ p ∈ items.drop (index + 1), p.IsRun) ∧
      List.Forall₂ t'.Names pre ((items.take index).flatMap Parser.exposed) ∧
      List.Forall₂ t'.Names post ((items.drop (index + 1)).flatMap Parser.exposed) := by
  cases found : items[index]? with
  | none =>
    simp only [splitPick, found] at run
    cases run
  | some inner' =>
    simp only [splitPick, found] at run
    obtain ⟨_, _, first, run⟩ := estate_bind_eq_ok.mp run
    obtain ⟨_, _, last, run⟩ := estate_bind_eq_ok.mp run
    cases run
    have grown := (stepwise_emitRuns fun p _ => stepwise_emitRun p).grows_of_ok last
    refine ⟨rfl, isRun_of_emitRuns first, isRun_of_emitRuns last, ?_,
      emitRuns_names (fun _ _ _ _ _ => emitRun_names) last⟩
    exact (emitRuns_names (fun _ _ _ _ _ => emitRun_names) first).imp fun _ _ => .mono grown

/-- **A field completed by a parser** has the tokens of the parser put around it, between those that
were there. -/
theorem emitField_names {p : Parser} {f f' : FieldUnparser} {before after : List Parser}
    (ht : t.Faithful g.kinds) (around : Around t f before after)
    (run : g.emitField p f t = .ok f' t') :
    ∃ before' after', p.IsField before' after' ∧
      Around t' f' (before ++ before') (after' ++ after) := by
  induction p using Parser.induction generalizing t f f' t' before after with
  | defer | list | transform | optBool | null =>
    cases run
    refine ⟨[], [], .bare rfl rfl, ?_⟩
    rwa [List.append_nil]
  | opt id inner tolerant ih =>
    obtain ⟨before', after', field, around'⟩ :=
      ih (f := { f with alwaysAbsent := false }) ht around run
    exact ⟨before', after', .opt field, around'⟩
  | choice id branches =>
    obtain ⟨_, _, checked, run⟩ := estate_bind_eq_ok.mp run
    cases run
    have grown := (oblivious_checkBranches fun p _ => (obliviousAt_and_unwrap p).2).grows ht checked
    refine ⟨[], [], .bare rfl ?_, ?_⟩
    · rw [Parser.exposed, Parser.exposedAll_eq_flatMap, exposed_of_checkBranches checked]
    · rw [List.append_nil]
      exact around.mono grown.1
  | pick id rowId items index ih =>
    obtain ⟨⟨pre, inner, post⟩, _, picked, run⟩ := estate_bind_eq_ok.mp run
    have grown := (oblivious_splitPick _).grows ht picked
    obtain ⟨found, runs, runs', hpre, hpost⟩ := splitPick_names picked
    simp only [emitPicked_eq, found, Option.elim_some] at run
    obtain ⟨before', after', field, around'⟩ := ih inner (List.mem_of_getElem? found) grown.2
      ⟨List.rel_append (around.mono grown.1).1 hpre, List.rel_append hpost (around.mono grown.1).2⟩
      run
    refine ⟨_, _, .pick found runs runs' field, ?_⟩
    simpa only [List.append_assoc] using around'
  | dontSkip id inner ih =>
    rw [emitField_dontSkip] at run
    split at run
    · cases run
    next single =>
      obtain ⟨before', after', field, around'⟩ := ih ht around run
      exact ⟨before', after', .dontSkip (by simpa using single) field, around'⟩
  | row | token | predicate | skip | noBacktrack => cases run

/-- An absent node tells nothing about its field. -/
theorem emitField_of_isNull {p : Parser} {f f' : FieldUnparser} (absent : p.strip.isNull = true)
    (run : g.emitField p f t = .ok f' t') : f' = f := by
  induction p using Parser.induction generalizing t t' with
  | null =>
    cases run
    rfl
  | dontSkip id inner ih =>
    rw [emitField_dontSkip] at run
    split at run
    · cases run
    · exact ih absent run
  | predicate => cases run
  | _ => cases absent

/-! ## Rows -/

/-- Filling a row only adds to a faithful table. -/
theorem fillRow_grows {overflow : Problem} {fields : List FieldUnparser} {items : List Parser}
    {r : TokenRun × List (FieldUnparser × TokenRun)} (ht : t.Faithful g.kinds)
    (run : g.fillRow overflow fields items t = .ok r t') : t.Extends t' ∧ t'.Faithful g.kinds := by
  have steps := stepwise_fillRow (g := g) overflow fields items
  exact ⟨steps.grows_of_ok run, steps.faithful_of_ok ht run⟩

/-- What a field in a derived unparser has of its parser: the tokens around it, and whether it is
shown. -/
structure FieldOf (t : TokenTable) (f : FieldUnparser) (p : Parser) : Prop where
  around : ∃ before after, p.IsField before after ∧ Around t f before after
  absent : p.strip.isNull = true → f.alwaysAbsent = true

/-- **The row of a transform** is written as its layout says: the runs are those of the items thrown
away, and the fields those of the items kept. -/
theorem fillRow_layout {overflow : Problem} {fields : List FieldUnparser} {items : List Parser}
    {r : TokenRun × List (FieldUnparser × TokenRun)} (ht : t.Faithful g.kinds)
    (blank : ∀ f ∈ fields, f.alwaysAbsent = true ∧ f.pre = [] ∧ f.post = [])
    (run : g.fillRow overflow fields items t = .ok r t') :
    (∀ p ∈ items, p.InRow) ∧ List.Forall₂ t'.Names r.1 (Parser.layout items).1 ∧
    List.Forall₂ (fun slot part => FieldOf t' slot.1 part.1 ∧ List.Forall₂ t'.Names slot.2 part.2)
      r.2 (Parser.layout items).2 := by
  induction items generalizing t fields r t' with
  | nil =>
    cases run
    exact ⟨nofun, .nil, .nil⟩
  | cons p ps ih =>
    unfold fillRow at run
    rw [List.forall_mem_cons, Parser.layout]
    split at run
    next discards =>
      obtain ⟨_, _, first, run⟩ := estate_bind_eq_ok.mp run
      obtain ⟨rest, _, hrest, run⟩ := estate_bind_eq_ok.mp run
      cases run
      have middle := (oblivious_emitRun p).grows ht first
      have grown := fillRow_grows middle.2 hrest
      obtain ⟨inRow, lead, filled⟩ := ih middle.2 blank hrest
      rw [Parser.InRow, if_pos discards, if_pos discards]
      refine ⟨⟨isRun_of_emitRun first, inRow⟩, ?_, filled⟩
      exact List.rel_append ((emitRun_names first).imp fun _ _ => .mono grown.1) lead
    next kept =>
      cases fields with
      | nil => cases run
      | cons field fields =>
        obtain ⟨field', _, first, run⟩ := estate_bind_eq_ok.mp run
        obtain ⟨rest, _, hrest, run⟩ := estate_bind_eq_ok.mp run
        cases run
        rw [List.forall_mem_cons] at blank
        have bare := around_blank t blank.1.2
        have middle := emitField_grows ht first
        have grown := fillRow_grows middle.2 hrest
        obtain ⟨inRow, lead, filled⟩ := ih middle.2 blank.2 hrest
        obtain ⟨before, after, isField, around⟩ := emitField_names ht bare first
        rw [List.nil_append, List.append_nil] at around
        rw [Parser.InRow, if_neg kept, if_neg kept]
        refine ⟨⟨⟨before, after, isField⟩, inRow⟩, .nil, .cons ⟨⟨?_, ?_⟩, lead⟩ filled⟩
        · exact ⟨before, after, isField, around.mono grown.1⟩
        · intro absent
          rw [emitField_of_isNull absent first]
          exact blank.1.1

/-- The tokens of the row of a transform are those that the items expose, in order. -/
theorem fillRow_names {overflow : Problem} {fields : List FieldUnparser} {items : List Parser}
    {r : TokenRun × List (FieldUnparser × TokenRun)} (ht : t.Faithful g.kinds)
    (blank : ∀ f ∈ fields, f.alwaysAbsent = true ∧ f.pre = [] ∧ f.post = [])
    (run : g.fillRow overflow fields items t = .ok r t') :
    List.Forall₂ t'.Names (r.1 ++ r.2.flatMap fun slot => slot.1.pre ++ slot.1.post ++ slot.2)
      (items.flatMap Parser.exposed) := by
  obtain ⟨-, lead, filled⟩ := fillRow_layout ht blank run
  rw [Parser.flatMap_exposed_eq_layout]
  refine List.rel_append lead (List.rel_flatMap filled ?_)
  rintro slot part ⟨⟨⟨before, after, field, around⟩, -⟩, behind⟩
  simp only [field.exposed_eq]
  exact List.rel_append (List.rel_append around.1 around.2) behind

/-- The fields of the unparser that writes no token. -/
theorem blank_fields {ns : NodeTypes} {node : NodeId} :
    ∀ f ∈ (RegularUnparser.blank ns node).fields,
      f.alwaysAbsent = true ∧ f.pre = [] ∧ f.post = [] := by
  intro f hf
  obtain ⟨_, _, rfl⟩ := List.mem_map.mp hf
  exact ⟨rfl, rfl, rfl⟩

/-! ## Nodes -/

/-- A token stands in the last run, or in one before it. -/
theorem mem_runs_iff {runs : List TokenRun} {i : TokenId} :
    (∃ r ∈ runs.dropLast, i ∈ r) ∨ i ∈ runs.getLast?.getD [] ↔ ∃ r ∈ runs, i ∈ r := by
  obtain rfl | ⟨init, last, rfl⟩ := List.eq_nil_or_concat runs
  · simp
  · simp [or_and_right, exists_or]

/-- The tokens of an unparser made from a row are those of the row. -/
theorem mem_tokens_ofRow {node : NodeId} {lead : TokenRun}
    {filled : List (FieldUnparser × TokenRun)} {i : TokenId}
    (shaped : (RegularUnparser.ofRow node lead filled).WellShaped g.nodes) :
    i ∈ (NodeUnparser.regular (.ofRow node lead filled)).tokens ↔
      i ∈ lead ++ filled.flatMap fun slot => slot.1.pre ++ slot.1.post ++ slot.2 := by
  rw [shaped.mem_tokens]
  simp only [RegularUnparser.ofRow, mem_runs_iff, List.mem_append, List.mem_flatMap, List.mem_map,
    exists_exists_and_eq_and, and_or_left, exists_or]

/-- An unparser that only has tokens in front. -/
theorem mem_tokens_blank (node : NodeId) (pre : TokenRun) {i : TokenId} :
    i ∈ (NodeUnparser.regular { RegularUnparser.blank g.nodes node with pre }).tokens ↔
      i ∈ pre := by
  have blank := RegularUnparser.wellShaped_blank g.nodes node
  have shaped :
      RegularUnparser.WellShaped g.nodes { RegularUnparser.blank g.nodes node with pre } :=
    ⟨blank.fields, blank.node, blank.inter, blank.bare⟩
  rw [shaped.mem_tokens]
  simp [RegularUnparser.blank]

/-- What a derivation writes is in the table that it leaves. -/
theorem isSome_get?_of_deriveNode {node : NodeId} {p : Parser} {u : NodeUnparser}
    (ht : t.Faithful g.kinds) (run : g.deriveNode node p t = .ok u t') {i : TokenId}
    (hi : i ∈ u.tokens) : (t'.get? i).isSome = true := by
  obtain ⟨-, -, shaped, -⟩ := deriveNode_ok run
  obtain ⟨_, _, run', -, same⟩ := (oblivious_deriveNode node p).transfer ht ht run
  cases run.symm.trans run'
  obtain ⟨_, _, x, -, at_i⟩ := same.covers.exists_mem_tokens shaped shaped hi
  rw [at_i, Option.isSome_some]

/-- **What a producer derives writes just what the producer is said to write.** -/
theorem deriveNode_names {node : NodeId} {p : Parser} {u : NodeUnparser} (ht : t.Faithful g.kinds)
    (regular : g.nodes.isTokenNode node = false) (producer : p.isProducer = true)
    (run : g.deriveNode node p t = .ok u t') :
    (∀ i ∈ u.tokens, ∃ x ∈ p.written node, t'.Names i x) ∧
      ∀ x ∈ p.written node, ∃ i ∈ u.tokens, t'.Names i x := by
  have both {r : TokenRun} {ps : List Parser} (h : List.Forall₂ t'.Names r ps) :
      (∀ i ∈ r, ∃ x ∈ ps, t'.Names i x) ∧ ∀ x ∈ ps, ∃ i ∈ r, t'.Names i x :=
    ⟨fun _ => exists_mem_of_forall₂ h, fun _ => exists_mem_of_forall₂ h.flip⟩
  obtain ⟨concrete, -, shaped, -⟩ := deriveNode_ok run
  cases p with
  | transform id type rowId items =>
    obtain ⟨_, r, filled, -, rfl⟩ := fillRow_of_deriveNode concrete regular run
    simp only [mem_tokens_ofRow shaped]
    exact both (fillRow_names ht blank_fields filled)
  | list id type element separator =>
    cases separator with
    | none =>
      rw [deriveNode_list_none concrete regular] at run
      cases run
      exact both .nil
    | some separator =>
      rw [deriveNode_list_some concrete regular] at run
      obtain ⟨_, _, interned, run⟩ := estate_bind_eq_ok.mp run
      cases run
      exact both (.cons (internParser_names interned) .nil)
  | optBool id inner alternatives =>
    rw [deriveNode_optBool concrete regular] at run
    rw [Parser.written]
    split at run
    next present =>
      obtain ⟨_, _, pre, run⟩ := estate_bind_eq_ok.mp run
      cases run
      rw [if_pos present]
      simp only [mem_tokens_blank]
      exact both (emitRun_names pre)
    next absent =>
      cases run
      rw [if_neg absent]
      exact ⟨fun i hi => absurd ((mem_tokens_blank node []).mp hi) List.not_mem_nil, nofun⟩
  | _ => cases producer

end Grammar

end Unparsing
