import Unparsing.Proofs.Derivation.Row
import Unparsing.Proofs.Extraction
import Unparsing.Proofs.Grammar.Reflexivity

/-!
# Proofs/Derivation/Filling — what a derivation reads of a field

The parser of a field is read down to what fills the field: through optionals, wrappers and picks,
up to the first combinator that builds a node, refers to a rule, or chooses.  What picks drop on the
way has to be a run.  Of a choice the branches are read in turn; the inside of a combinator that
builds a node is not read at all.

* `Parser.filling?`, `Parser.setAside` — what fills a field, and what is dropped on the way to it.
* `Grammar.emitField_filling` — how a field is derived, in these terms.
* `Grammar.agreesWithSelf_filling_iff` — the parser of a field agrees with itself if what fills the
  field and what is dropped do.
* `Grammar.createsNode_of_checkBranches` — which branches of a choice create nodes, once a
  derivation has accepted them.
-/

namespace Unparsing

namespace Parser

/-! ## What fills a field -/

mutual

/-- What fills a field: what is left of its parser without optionals, wrappers and picks. -/
def filling? : Parser → Option Parser
  | opt _ inner _ | dontSkip _ inner => inner.filling?
  | pick _ _ items index => fillingIn? items index
  | p => if p.isBareField then some p else none

/-- Companion of `filling?` on the items of a row: that of the item at an index. -/
def fillingIn? : List Parser → Nat → Option Parser
  | [], _ => none
  | p :: _, 0 => p.filling?
  | _ :: ps, index + 1 => fillingIn? ps index

end

theorem fillingIn?_eq (items : List Parser) (index : Nat) :
    fillingIn? items index = (items[index]?).bind filling? := by
  induction items generalizing index with
  | nil => rfl
  | cons p ps ih =>
    cases index with
    | zero => rfl
    | succ index => exact ih index

/-- What a pick drops. -/
def dropped : Parser → List Parser
  | pick _ _ items index => items.eraseIdx index
  | _ => []

/-- What is dropped on the way to what fills a field. -/
def setAside (p : Parser) : List Parser := p.picks.flatMap dropped

theorem setAside_pick {id rowId : ParserId} {items : List Parser} {index : Nat} {item : Parser}
    (found : items[index]? = some item) :
    (pick id rowId items index).setAside = items.eraseIdx index ++ item.setAside := by
  rw [setAside, picks, picksIn_eq, found, List.flatMap_cons]
  rfl

variable {p e : Parser}

theorem filling?_of_discards (discards : p.discards = true) : p.filling? = none := by
  induction p using Parser.induction with
  | opt id inner tolerant ih => exact ih discards
  | dontSkip id inner ih => exact ih discards
  | row | token | noBacktrack => rfl
  | _ => cases discards

/-- What fills a field is inside its parser. -/
theorem mem_preorder_of_filling (filled : p.filling? = some e) : e ∈ p.preorder := by
  induction p using Parser.induction with
  | opt id inner tolerant ih => exact List.mem_cons_of_mem _ (ih filled)
  | dontSkip id inner ih => exact List.mem_cons_of_mem _ (ih filled)
  | pick id rowId items index ih =>
    rw [filling?, fillingIn?_eq, Option.bind_eq_some_iff] at filled
    obtain ⟨item, found, filled⟩ := filled
    have hitem := List.mem_of_getElem? found
    rw [preorder, preorderAll_eq_flatMap]
    refine List.mem_cons_of_mem _ (List.mem_cons_of_mem _ ?_)
    exact List.mem_flatMap_of_mem hitem (ih item hitem filled)
  | transform | list | optBool | defer | null | choice =>
    cases filled
    rw [preorder_eq]
    exact List.mem_cons_self
  | row | token | predicate | skip | noBacktrack => cases filled

/-- Whether the parser builds an absent node, or none. -/
def isAbsent : Parser → Bool
  | null .. => true
  | opt _ inner _ | dontSkip _ inner => inner.isAbsent
  | row .. | transform .. | pick .. | list .. | optBool .. | choice .. | defer .. | token ..
  | predicate .. | skip .. | noBacktrack .. => false

end Parser

namespace Grammar

variable {g : Grammar} {t t' : TokenTable} {p e : Parser}

/-! ## Fields -/

/-- **How a field is derived**: there is something that fills it, which is a choice only if its
branches are accepted, and all that is dropped on the way is a run. -/
theorem emitField_filling {f f' : FieldUnparser} (run : g.emitField p f t = .ok f' t') :
    (∀ d ∈ p.setAside, d.IsRun) ∧ ∃ e, p.filling? = some e ∧ e.isBareField = true ∧
      ∀ id branches, e = .choice id branches → ∃ s s', g.checkBranches branches s = .ok () s' := by
  induction p using Parser.induction generalizing t f with
  | transform | list | optBool | defer | null => exact ⟨nofun, _, rfl, rfl, nofun⟩
  | choice id branches =>
    obtain ⟨_, _, checked, -⟩ := estate_bind_eq_ok.mp run
    refine ⟨nofun, _, rfl, rfl, fun _ _ same => ?_⟩
    cases same
    exact ⟨_, _, checked⟩
  | opt id inner tolerant ih => exact ih (f := { f with alwaysAbsent := false }) run
  | pick id rowId items index ih =>
    obtain ⟨⟨pre, item, post⟩, _, picked, run⟩ := estate_bind_eq_ok.mp run
    obtain ⟨found, ahead, behind, -⟩ := splitPick_names picked
    simp only [emitPicked_eq, found, Option.elim_some] at run
    obtain ⟨runs, filling⟩ := ih item (List.mem_of_getElem? found) run
    rw [Parser.setAside_pick found, List.forall_mem_append, Parser.forall_mem_dropped,
      Parser.filling?, Parser.fillingIn?_eq, found]
    exact ⟨⟨⟨ahead, behind⟩, runs⟩, filling⟩
  | dontSkip id inner ih =>
    rw [emitField_dontSkip] at run
    split at run
    · cases run
    · exact ih run
  | row | token | predicate | skip | noBacktrack => cases run

/-- A transform of which an unparser is derived throws its items away, or has them fill fields. -/
theorem exists_emitField_of_deriveNode {node type : NodeId} {id rowId : ParserId}
    {items : List Parser} {u : NodeUnparser}
    (run : g.deriveNode node (.transform id type rowId items) t = .ok u t') :
    ∀ q ∈ items, q.discards = true ∨ ∃ f f', g.emitField q f t' = .ok f' t' := by
  intro q hq
  obtain ⟨concrete, ⟨-, wraps, -⟩ | regular⟩ := deriveNode_cases run
  · -- a token node is a transform of one token and of markers
    refine .inl ?_
    cases marker : q.isNoBacktrack with
    | true => cases q <;> first | rfl | cases marker
    | false =>
      have kept : q ∈ items.filter (!·.isNoBacktrack) :=
        List.mem_filter.mpr ⟨hq, by rw [marker]; rfl⟩
      simp only [Parser.unwrap, Parser.wrapsOneToken] at wraps
      split at wraps
      next p lone =>
        rw [lone, List.mem_singleton] at kept
        subst kept
        cases q <;> first | rfl | cases wraps
      next => cases wraps
  · cases discards : q.discards with
    | true => exact .inl rfl
    | false =>
      obtain ⟨_, r, filled, width, -⟩ := fillRow_of_deriveNode concrete regular run
      have fields := (fillRow_filled filled (.refl t')).filledBy width
      obtain ⟨f, -, told⟩ := exists_mem_of_forall₂ fields.flip
        (List.mem_filter.mpr ⟨hq, by rw [discards]; rfl⟩)
      exact .inr ⟨_, f, told.told⟩

/-! ## The comparison with itself -/

/-- A run agrees with itself, unless it hides something that does not. -/
theorem agreesWithSelf_of_isRun (h : p.IsRun)
    (hidden : ∀ q ∈ p.hidden, g.agreesWithSelf q = true) : g.agreesWithSelf p = true := by
  induction h with
  | token => exact agreesWithSelf_token
  | noBacktrack => exact agreesWithSelf_noBacktrack
  | @row id items _ ih =>
    rw [Parser.hidden_row] at hidden
    exact agreesWithSelf_row.mpr fun p hp =>
      ih p hp fun q hq => hidden q (List.mem_flatMap_of_mem hp hq)
  | opt _ ih =>
    rw [Parser.hidden_opt] at hidden
    rw [agreesWithSelf_opt]
    exact ih hidden
  | @dontSkip id inner _ ih =>
    rw [agreesWithSelf_dontSkip]
    cases wrapped : inner.isDontSkip with
    | false => exact ih wrapped (Parser.hidden_dontSkip_of_single wrapped ▸ hidden)
    | true =>
      cases inner with
      | dontSkip id' q =>
        rw [agreesWithSelf_dontSkip]
        exact hidden q (by simp [Parser.hidden_dontSkip, Parser.rewrapped?])
      | _ => cases wrapped

/-- **The parser of a field** agrees with itself if what fills the field does, and what is dropped
on the way to it. -/
theorem agreesWithSelf_filling_iff (filled : p.filling? = some e)
    (aside : ∀ d ∈ p.setAside, g.agreesWithSelf d = true) :
    g.agreesWithSelf p = true ↔ g.agreesWithSelf e = true := by
  induction p using Parser.induction with
  | transform | list | optBool | defer | null | choice =>
    cases filled
    exact Iff.rfl
  | opt id inner tolerant ih =>
    rw [agreesWithSelf_opt]
    exact ih filled aside
  | dontSkip id inner ih =>
    rw [agreesWithSelf_dontSkip]
    exact ih filled aside
  | pick id rowId items index ih =>
    rw [Parser.filling?, Parser.fillingIn?_eq, Option.bind_eq_some_iff] at filled
    obtain ⟨item, found, filled⟩ := filled
    obtain ⟨inside, rfl⟩ := List.getElem?_eq_some_iff.mp found
    rw [Parser.setAside_pick found, List.forall_mem_append] at aside
    rw [agreesWithSelf_pick, ← ih _ (List.getElem_mem inside) filled aside.2]
    have split := (List.getElem_cons_eraseIdx_perm inside).symm
    simp only [split.mem_iff, List.forall_mem_cons]
    exact and_iff_left aside.1
  | row | token | predicate | skip | noBacktrack => cases filled

/-! ## Branches -/

/-- A branch of a choice builds a node: not an absent one, and if it is a reference, one of a type
that is known. -/
def BuildsNode (g : Grammar) (b : Parser) : Prop :=
  b.isAbsent = false ∧ (b.unwrap.kind = .defer → (g.yield b).node?.isSome = true)

theorem createsNode_of_deriveNode {node : NodeId} {u : NodeUnparser}
    (run : g.deriveNode node p t = .ok u t') : g.createsNode p = !p.isAbsent := by
  obtain ⟨concrete, ⟨-, wraps, -⟩ | regular⟩ := deriveNode_cases run
  · cases p with
    | transform => rfl
    | dontSkip id inner =>
      cases inner with
      | transform => rfl
      | _ => cases wraps
    | _ => cases wraps
  induction p using Parser.induction generalizing t u t' with
  | transform | list | optBool | null => rfl
  | opt id inner tolerant ih =>
    rw [deriveNode_opt concrete regular] at run
    exact ih run
  | dontSkip id inner ih =>
    rw [deriveNode_dontSkip concrete regular] at run
    split at run
    · cases run
    · exact ih run
  | _ =>
    rw [deriveNode_unparsable concrete regular rfl] at run
    cases run

/-- **A branch that is accepted** creates a node just if it builds one. -/
theorem createsNode_of_checkBranch
    (run : g.checkBranch p.unwrap (fun node => g.deriveNode node p.unwrap) t = .ok () t') :
    g.createsNode p = true ↔ g.BuildsNode p := by
  have looked : g.createsNode p = g.createsNode p.unwrap ∧ p.isAbsent = p.unwrap.isAbsent ∧
      g.yield p = g.yield p.unwrap := by
    cases p <;> exact ⟨rfl, rfl, rfl⟩
  rw [BuildsNode, looked.1, looked.2.1, looked.2.2]
  generalize p.unwrap = b at run
  by_cases defer : b.kind = .defer
  · cases b with
    | defer id rule => exact ⟨fun creates => ⟨rfl, fun _ => creates⟩, fun h => h.2 rfl⟩
    | _ => cases defer
  · obtain ⟨_, _, rfl⟩ | ⟨_, _, rfl⟩ | ⟨_, _, _, _, derived⟩ := checkBranch_cases run
    · exact absurd rfl defer
    · exact iff_of_true rfl ⟨rfl, nofun⟩
    · rw [createsNode_of_deriveNode derived, Bool.not_eq_true']
      exact (and_iff_left fun h => absurd h defer).symm

/-- **A choice whose branches are accepted** creates a node just if each branch builds one. -/
theorem createsNode_of_checkBranches {branches : List Parser}
    (run : g.checkBranches branches t = .ok () t') (id : ParserId) :
    g.createsNode (.choice id branches) = true ↔ ∀ b ∈ branches, g.BuildsNode b := by
  rw [createsNode, Parser.createsNodeWith, Parser.allCreateNodes_eq_all, List.all_eq_true]
  induction branches generalizing t with
  | nil => simp
  | cons b branches ih =>
    rw [checkBranches_cons] at run
    obtain ⟨_, _, first, rest⟩ := estate_bind_eq_ok.mp run
    rw [List.forall_mem_cons, List.forall_mem_cons, ih rest, ← createsNode_of_checkBranch first]
    rfl

end Grammar

end Unparsing
