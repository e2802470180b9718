import Unparsing.Proofs.Derivation.Equations

/-!
# Proofs/Derivation/Problems — the problems that a derivation runs into

A derivation looks at one parser, and at nothing beside it.  So its problem is a construct that no
unparser fits, or a fault: that two producers disagree or that a rule drops something is found out
elsewhere (`Grammar.raises_deriveNode`).
-/

namespace Unparsing

/-- Whether a problem can be found by looking at one parser that builds a node.  That such a parser
does not hold a row is never found. -/
def Problem.isLocal : Problem → Bool
  | internal (.notRow ..) => false
  | unsupportedParser .. | unsupportedTokenNode .. | unsupportedField .. | tokensExpected ..
  | internal .. => true
  | inconsistentTokens .. | inconsistentSeparator .. | topLevelLoss .. => false

namespace Interning

variable {α β : Type} {m : Interning α} {k : α → Interning β}

/-- A computation that fails, if it does, with a problem of one parser. -/
def RaisesLocal (m : Interning α) : Prop :=
  ∀ ⦃t problem t'⦄, m t = .error problem t' → problem.isLocal = true

/-! ## Rules -/

theorem raises_pure (a : α) : RaisesLocal (pure a) := nofun

theorem raises_throw {problem : Problem} (h : problem.isLocal = true) :
    RaisesLocal (throw problem : Interning α) := by
  rintro t _ t' run
  cases run
  exact h

theorem RaisesLocal.bind (h : RaisesLocal m) (rest : ∀ a, RaisesLocal (k a)) :
    RaisesLocal (m >>= k) := by
  intro t problem t' run
  obtain first | ⟨a, _, -, later⟩ := estate_bind_eq_error.mp run
  · exact h first
  · exact rest a later

theorem raises_internParser (g : Grammar) (p : Parser) :
    RaisesLocal (TokenTable.internParser g p) := by
  cases p with
  | token id kind text =>
    intro t problem t' run
    change TokenTable.intern g.kinds (.of kind text) t = .error problem t' at run
    unfold TokenTable.intern at run
    split at run
    · cases run
    · split at run
      · cases run
      next failed =>
        cases run
        unfold TokenKinds.wording at failed
        split at failed <;> cases failed <;> rfl
  | _ => exact raises_throw rfl

end Interning

open Interning

namespace Grammar

variable {g : Grammar}

/-! ## Runs -/

theorem raises_emitRuns {items : List Parser} (ih : ∀ p ∈ items, RaisesLocal (g.emitRun p)) :
    RaisesLocal (g.emitRuns items) := by
  induction items with
  | nil => exact raises_pure _
  | cons p ps ihps =>
    rw [List.forall_mem_cons] at ih
    exact ih.1.bind fun _ => (ihps ih.2).bind fun _ => raises_pure _

theorem raises_emitRun (p : Parser) : RaisesLocal (g.emitRun p) := by
  induction p using Parser.induction with
  | row id items ih => exact raises_emitRuns ih
  | token id kind text => exact (raises_internParser g _).bind fun _ => raises_pure _
  | opt id inner tolerant ih =>
    cases tolerant with
    | true => exact ih
    | false => exact raises_throw rfl
  | noBacktrack id => exact raises_pure _
  | dontSkip id inner ih =>
    rw [emitRun_dontSkip]
    split
    · exact raises_pure _
    · exact ih
  | _ => exact raises_throw rfl

theorem raises_splitPick (p : Parser) : RaisesLocal (g.splitPick p) := by
  have runs (items : List Parser) : RaisesLocal (g.emitRuns items) :=
    raises_emitRuns fun p _ => raises_emitRun p
  cases p with
  | pick id rowId items index =>
    unfold splitPick
    simp only
    split
    · exact raises_throw rfl
    · exact (runs _).bind fun _ => (runs _).bind fun _ => raises_pure _
  | _ => exact raises_throw rfl

/-! ## Fields and nodes -/

theorem raises_checkBranch {branch : Parser} {derive : NodeId → Interning NodeUnparser}
    (h : ∀ node, RaisesLocal (derive node)) : RaisesLocal (g.checkBranch branch derive) := by
  have one (node : NodeId) : RaisesLocal (do let _ ← derive node; pure () : Interning Unit) :=
    (h node).bind fun _ => raises_pure _
  unfold checkBranch
  split
  · exact raises_pure _
  · exact raises_pure _
  · exact (h _).bind fun _ => one _
  · split
    · split
      · exact one _
      · exact raises_throw rfl
    · exact raises_throw rfl
    · exact raises_throw rfl

/-- What a parser tells of a node or of a field has no other problems than that parser's. -/
structure RaisesAt (g : Grammar) (p : Parser) : Prop where
  node (node : NodeId) : RaisesLocal (g.deriveNode node p)
  field (f : FieldUnparser) : RaisesLocal (g.emitField p f)

theorem raises_checkBranches {branches : List Parser} (h : ∀ p ∈ branches, RaisesAt g p.unwrap) :
    RaisesLocal (g.checkBranches branches) := by
  induction branches with
  | nil => exact raises_pure _
  | cons p ps ih =>
    rw [List.forall_mem_cons] at h
    rw [checkBranches_cons]
    exact (raises_checkBranch h.1.node).bind fun _ => ih h.2

theorem raises_fillRow {items : List Parser} (h : ∀ p ∈ items, RaisesAt g p) {overflow : Problem}
    (ofParser : overflow.isLocal = true) (fields : List FieldUnparser) :
    RaisesLocal (g.fillRow overflow fields items) := by
  induction items generalizing fields with
  | nil => exact raises_pure _
  | cons p ps ih =>
    rw [List.forall_mem_cons] at h
    unfold fillRow
    split
    · exact (raises_emitRun p).bind fun _ => (ih h.2 fields).bind fun _ => raises_pure _
    · cases fields with
      | nil => exact raises_throw ofParser
      | cons field fields =>
        exact (h.1.field field).bind fun _ => (ih h.2 fields).bind fun _ => raises_pure _

/-- It is enough to look at the node types that are derived from the combinator. -/
theorem RaisesAt.of_regular {p : Parser}
    (node : ∀ node, g.nodes.isConcrete node = true → g.nodes.isTokenNode node = false →
      RaisesLocal (g.deriveNode node p))
    (field : ∀ f, RaisesLocal (g.emitField p f)) : RaisesAt g p where
  node n := by
    by_cases concrete : g.nodes.isConcrete n = true
    · by_cases token : g.nodes.isTokenNode n = true
      · unfold deriveNode
        simp only [concrete, token, Bool.not_true, Bool.false_eq_true, if_false, if_true]
        split
        · exact raises_pure _
        · exact raises_throw rfl
      · exact node n concrete (Bool.not_eq_true _ |>.mp token)
    · unfold deriveNode
      simp only [concrete, Bool.not_false, if_true]
      exact raises_throw rfl
  field := field

/-- No unparser of a node is made of the parser. -/
theorem RaisesAt.of_unparsable {p : Parser} (unparsable : p.isUnparsable = true)
    (field : ∀ f, RaisesLocal (g.emitField p f)) : RaisesAt g p := by
  refine .of_regular (fun node concrete regular => ?_) field
  rw [deriveNode_unparsable concrete regular unparsable]
  exact raises_throw rfl

theorem raisesAt_transform {items : List Parser} (h : ∀ p ∈ items, RaisesAt g p) (id : ParserId)
    (type : NodeId) (rowId : ParserId) : RaisesAt g (.transform id type rowId items) := by
  refine .of_regular (fun node concrete regular => ?_) fun _ => raises_pure _
  rw [deriveNode_transform concrete regular]
  refine (raises_fillRow h rfl _).bind fun filled => ?_
  split
  · exact (raises_throw (α := PUnit) rfl).bind fun _ => raises_pure _
  · exact raises_pure _

theorem raisesAt_list (id : ParserId) (type : NodeId) (element : Parser)
    (separator : Option Parser) : RaisesAt g (.list id type element separator) := by
  refine .of_regular (fun node concrete regular => ?_) fun _ => raises_pure _
  cases separator with
  | none =>
    rw [deriveNode_list_none concrete regular]
    exact raises_pure _
  | some separator =>
    rw [deriveNode_list_some concrete regular]
    exact (raises_internParser g separator).bind fun _ => raises_pure _

theorem raisesAt_optBool (id : ParserId) (inner : Parser) (alternatives : BoolAlternatives) :
    RaisesAt g (.optBool id inner alternatives) := by
  refine .of_regular (fun node concrete regular => ?_) fun _ => raises_pure _
  rw [deriveNode_optBool concrete regular]
  split
  · exact (raises_emitRun inner).bind fun _ => raises_pure _
  · exact raises_pure _

theorem raisesAt_pick {items : List Parser} (h : ∀ p ∈ items, RaisesAt g p) (id : ParserId)
    (rowId : ParserId) (index : Nat) : RaisesAt g (.pick id rowId items index) := by
  refine .of_unparsable rfl fun f => ?_
  refine (raises_splitPick (.pick id rowId items index)).bind fun ⟨pre, _, post⟩ => ?_
  simp only [emitPicked_eq]
  cases picked : items[index]? with
  | none => exact raises_pure _
  | some p => exact (h p (List.mem_of_getElem? picked)).field _

theorem raisesAt_opt {inner : Parser} (h : RaisesAt g inner) (id : ParserId) (tolerant : Bool) :
    RaisesAt g (.opt id inner tolerant) := by
  refine .of_regular (fun node concrete regular => ?_) fun f => h.field _
  rw [deriveNode_opt concrete regular]
  exact h.node node

theorem raisesAt_choice {branches : List Parser} (h : ∀ p ∈ branches, RaisesAt g p.unwrap)
    (id : ParserId) : RaisesAt g (.choice id branches) :=
  .of_unparsable rfl fun _ => (raises_checkBranches h).bind fun _ => raises_pure _

theorem raisesAt_null (id : ParserId) (type : NodeId) : RaisesAt g (.null id type) := by
  refine .of_regular (fun node concrete regular => ?_) fun _ => raises_pure _
  rw [deriveNode_null concrete regular]
  exact raises_pure _

theorem raisesAt_dontSkip {inner : Parser} (h : RaisesAt g inner) (id : ParserId) :
    RaisesAt g (.dontSkip id inner) := by
  refine .of_regular (fun node concrete regular => ?_) fun f => ?_
  · rw [deriveNode_dontSkip concrete regular]
    split
    · exact raises_throw rfl
    · exact h.node node
  · rw [emitField_dontSkip]
    split
    · exact raises_throw rfl
    · exact h.field f

/-- Branches of a choice are looked at without their wrapper, so the induction carries both
along. -/
theorem raisesAt_and_unwrap (p : Parser) : RaisesAt g p ∧ RaisesAt g p.unwrap := by
  have plain {p : Parser} (h : RaisesAt g p) (bare : p.unwrap = p) :
      RaisesAt g p ∧ RaisesAt g p.unwrap := ⟨h, bare.symm ▸ h⟩
  induction p using Parser.induction with
  | transform id type rowId items ih =>
    exact plain (raisesAt_transform (fun p hp => (ih p hp).1) id type rowId) rfl
  | pick id rowId items index ih =>
    exact plain (raisesAt_pick (fun p hp => (ih p hp).1) id rowId index) rfl
  | list id type element separator => exact plain (raisesAt_list id type element separator) rfl
  | opt id inner tolerant ih => exact plain (raisesAt_opt ih.1 id tolerant) rfl
  | optBool id inner alternatives => exact plain (raisesAt_optBool id inner alternatives) rfl
  | choice id branches ih => exact plain (raisesAt_choice (fun p hp => (ih p hp).2) id) rfl
  | null id type => exact plain (raisesAt_null id type) rfl
  | dontSkip id inner ih => exact ⟨raisesAt_dontSkip ih.1 id, ih.1⟩
  | defer id rule => exact plain (.of_unparsable rfl fun _ => raises_pure _) rfl
  | row | token | predicate | skip | noBacktrack =>
    refine plain (.of_unparsable rfl fun f => ?_) rfl
    unfold emitField
    exact raises_throw rfl

/-- **A derivation fails with a problem of the parser** that it looks at. -/
theorem raises_deriveNode (node : NodeId) (p : Parser) : RaisesLocal (g.deriveNode node p) :=
  (raisesAt_and_unwrap p).1.node node

end Grammar

end Unparsing
