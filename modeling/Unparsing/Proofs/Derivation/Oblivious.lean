import Unparsing.Proofs.Derivation.Equations
import Unparsing.Proofs.Token.Parallel
import Unparsing.Proofs.Unparser.Cover

/-!
# Proofs/Derivation/Oblivious — deriving an unparser does not depend on the tokens met before

A derivation reads the grammar and adds tokens to the table, but never looks at what the table
holds.  So the unparsers derived from one parser over two tables are the same but for the numbers
of their tokens (`Grammar.oblivious_deriveNode`).
-/

namespace Unparsing

open TokenTable Interning

namespace Grammar

/-! ## Runs -/

/-- Two runs, of two tables, of the same tokens. -/
abbrev SameRun (t₁ t₂ : TokenTable) : TokenRun → TokenRun → Prop := List.Forall₂ (SameToken t₁ t₂)

variable {g : Grammar} {t₁ t₂ : TokenTable}

theorem parallel_internParser (h₁ : t₁.Faithful g.kinds) (h₂ : t₂.Faithful g.kinds) (p : Parser) :
    Parallel g.kinds SameToken t₁ t₂ (internParser g p) (internParser g p) := by
  cases p with
  | token id kind text => exact parallel_intern h₁ h₂ _
  | _ => exact parallel_throw h₁ h₂ _

theorem oblivious_emitRuns {items : List Parser}
    (ih : ∀ p ∈ items, Oblivious g.kinds SameRun (g.emitRun p)) :
    Oblivious g.kinds SameRun (g.emitRuns items) := by
  intro t₁ t₂ h₁ h₂
  induction items generalizing t₁ t₂ with
  | nil => exact parallel_pure h₁ h₂ .nil
  | cons p ps ihps =>
    rw [List.forall_mem_cons] at ih
    refine (ih.1 h₁ h₂).bind fun run run' _ _ grown same => ?_
    refine (ihps ih.2 grown.faithful_left grown.faithful_right).bind
      fun rest rest' _ _ grown' same' => ?_
    refine parallel_pure grown'.faithful_left grown'.faithful_right (List.rel_append ?_ same')
    exact same.imp fun _ _ => .mono grown'.left grown'.right

/-- **The run of a parser does not depend on the table.** -/
theorem oblivious_emitRun (p : Parser) : Oblivious g.kinds SameRun (g.emitRun p) := by
  intro t₁ t₂ h₁ h₂
  induction p using Parser.induction generalizing t₁ t₂ with
  | row id items ih => exact oblivious_emitRuns ih h₁ h₂
  | token id kind text =>
    refine (parallel_internParser h₁ h₂ (.token id kind text)).bind fun _ _ _ _ grown same => ?_
    exact parallel_pure grown.faithful_left grown.faithful_right (.cons same .nil)
  | opt id inner tolerant ih =>
    cases tolerant with
    | true => exact ih h₁ h₂
    | false => exact parallel_throw h₁ h₂ _
  | noBacktrack id => exact parallel_pure h₁ h₂ .nil
  | dontSkip id inner ih =>
    rw [emitRun_dontSkip]
    split
    · exact parallel_pure h₁ h₂ .nil
    · exact ih h₁ h₂
  | _ => exact parallel_throw h₁ h₂ _

theorem oblivious_splitPick (p : Parser) :
    Oblivious g.kinds (fun t₁ t₂ a b => SameRun t₁ t₂ a.1 b.1 ∧ a.2.1 = b.2.1 ∧
      SameRun t₁ t₂ a.2.2 b.2.2) (g.splitPick p) := by
  intro t₁ t₂ h₁ h₂
  cases p with
  | pick id rowId items index =>
    unfold splitPick
    simp only
    split
    · exact parallel_throw h₁ h₂ _
    · refine (oblivious_emitRuns (fun p _ => oblivious_emitRun p) h₁ h₂).bind
        fun pre pre' _ _ grown same => ?_
      refine (oblivious_emitRuns (fun p _ => oblivious_emitRun p) grown.faithful_left
        grown.faithful_right).bind fun post post' _ _ grown' same' => ?_
      refine parallel_pure grown'.faithful_left grown'.faithful_right ⟨?_, rfl, same'⟩
      exact same.imp fun _ _ => .mono grown'.left grown'.right
  | _ => exact parallel_throw h₁ h₂ _

/-! ## Fields and nodes -/

/-- Two unparsers of a field, over two tables, of the same tokens. -/
abbrev SameField (t₁ t₂ : TokenTable) : FieldUnparser → FieldUnparser → Prop :=
  FieldUnparser.Alike (SameToken t₁ t₂)

/-- Two unparsers, over two tables, of the same tokens. -/
abbrev SameUnparser (t₁ t₂ : TokenTable) : NodeUnparser → NodeUnparser → Prop :=
  NodeUnparser.Alike (SameToken t₁ t₂)

/-- Two fields, each with the run after it, of the same tokens. -/
def SameSlot (t₁ t₂ : TokenTable) (a b : FieldUnparser × TokenRun) : Prop :=
  SameField t₁ t₂ a.1 b.1 ∧ SameRun t₁ t₂ a.2 b.2

/-- What a parser tells of a node or of a field does not depend on the table. -/
structure ObliviousAt (g : Grammar) (p : Parser) : Prop where
  node (node : NodeId) : Oblivious g.kinds SameUnparser (g.deriveNode node p)
  field ⦃t₁ t₂ : TokenTable⦄ : t₁.Faithful g.kinds → t₂.Faithful g.kinds →
    ∀ f₁ f₂, SameField t₁ t₂ f₁ f₂ →
      Parallel g.kinds SameField t₁ t₂ (g.emitField p f₁) (g.emitField p f₂)

theorem oblivious_checkBranch {branch : Parser} {derive : NodeId → Interning NodeUnparser}
    (h : ∀ node, Oblivious g.kinds SameUnparser (derive node)) :
    Oblivious g.kinds (fun _ _ _ _ => True) (g.checkBranch branch derive) := by
  intro t₁ t₂ h₁ h₂
  have one (node : NodeId) {t₁ t₂ : TokenTable} (h₁ : t₁.Faithful g.kinds)
      (h₂ : t₂.Faithful g.kinds) : Parallel g.kinds (fun _ _ _ _ => True) t₁ t₂
        (do let _ ← derive node; pure ()) (do let _ ← derive node; pure ()) :=
    (h node h₁ h₂).bind fun _ _ _ _ grown _ =>
      parallel_pure grown.faithful_left grown.faithful_right trivial
  unfold checkBranch
  split
  · exact parallel_pure h₁ h₂ trivial
  · exact parallel_pure h₁ h₂ trivial
  · exact (h _ h₁ h₂).bind fun _ _ _ _ grown _ => one _ grown.faithful_left grown.faithful_right
  · split
    · split
      · exact one _ h₁ h₂
      · exact parallel_throw h₁ h₂ _
    · exact parallel_throw h₁ h₂ _
    · exact parallel_throw h₁ h₂ _

theorem oblivious_checkBranches {branches : List Parser}
    (h : ∀ p ∈ branches, ObliviousAt g p.unwrap) :
    Oblivious g.kinds (fun _ _ _ _ => True) (g.checkBranches branches) := by
  intro t₁ t₂ h₁ h₂
  induction branches generalizing t₁ t₂ with
  | nil => exact parallel_pure h₁ h₂ trivial
  | cons p ps ih =>
    rw [List.forall_mem_cons] at h
    rw [checkBranches_cons]
    exact (oblivious_checkBranch h.1.node h₁ h₂).bind fun _ _ _ _ grown _ =>
      ih h.2 grown.faithful_left grown.faithful_right

theorem parallel_emitPicked {items : List Parser} (h : ∀ p ∈ items, ObliviousAt g p)
    (h₁ : t₁.Faithful g.kinds) (h₂ : t₂.Faithful g.kinds) (index : Nat) {f₁ f₂ : FieldUnparser}
    (same : SameField t₁ t₂ f₁ f₂) :
    Parallel g.kinds SameField t₁ t₂ (g.emitPicked items index f₁)
      (g.emitPicked items index f₂) := by
  induction items generalizing index with
  | nil => exact parallel_pure h₁ h₂ same
  | cons p ps ih =>
    rw [List.forall_mem_cons] at h
    cases index with
    | zero => exact h.1.field h₁ h₂ f₁ f₂ same
    | succ index => exact ih h.2 index

theorem parallel_fillRow {items : List Parser} (h : ∀ p ∈ items, ObliviousAt g p)
    (overflow : Problem) (h₁ : t₁.Faithful g.kinds) (h₂ : t₂.Faithful g.kinds)
    {fs₁ fs₂ : List FieldUnparser} (same : List.Forall₂ (SameField t₁ t₂) fs₁ fs₂) :
    Parallel g.kinds (fun t₁ t₂ a b => SameRun t₁ t₂ a.1 b.1 ∧
        List.Forall₂ (SameSlot t₁ t₂) a.2 b.2) t₁ t₂
      (g.fillRow overflow fs₁ items) (g.fillRow overflow fs₂ items) := by
  induction items generalizing t₁ t₂ fs₁ fs₂ with
  | nil => exact parallel_pure h₁ h₂ ⟨.nil, .nil⟩
  | cons p ps ih =>
    rw [List.forall_mem_cons] at h
    unfold fillRow
    split
    · refine (oblivious_emitRun p h₁ h₂).bind fun run run' _ _ grown hrun => ?_
      refine (ih h.2 grown.faithful_left grown.faithful_right
        (same.imp fun _ _ => .mono fun _ _ => .mono grown.left grown.right)).bind
        fun rest rest' _ _ grown' hrest => ?_
      refine parallel_pure grown'.faithful_left grown'.faithful_right ⟨?_, hrest.2⟩
      exact List.rel_append (hrun.imp fun _ _ => .mono grown'.left grown'.right) hrest.1
    · cases same with
      | nil => exact parallel_throw h₁ h₂ _
      | cons field fields =>
        refine (h.1.field h₁ h₂ _ _ field).bind fun f f' _ _ grown hf => ?_
        refine (ih h.2 grown.faithful_left grown.faithful_right
          (fields.imp fun _ _ => .mono fun _ _ => .mono grown.left grown.right)).bind
          fun rest rest' _ _ grown' hrest => ?_
        refine parallel_pure grown'.faithful_left grown'.faithful_right
          ⟨.nil, .cons ⟨?_, hrest.1⟩ hrest.2⟩
        exact hf.mono fun _ _ => .mono grown'.left grown'.right

/-! ## Every parser -/

/-- It is enough to look at the node types that are derived from the combinator: the answer for the
others is read off the grammar. -/
theorem ObliviousAt.of_regular {p : Parser}
    (node : ∀ node, g.nodes.isConcrete node = true → g.nodes.isTokenNode node = false →
      Oblivious g.kinds SameUnparser (g.deriveNode node p))
    (field : ∀ ⦃t₁ t₂ : TokenTable⦄, t₁.Faithful g.kinds → t₂.Faithful g.kinds →
      ∀ f₁ f₂, SameField t₁ t₂ f₁ f₂ →
        Parallel g.kinds SameField t₁ t₂ (g.emitField p f₁) (g.emitField p f₂)) :
    ObliviousAt g p where
  node n t₁ t₂ h₁ h₂ := by
    by_cases concrete : g.nodes.isConcrete n = true
    · by_cases token : g.nodes.isTokenNode n = true
      · unfold deriveNode
        simp only [concrete, token, Bool.not_true, Bool.false_eq_true, if_false, if_true]
        split
        · exact parallel_pure h₁ h₂ (.tokenNode n)
        · exact parallel_throw h₁ h₂ _
      · exact node n concrete (Bool.not_eq_true _ |>.mp token) h₁ h₂
    · unfold deriveNode
      simp only [concrete, Bool.not_false, if_true]
      exact parallel_throw h₁ h₂ _
  field := field

theorem sameField_shown {f₁ f₂ : FieldUnparser} (h : SameField t₁ t₂ f₁ f₂) :
    SameField t₁ t₂ { f₁ with alwaysAbsent := false } { f₂ with alwaysAbsent := false } :=
  ⟨h.node, h.field, rfl, h.pre, h.post⟩

theorem sameField_blank (node : NodeId) :
    List.Forall₂ (SameField t₁ t₂) (RegularUnparser.blank g.nodes node).fields
      (RegularUnparser.blank g.nodes node).fields :=
  List.forall₂_same.mpr fun f hf => by
    obtain ⟨name, _, rfl⟩ := List.mem_map.mp hf
    exact ⟨rfl, rfl, rfl, .nil, .nil⟩

theorem sameRun_blank (node : NodeId) :
    List.Forall₂ (SameRun t₁ t₂) (RegularUnparser.blank g.nodes node).inter
      (RegularUnparser.blank g.nodes node).inter :=
  List.forall₂_same.mpr fun r hr => by
    rw [List.eq_of_mem_replicate hr]
    exact .nil

theorem alike_ofRow (node : NodeId) {a b : TokenRun × List (FieldUnparser × TokenRun)}
    (lead : SameRun t₁ t₂ a.1 b.1) (filled : List.Forall₂ (SameSlot t₁ t₂) a.2 b.2) :
    (RegularUnparser.ofRow node a.1 a.2).Alike (SameToken t₁ t₂) (.ofRow node b.1 b.2) := by
  have runs : List.Forall₂ (SameRun t₁ t₂) (a.2.map (·.2)) (b.2.map (·.2)) := by
    rw [List.forall₂_map_left_iff, List.forall₂_map_right_iff]
    exact filled.imp fun _ _ h => h.2
  refine ⟨rfl, lead, ?_, forall₂_dropLast runs, forall₂_getLast?_getD runs .nil⟩
  simp only [RegularUnparser.ofRow, List.forall₂_map_left_iff, List.forall₂_map_right_iff]
  exact filled.imp fun _ _ h => h.1

theorem obliviousAt_transform {items : List Parser} (h : ∀ p ∈ items, ObliviousAt g p)
    (id : ParserId) (type : NodeId) (rowId : ParserId) :
    ObliviousAt g (.transform id type rowId items) := by
  refine .of_regular (fun node concrete regular t₁ t₂ h₁ h₂ => ?_)
    fun t₁ t₂ h₁ h₂ f₁ f₂ same => parallel_pure h₁ h₂ (sameField_shown same)
  rw [deriveNode_transform concrete regular]
  refine (parallel_fillRow h _ h₁ h₂ (sameField_blank node)).bind fun a b _ _ grown same => ?_
  have width : a.2.length = b.2.length := same.2.length_eq
  simp only [width]
  split
  · exact (parallel_throw (R := fun _ _ _ _ => False) grown.faithful_left grown.faithful_right
      _).bind fun _ _ _ _ _ => False.elim
  · exact parallel_pure grown.faithful_left grown.faithful_right
      (.regular (alike_ofRow node same.1 same.2))

theorem obliviousAt_list (id : ParserId) (type : NodeId) (element : Parser)
    (separator : Option Parser) : ObliviousAt g (.list id type element separator) := by
  refine .of_regular (fun node concrete regular t₁ t₂ h₁ h₂ => ?_)
    fun t₁ t₂ h₁ h₂ f₁ f₂ same => parallel_pure h₁ h₂ (sameField_shown same)
  cases separator with
  | none =>
    rw [deriveNode_list_none concrete regular]
    exact parallel_pure h₁ h₂ (.list .none)
  | some separator =>
    rw [deriveNode_list_some concrete regular]
    exact (parallel_internParser h₁ h₂ separator).bind fun _ _ _ _ grown same =>
      parallel_pure grown.faithful_left grown.faithful_right (.list (.some same))

theorem obliviousAt_optBool (id : ParserId) (inner : Parser) (alternatives : BoolAlternatives) :
    ObliviousAt g (.optBool id inner alternatives) := by
  refine .of_regular (fun node concrete regular t₁ t₂ h₁ h₂ => ?_)
    fun t₁ t₂ h₁ h₂ f₁ f₂ same => parallel_pure h₁ h₂ (sameField_shown same)
  rw [deriveNode_optBool concrete regular]
  split
  · refine (oblivious_emitRun inner h₁ h₂).bind fun pre pre' _ _ grown same => ?_
    exact parallel_pure grown.faithful_left grown.faithful_right
      (.regular ⟨rfl, same, sameField_blank node, sameRun_blank node, .nil⟩)
  · exact parallel_pure h₁ h₂ (.regular ⟨rfl, .nil, sameField_blank node, sameRun_blank node, .nil⟩)

theorem obliviousAt_pick {items : List Parser} (h : ∀ p ∈ items, ObliviousAt g p) (id : ParserId)
    (rowId : ParserId) (index : Nat) : ObliviousAt g (.pick id rowId items index) := by
  refine .of_regular (fun node concrete regular t₁ t₂ h₁ h₂ => ?_)
    fun t₁ t₂ h₁ h₂ f₁ f₂ same => ?_
  · rw [deriveNode_unparsable concrete regular rfl]
    exact parallel_throw h₁ h₂ _
  · refine (oblivious_splitPick (.pick id rowId items index) h₁ h₂).bind
      fun a b t₁' t₂' grown pick => ?_
    obtain ⟨pre, _, post⟩ := pick
    have same : SameField t₁' t₂' f₁ f₂ := same.mono fun _ _ => .mono grown.left grown.right
    exact parallel_emitPicked h grown.faithful_left grown.faithful_right index
      ⟨same.node, same.field, rfl, List.rel_append same.pre pre, List.rel_append post same.post⟩

theorem obliviousAt_opt {inner : Parser} (h : ObliviousAt g inner) (id : ParserId)
    (tolerant : Bool) : ObliviousAt g (.opt id inner tolerant) := by
  refine .of_regular (fun node concrete regular t₁ t₂ h₁ h₂ => ?_)
    fun t₁ t₂ h₁ h₂ f₁ f₂ same => h.field h₁ h₂ _ _ (sameField_shown same)
  rw [deriveNode_opt concrete regular]
  exact h.node node h₁ h₂

theorem obliviousAt_dontSkip {inner : Parser} (h : ObliviousAt g inner) (id : ParserId) :
    ObliviousAt g (.dontSkip id inner) := by
  refine .of_regular (fun node concrete regular t₁ t₂ h₁ h₂ => ?_)
    fun t₁ t₂ h₁ h₂ f₁ f₂ same => ?_
  · rw [deriveNode_dontSkip concrete regular]
    split
    · exact parallel_throw h₁ h₂ _
    · exact h.node node h₁ h₂
  · rw [emitField_dontSkip, emitField_dontSkip]
    split
    · exact parallel_throw h₁ h₂ _
    · exact h.field h₁ h₂ _ _ same

theorem obliviousAt_choice {branches : List Parser} (h : ∀ p ∈ branches, ObliviousAt g p.unwrap)
    (id : ParserId) : ObliviousAt g (.choice id branches) := by
  refine .of_regular (fun node concrete regular t₁ t₂ h₁ h₂ => ?_)
    fun t₁ t₂ h₁ h₂ f₁ f₂ same => ?_
  · rw [deriveNode_unparsable concrete regular rfl]
    exact parallel_throw h₁ h₂ _
  · refine (oblivious_checkBranches h h₁ h₂).bind fun _ _ t₁' t₂' grown _ => ?_
    have same : SameField t₁' t₂' f₁ f₂ := same.mono fun _ _ => .mono grown.left grown.right
    exact parallel_pure grown.faithful_left grown.faithful_right (sameField_shown same)

theorem obliviousAt_null (id : ParserId) (type : NodeId) : ObliviousAt g (.null id type) := by
  refine .of_regular (fun node concrete regular t₁ t₂ h₁ h₂ => ?_)
    fun t₁ t₂ h₁ h₂ f₁ f₂ same => parallel_pure h₁ h₂ same
  rw [deriveNode_null concrete regular]
  exact parallel_pure h₁ h₂ (.null node)

theorem obliviousAt_defer (id : ParserId) (rule : RuleId) : ObliviousAt g (.defer id rule) := by
  refine .of_regular (fun node concrete regular t₁ t₂ h₁ h₂ => ?_)
    fun t₁ t₂ h₁ h₂ f₁ f₂ same => parallel_pure h₁ h₂ (sameField_shown same)
  rw [deriveNode_unparsable concrete regular rfl]
  exact parallel_throw h₁ h₂ _

/-- A parser of which no unparser can be made. -/
theorem ObliviousAt.of_unsupported {p : Parser}
    (node : ∀ node, g.nodes.isConcrete node = true → g.nodes.isTokenNode node = false →
      g.deriveNode node p = throw (.unsupportedParser (g.site p)))
    (field : ∀ f, g.emitField p f = throw (.unsupportedField (g.site p))) : ObliviousAt g p := by
  refine .of_regular (fun n concrete regular t₁ t₂ h₁ h₂ => ?_) fun t₁ t₂ h₁ h₂ f₁ f₂ _ => ?_
  · rw [node n concrete regular]
    exact parallel_throw h₁ h₂ _
  · rw [field, field]
    exact parallel_throw h₁ h₂ _

/-- **What a parser tells does not depend on the table.**  Branches of a choice are looked at
without their wrapper, so the induction carries both along. -/
theorem obliviousAt_and_unwrap (p : Parser) : ObliviousAt g p ∧ ObliviousAt g p.unwrap := by
  have plain {p : Parser} (h : ObliviousAt g p) (bare : p.unwrap = p) :
      ObliviousAt g p ∧ ObliviousAt g p.unwrap := ⟨h, bare.symm ▸ h⟩
  induction p using Parser.induction with
  | transform id type rowId items ih =>
    exact plain (obliviousAt_transform (fun p hp => (ih p hp).1) id type rowId) rfl
  | pick id rowId items index ih =>
    exact plain (obliviousAt_pick (fun p hp => (ih p hp).1) id rowId index) rfl
  | list id type element separator => exact plain (obliviousAt_list id type element separator) rfl
  | opt id inner tolerant ih => exact plain (obliviousAt_opt ih.1 id tolerant) rfl
  | optBool id inner alternatives => exact plain (obliviousAt_optBool id inner alternatives) rfl
  | choice id branches ih => exact plain (obliviousAt_choice (fun p hp => (ih p hp).2) id) rfl
  | dontSkip id inner ih => exact ⟨obliviousAt_dontSkip ih.1 id, ih.1⟩
  | defer id rule => exact plain (obliviousAt_defer id rule) rfl
  | null id type => exact plain (obliviousAt_null id type) rfl
  | row | token | predicate | skip | noBacktrack =>
    refine plain (.of_unsupported (fun node concrete regular => ?_) fun f => ?_) rfl
    · exact deriveNode_unparsable concrete regular rfl
    · simp [emitField]

/-- **The unparser derived from a parser does not depend on the table.** -/
theorem oblivious_deriveNode (node : NodeId) (p : Parser) :
    Oblivious g.kinds SameUnparser (g.deriveNode node p) := (obliviousAt_and_unwrap p).1.node node

end Grammar

end Unparsing
