import Unparsing.Proofs.Derivation.Equations
import Unparsing.Proofs.Token.Table

/-!
# Proofs/Derivation/Stepwise — a derivation only looks up tokens, or adds them

Whatever a derivation does, it does to the table by interning tokens one after the other
(`Interning.Stepwise`).  So on every table, filled in whatever way, it only adds at the end, also
where it fails (`Interning.Stepwise.grows`); and what it found or added once is found again, with
the same result, in every table grown from the one it left (`Interning.Stepwise.rerun`).
-/

namespace Unparsing

open TokenTable

namespace TokenTable

variable {ks : TokenKinds} {t t' T : TokenTable} {i : TokenId} {x : TokenIdentity}

/-- A token is looked up by the place of its identity. -/
theorem find?_eq_findIdx? (t : TokenTable) (x : TokenIdentity) :
    t.find? x = (t.tokens.toList.findIdx? (·.toTokenIdentity == x)).map Index.mk := by
  obtain ⟨⟨us⟩⟩ := t
  rw [find?, List.findIdx?_toArray]

/-- A number is kept by the tables that grow from its own. -/
theorem find?_mono (grown : t.Extends T) (h : t.find? x = some i) : T.find? x = some i := by
  obtain ⟨added, happ⟩ := grown
  rw [find?_eq_findIdx?] at h ⊢
  obtain ⟨n, hn, rfl⟩ := Option.map_eq_some_iff.mp h
  rw [← happ, List.findIdx?_append, hn]
  rfl

/-- Interning only adds to a table. -/
theorem intern_grows (ks : TokenKinds) (x : TokenIdentity) (t : TokenTable) :
    t.Extends (stateAfter (intern ks x) t) := by
  unfold stateAfter intern
  cases t.find? x with
  | some i => exact .refl t
  | none =>
    cases ks.wording x with
    | ok text => exact extends_push t { x with text }
    | error fault => exact .refl t

/-- A token put at the end is found there, unless its identity is found before. -/
theorem find?_push (t : TokenTable) (u : TokenUnparser) (x : TokenIdentity) : (t.push u).find? x =
    (t.find? x).or (if u.toTokenIdentity == x then some ⟨t.size⟩ else none) := by
  simp only [find?, push, Array.findIdx?_push, Option.map_or]
  split <;> rfl

/-- What was interned is found under the number it was given. -/
theorem find?_of_intern (run : intern ks x t = .ok i t') : t'.find? x = some i := by
  unfold intern at run
  split at run
  next found =>
    cases run
    exact found
  next new =>
    split at run
    next text _ =>
      cases run
      change (t.push { x with text }).find? x = _
      simp [find?_push, new]
    next => cases run

end TokenTable

namespace Interning

variable {α β : Type} {ks : TokenKinds} {m : Interning α} {t t' T : TokenTable} {a : α}

/-- The computations made of steps that each look up a token, or add it at the end. -/
inductive Stepwise (ks : TokenKinds) : {α : Type} → Interning α → Prop
  | pure {α : Type} (a : α) : Stepwise ks (Pure.pure a)
  | throw {α : Type} (e : Problem) : Stepwise ks (MonadExcept.throw e : Interning α)
  | intern (kind : KindId) (text : Option String) :
      Stepwise ks (TokenTable.intern ks (.of kind text))
  | bind {α β : Type} {m : Interning α} {k : α → Interning β} : Stepwise ks m →
      (∀ a, Stepwise ks (k a)) → Stepwise ks (m >>= k)

/-- **The table only grows**, also where the computation fails. -/
theorem Stepwise.grows (h : Stepwise ks m) (t : TokenTable) : t.Extends (stateAfter m t) := by
  induction h generalizing t with
  | pure | throw => exact .refl t
  | intern kind text => exact intern_grows ks _ t
  | @bind _ _ m k _ _ first rest =>
    have before := first t
    rw [stateAfter_bind]
    cases run : m t with
    | ok a t' =>
      rw [stateAfter_of_ok run] at before
      exact before.trans (rest a t')
    | error e t' =>
      rw [stateAfter_of_error run] at before
      exact before

/-- What goes step by step only adds to a table. -/
theorem Stepwise.grows_of_ok (h : Stepwise ks m) (run : m t = .ok a t') : t.Extends t' :=
  stateAfter_of_ok run ▸ h.grows t

/-- A table as interning fills it stays one. -/
theorem Stepwise.faithful (h : Stepwise ks m) (ht : t.Faithful ks) :
    (stateAfter m t).Faithful ks := by
  induction h generalizing t with
  | pure | throw => exact ht
  | intern kind text =>
    cases hw : ks.wording (.of kind text) with
    | ok w =>
      obtain ⟨_, _, run, -, faithful, -⟩ := ht.intern_of_ok hw
      rwa [stateAfter_of_ok run]
    | error fault => rwa [stateAfter_of_error (ht.intern_of_error hw)]
  | @bind _ _ m k _ _ first rest =>
    have before := first ht
    rw [stateAfter_bind]
    cases run : m t with
    | ok a t' =>
      rw [stateAfter_of_ok run] at before
      exact rest a before
    | error e t' =>
      rw [stateAfter_of_error run] at before
      exact before

/-- What goes step by step leaves a faithful table faithful. -/
theorem Stepwise.faithful_of_ok (h : Stepwise ks m) (ht : t.Faithful ks) (run : m t = .ok a t') :
    t'.Faithful ks :=
  stateAfter_of_ok run ▸ h.faithful ht

/-- **What succeeded once succeeds again**, with the same result, on every table grown from the one
it left, and leaves that as it is. -/
theorem Stepwise.rerun (h : Stepwise ks m) (run : m t = .ok a t') (grown : t'.Extends T) :
    m T = .ok a T := by
  induction h generalizing t t' with
  | pure =>
    cases run
    rfl
  | throw => cases run
  | intern kind text => exact intern_of_find? (find?_mono grown (find?_of_intern run))
  | bind _ rest ih ih' =>
    obtain ⟨b, t₁, first, second⟩ := estate_bind_eq_ok.mp run
    refine estate_bind_eq_ok.mpr ⟨b, T, ?_, ih' b second grown⟩
    exact ih first (((rest b).grows_of_ok second).trans grown)

end Interning

open Interning

namespace Grammar

variable {g : Grammar}

/-! ## Runs -/

theorem stepwise_internParser (p : Parser) : Stepwise g.kinds (internParser g p) := by
  cases p with
  | token id kind text => exact .intern kind text
  | _ => exact .throw _

theorem stepwise_emitRuns {items : List Parser} (h : ∀ p ∈ items, Stepwise g.kinds (g.emitRun p)) :
    Stepwise g.kinds (g.emitRuns items) := by
  induction items with
  | nil => exact .pure []
  | cons p ps ih =>
    rw [List.forall_mem_cons] at h
    exact .bind h.1 fun run => .bind (ih h.2) fun rest => .pure (run ++ rest)

/-- The run of a parser is written step by step. -/
theorem stepwise_emitRun (p : Parser) : Stepwise g.kinds (g.emitRun p) := by
  induction p using Parser.induction with
  | row id items ih => exact stepwise_emitRuns ih
  | token id kind text => exact .bind (stepwise_internParser _) fun token => .pure [token]
  | opt id inner tolerant ih =>
    cases tolerant with
    | true => exact ih
    | false => exact .throw _
  | noBacktrack id => exact .pure []
  | dontSkip id inner ih =>
    rw [emitRun_dontSkip]
    split
    · exact .pure []
    · exact ih
  | _ => exact .throw _

/-- A pick is split step by step. -/
theorem stepwise_splitPick (p : Parser) : Stepwise g.kinds (g.splitPick p) := by
  cases p with
  | pick id rowId items index =>
    have runs (ps : List Parser) : Stepwise g.kinds (g.emitRuns ps) :=
      stepwise_emitRuns fun p _ => stepwise_emitRun p
    unfold splitPick
    simp only
    split
    · exact .throw _
    · exact .bind (runs _) fun pre => .bind (runs _) fun post => .pure _
  | _ => exact .throw _

/-! ## Fields and nodes -/

/-- What a parser tells of a node or of a field is found stepwise. -/
structure StepwiseAt (g : Grammar) (p : Parser) : Prop where
  node (node : NodeId) : Stepwise g.kinds (g.deriveNode node p)
  field (f : FieldUnparser) : Stepwise g.kinds (g.emitField p f)

/-- A branch is looked at step by step, if its unparser is derived so. -/
theorem stepwise_checkBranch {branch : Parser} {derive : NodeId → Interning NodeUnparser}
    (h : ∀ node, Stepwise g.kinds (derive node)) :
    Stepwise g.kinds (g.checkBranch branch derive) := by
  have one (node : NodeId) : Stepwise g.kinds (do let _ ← derive node; pure ()) :=
    .bind (h node) fun _ => .pure ()
  unfold checkBranch
  split
  · exact .pure ()
  · exact .pure ()
  · exact .bind (h _) fun _ => one _
  · split
    · split
      · exact one _
      · exact .throw _
    · exact .throw _
    · exact .throw _

theorem stepwise_checkBranches {branches : List Parser}
    (h : ∀ p ∈ branches, StepwiseAt g p.unwrap) : Stepwise g.kinds (g.checkBranches branches) := by
  induction branches with
  | nil => exact .pure ()
  | cons p ps ih =>
    rw [List.forall_mem_cons] at h
    rw [checkBranches_cons]
    exact .bind (stepwise_checkBranch h.1.node) fun _ => ih h.2

theorem stepwise_emitPicked {items : List Parser} (h : ∀ p ∈ items, StepwiseAt g p) (index : Nat)
    (f : FieldUnparser) : Stepwise g.kinds (g.emitPicked items index f) := by
  rw [emitPicked_eq]
  cases found : items[index]? with
  | none => exact .pure f
  | some p => exact (h p (List.mem_of_getElem? found)).field f

theorem stepwise_fillRow_of_items {items : List Parser} (h : ∀ p ∈ items, StepwiseAt g p)
    (overflow : Problem) (fields : List FieldUnparser) :
    Stepwise g.kinds (g.fillRow overflow fields items) := by
  induction items generalizing fields with
  | nil => exact .pure ([], [])
  | cons p ps ih =>
    rw [List.forall_mem_cons] at h
    unfold fillRow
    split
    · exact .bind (stepwise_emitRun p) fun run => .bind (ih h.2 fields) fun rest => .pure _
    · cases fields with
      | nil => exact .throw _
      | cons field fields =>
        exact .bind (h.1.field field) fun field => .bind (ih h.2 fields) fun rest => .pure _

/-- It is enough to look at the node types that are built from fields. -/
theorem StepwiseAt.of_regular {p : Parser}
    (node : ∀ node, g.nodes.isConcrete node = true → g.nodes.isTokenNode node = false →
      Stepwise g.kinds (g.deriveNode node p))
    (field : ∀ f, Stepwise g.kinds (g.emitField p f)) : StepwiseAt g p where
  node n := by
    by_cases concrete : g.nodes.isConcrete n = true
    · by_cases token : g.nodes.isTokenNode n = true
      · unfold deriveNode
        simp only [concrete, token, Bool.not_true, Bool.false_eq_true, if_false, if_true]
        split
        · exact .pure _
        · exact .throw _
      · exact node n concrete (Bool.not_eq_true _ |>.mp token)
    · unfold deriveNode
      simp only [concrete, Bool.not_false, if_true]
      exact .throw _
  field := field

theorem stepwiseAt_transform {items : List Parser} (h : ∀ p ∈ items, StepwiseAt g p)
    (id : ParserId) (type : NodeId) (rowId : ParserId) :
    StepwiseAt g (.transform id type rowId items) := by
  refine .of_regular (fun node concrete regular => ?_) fun f => .pure _
  rw [deriveNode_transform concrete regular]
  refine .bind (stepwise_fillRow_of_items h _ _) fun r => ?_
  split
  · exact .bind (.throw _) fun _ => .pure _
  · exact .pure _

theorem stepwiseAt_list (id : ParserId) (type : NodeId) (element : Parser)
    (separator : Option Parser) : StepwiseAt g (.list id type element separator) := by
  refine .of_regular (fun node concrete regular => ?_) fun f => .pure _
  cases separator with
  | none =>
    rw [deriveNode_list_none concrete regular]
    exact .pure _
  | some separator =>
    rw [deriveNode_list_some concrete regular]
    exact .bind (stepwise_internParser separator) fun token => .pure _

theorem stepwiseAt_optBool (id : ParserId) (inner : Parser) (alternatives : BoolAlternatives) :
    StepwiseAt g (.optBool id inner alternatives) := by
  refine .of_regular (fun node concrete regular => ?_) fun f => .pure _
  rw [deriveNode_optBool concrete regular]
  split
  · exact .bind (stepwise_emitRun inner) fun pre => .pure _
  · exact .pure _

theorem stepwiseAt_pick {items : List Parser} (h : ∀ p ∈ items, StepwiseAt g p)
    (id rowId : ParserId) (index : Nat) : StepwiseAt g (.pick id rowId items index) := by
  refine .of_regular (fun node concrete regular => ?_) fun f => ?_
  · rw [deriveNode_unparsable concrete regular rfl]
    exact .throw _
  · exact .bind (stepwise_splitPick _) fun _ => stepwise_emitPicked h index _

theorem stepwiseAt_opt {inner : Parser} (h : StepwiseAt g inner) (id : ParserId) (tolerant : Bool) :
    StepwiseAt g (.opt id inner tolerant) := by
  refine .of_regular (fun node concrete regular => ?_) fun f => h.field _
  rw [deriveNode_opt concrete regular]
  exact h.node node

theorem stepwiseAt_choice {branches : List Parser} (h : ∀ p ∈ branches, StepwiseAt g p.unwrap)
    (id : ParserId) : StepwiseAt g (.choice id branches) := by
  refine .of_regular (fun node concrete regular => ?_) fun f => ?_
  · rw [deriveNode_unparsable concrete regular rfl]
    exact .throw _
  · exact .bind (stepwise_checkBranches h) fun _ => .pure _

theorem stepwiseAt_dontSkip {inner : Parser} (h : StepwiseAt g inner) (id : ParserId) :
    StepwiseAt g (.dontSkip id inner) := by
  refine .of_regular (fun node concrete regular => ?_) fun f => ?_
  · rw [deriveNode_dontSkip concrete regular]
    split
    · exact .throw _
    · exact h.node node
  · rw [emitField_dontSkip]
    split
    · exact .throw _
    · exact h.field f

/-- **What a parser tells is found stepwise.**  Branches of a choice are looked at without their
wrapper, so the induction carries both along. -/
theorem stepwiseAt_and_unwrap (p : Parser) : StepwiseAt g p ∧ StepwiseAt g p.unwrap := by
  have plain {p : Parser} (h : StepwiseAt g p) (bare : p.unwrap = p) :
      StepwiseAt g p ∧ StepwiseAt g p.unwrap := ⟨h, bare.symm ▸ h⟩
  induction p using Parser.induction with
  | transform id type rowId items ih =>
    exact plain (stepwiseAt_transform (fun p hp => (ih p hp).1) id type rowId) rfl
  | pick id rowId items index ih =>
    exact plain (stepwiseAt_pick (fun p hp => (ih p hp).1) id rowId index) rfl
  | list id type element separator => exact plain (stepwiseAt_list id type element separator) rfl
  | opt id inner tolerant ih => exact plain (stepwiseAt_opt ih.1 id tolerant) rfl
  | optBool id inner alternatives => exact plain (stepwiseAt_optBool id inner alternatives) rfl
  | choice id branches ih => exact plain (stepwiseAt_choice (fun p hp => (ih p hp).2) id) rfl
  | dontSkip id inner ih => exact ⟨stepwiseAt_dontSkip ih.1 id, ih.1⟩
  | null id type =>
    refine plain (.of_regular (fun node concrete regular => ?_) fun f => .pure f) rfl
    rw [deriveNode_null concrete regular]
    exact .pure _
  | defer id rule =>
    refine plain (.of_regular (fun node concrete regular => ?_) fun f => .pure _) rfl
    rw [deriveNode_unparsable concrete regular rfl]
    exact .throw _
  | row | token | predicate | skip | noBacktrack =>
    refine plain (.of_regular (fun node concrete regular => ?_) fun f => ?_) rfl
    · rw [deriveNode_unparsable concrete regular rfl]
      exact .throw _
    · simp only [emitField]
      exact .throw _

/-- **An unparser is derived step by step.** -/
theorem stepwise_deriveNode (node : NodeId) (p : Parser) :
    Stepwise g.kinds (g.deriveNode node p) := (stepwiseAt_and_unwrap p).1.node node

/-- **A field is written step by step.** -/
theorem stepwise_emitField (p : Parser) (f : FieldUnparser) :
    Stepwise g.kinds (g.emitField p f) := (stepwiseAt_and_unwrap p).1.field f

/-- **A row is filled step by step.** -/
theorem stepwise_fillRow (overflow : Problem) (fields : List FieldUnparser)
    (items : List Parser) : Stepwise g.kinds (g.fillRow overflow fields items) :=
  stepwise_fillRow_of_items (fun p _ => (stepwiseAt_and_unwrap p).1) overflow fields

/-- **An unparser derived once is derived again**, the very same, from any table that came of it. -/
theorem deriveNode_rerun {t t' T : TokenTable} {node : NodeId} {p : Parser} {u : NodeUnparser}
    (run : g.deriveNode node p t = .ok u t') (grown : t'.Extends T) :
    g.deriveNode node p T = .ok u T :=
  (stepwise_deriveNode node p).rerun run grown

end Grammar

end Unparsing
