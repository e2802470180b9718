import Unparsing.Proofs.Derivation.Oblivious
import Unparsing.Proofs.Unparser.Shape
import Unparsing.Session.Survey

/-!
# Proofs/Derivation/Shape — derived unparsers are well shaped

A derivation starts from the unparser that writes no token.  A parser may put tokens around a field
only when it shows the field (`FieldUnparser.Completes`), and the row of a transform completes the
fields one by one.  So what comes of it has the shape of its node type (`Grammar.deriveNode_ok`),
and only a parser that is absent itself derives an absent node.
-/

namespace Unparsing

/-! ## Fields -/

/-- An unparser of a field before and after a parser has told about it: of the same field, and still
the same unless the field is shown now. -/
structure FieldUnparser.Completes (f f' : FieldUnparser) : Prop where
  node : f'.node = f.node
  field : f'.field = f.field
  untouched : f'.alwaysAbsent = true → f' = f

/-- A field completes itself. -/
theorem FieldUnparser.Completes.refl (f : FieldUnparser) : f.Completes f := ⟨rfl, rfl, fun _ => rfl⟩

/-- A field that is shown before the parser inside it is read stays so. -/
theorem FieldUnparser.Completes.of_around {f f' : FieldUnparser} {pre post : TokenRun}
    (h : FieldUnparser.Completes ⟨f.node, f.field, false, pre, post⟩ f') : f.Completes f' where
  node := h.node
  field := h.field
  untouched absent := by
    have same := h.untouched absent
    rw [same] at absent
    cases absent

/-- A field that is shown completes one that was not. -/
theorem FieldUnparser.completes_shown (f : FieldUnparser) :
    f.Completes { f with alwaysAbsent := false } := .of_around (.refl _)

/-- A field that has no tokens while it is hidden still has none once it is completed. -/
theorem FieldUnparser.Completes.bare {f f' : FieldUnparser} (h : f.Completes f') (bare : f.Bare) :
    f'.Bare := by
  intro absent
  have same := h.untouched absent
  subst same
  exact bare absent

namespace Grammar

variable {g : Grammar} {t t' : TokenTable}

/-- What a pick writes completes the field. -/
theorem emitPicked_completes {items : List Parser} {index : Nat} {f f' : FieldUnparser}
    (ih : ∀ p ∈ items, ∀ t f f' t', g.emitField p f t = .ok f' t' → f.Completes f')
    (run : g.emitPicked items index f t = .ok f' t') : f.Completes f' := by
  induction items generalizing index with
  | nil =>
    cases run
    exact .refl f
  | cons p ps ihps =>
    rw [List.forall_mem_cons] at ih
    cases index with
    | zero => exact ih.1 _ _ _ _ run
    | succ index => exact ihps ih.2 run

/-- **What is written into a field completes it**: the field stays that of its node type. -/
theorem emitField_completes {p : Parser} {f f' : FieldUnparser}
    (run : g.emitField p f t = .ok f' t') : f.Completes f' := by
  induction p using Parser.induction generalizing t f f' t' with
  | defer | list | transform | optBool =>
    cases run
    exact f.completes_shown
  | null =>
    cases run
    exact .refl f
  | opt id inner tolerant ih =>
    exact .of_around (ih run)
  | choice id branches =>
    obtain ⟨_, _, _, run⟩ := estate_bind_eq_ok.mp run
    cases run
    exact f.completes_shown
  | pick id rowId items index ih =>
    obtain ⟨⟨pre, inner, post⟩, _, _, run⟩ := estate_bind_eq_ok.mp run
    exact .of_around (emitPicked_completes (fun p hp _ _ _ _ run => ih p hp run) run)
  | dontSkip id inner ih =>
    rw [emitField_dontSkip] at run
    split at run
    · cases run
    · exact ih run
  | row | token | predicate | skip | noBacktrack => cases run

/-- A row completes the first fields, as many as it has results. -/
theorem fillRow_completes {overflow : Problem} {fields : List FieldUnparser} {items : List Parser}
    {r : TokenRun × List (FieldUnparser × TokenRun)}
    (run : g.fillRow overflow fields items t = .ok r t') :
    List.Forall₂ FieldUnparser.Completes (fields.take r.2.length) (r.2.map (·.1)) := by
  induction items generalizing fields t r t' with
  | nil =>
    cases run
    exact .nil
  | cons p ps ih =>
    unfold fillRow at run
    split at run
    · obtain ⟨_, _, _, run⟩ := estate_bind_eq_ok.mp run
      obtain ⟨rest, _, hrest, run⟩ := estate_bind_eq_ok.mp run
      cases run
      have completes := ih hrest
      exact completes
    · cases fields with
      | nil => cases run
      | cons field fields =>
        obtain ⟨_, _, hfield, run⟩ := estate_bind_eq_ok.mp run
        obtain ⟨rest, _, hrest, run⟩ := estate_bind_eq_ok.mp run
        cases run
        exact .cons (emitField_completes hfield) (ih hrest)

/-! ## Nodes -/

/-- An unparser whose fields are completed one by one is well shaped. -/
theorem wellShaped_ofRow {node : NodeId} {lead : TokenRun}
    {filled : List (FieldUnparser × TokenRun)}
    (h : List.Forall₂ FieldUnparser.Completes (RegularUnparser.blank g.nodes node).fields
      (filled.map (·.1))) :
    (RegularUnparser.ofRow node lead filled).WellShaped g.nodes := by
  have blank := RegularUnparser.wellShaped_blank g.nodes node
  refine ⟨?_, fun f hf => ?_, by simp [RegularUnparser.ofRow], fun f hf => ?_⟩
  · have names : List.Forall₂ (· = ·) ((filled.map (·.1)).map (·.field))
        ((RegularUnparser.blank g.nodes node).fields.map (·.field)) := by
      rw [List.forall₂_map_left_iff, List.forall₂_map_right_iff]
      exact h.flip.imp fun _ _ completes => completes.field
    rw [List.forall₂_eq_eq_eq] at names
    exact names.trans blank.fields
  · obtain ⟨f₀, hf₀, completes⟩ := exists_mem_of_forall₂ h.flip hf
    exact completes.node.trans (blank.node f₀ hf₀)
  · obtain ⟨f₀, hf₀, completes⟩ := exists_mem_of_forall₂ h.flip hf
    exact completes.bare (blank.bare f₀ hf₀)

/-- A derivation succeeds only for node types that are built.  A token node is a transform of its
token. -/
theorem deriveNode_cases {node : NodeId} {p : Parser} {u : NodeUnparser}
    (run : g.deriveNode node p t = .ok u t') :
    g.nodes.isConcrete node = true ∧
      (g.nodes.isTokenNode node = true ∧ p.unwrap.wrapsOneToken = true ∧ u = .tokenNode node ∨
        g.nodes.isTokenNode node = false) := by
  unfold deriveNode at run
  split at run
  · cases run
  next concrete =>
  refine ⟨by simpa using concrete, ?_⟩
  split at run
  next token =>
    split at run
    next wraps =>
      cases run
      exact .inl ⟨token, wraps, rfl⟩
    next => cases run
  next regular => exact .inr (by simpa using regular)

/-- A branch is accepted if it is a reference or an error node, or if an unparser is derived of
it. -/
theorem checkBranch_cases {p : Parser} {derive : NodeId → Interning NodeUnparser}
    (run : g.checkBranch p derive t = .ok () t') :
    (∃ id rule, p = .defer id rule) ∨ (∃ id node, p = .skip id node) ∨
      ∃ node s u s', derive node s = .ok u s' := by
  have one {node : NodeId} (run : (do let _ ← derive node; pure ()) t = .ok () t') :
      ∃ node s u s', derive node s = .ok u s' := by
    obtain ⟨u, s', derived, -⟩ := estate_bind_eq_ok.mp run
    exact ⟨node, t, u, s', derived⟩
  cases p with
  | defer id rule => exact .inl ⟨id, rule, rfl⟩
  | skip id node => exact .inr (.inl ⟨id, node, rfl⟩)
  | optBool id inner alternatives =>
    obtain ⟨u, s', derived, -⟩ := estate_bind_eq_ok.mp run
    exact .inr (.inr ⟨_, _, u, s', derived⟩)
  | _ =>
    simp only [checkBranch] at run
    generalize g.yield _ = yields at run
    cases yields with
    | node node =>
      simp only at run
      split at run
      · exact .inr (.inr (one run))
      · cases run
    | token | nothing => cases run

/-- **What a derivation makes**: an unparser of the node type asked for, in its shape, and not that
of an absent node if the parser builds nodes. -/
theorem deriveNode_ok {node : NodeId} {p : Parser} {u : NodeUnparser}
    (run : g.deriveNode node p t = .ok u t') :
    g.nodes.isConcrete node = true ∧ u.node = node ∧ u.WellShaped g.nodes ∧
      (p.isProducer = true → u.isNull = false) := by
  obtain ⟨concrete, ⟨-, -, rfl⟩ | regular⟩ := deriveNode_cases run
  · exact ⟨concrete, rfl, trivial, fun _ => rfl⟩
  refine ⟨concrete, ?_⟩
  have blank := RegularUnparser.wellShaped_blank g.nodes node
  induction p using Parser.induction generalizing t u t' with
  | transform id type rowId items =>
    obtain ⟨_, r, filled, width, rfl⟩ := fillRow_of_deriveNode concrete regular run
    have completes := fillRow_completes filled
    rw [List.take_of_length_le (Nat.le_of_eq width.symm)] at completes
    exact ⟨rfl, wellShaped_ofRow completes, fun _ => rfl⟩
  | list id type element separator =>
    cases separator with
    | none =>
      rw [deriveNode_list_none concrete regular] at run
      cases run
      exact ⟨rfl, trivial, fun _ => rfl⟩
    | some separator =>
      rw [deriveNode_list_some concrete regular] at run
      obtain ⟨_, _, _, run⟩ := estate_bind_eq_ok.mp run
      cases run
      exact ⟨rfl, trivial, fun _ => rfl⟩
  | optBool id inner alternatives =>
    rw [deriveNode_optBool concrete regular] at run
    split at run
    · obtain ⟨_, _, _, run⟩ := estate_bind_eq_ok.mp run
      cases run
      exact ⟨rfl, ⟨blank.fields, blank.node, blank.inter, blank.bare⟩, fun _ => rfl⟩
    · cases run
      exact ⟨rfl, blank, fun _ => rfl⟩
  | opt id inner tolerant ih =>
    rw [deriveNode_opt concrete regular] at run
    exact ⟨(ih run).1, (ih run).2.1, nofun⟩
  | null id type =>
    rw [deriveNode_null concrete regular] at run
    cases run
    exact ⟨rfl, trivial, nofun⟩
  | dontSkip id inner ih =>
    rw [deriveNode_dontSkip concrete regular] at run
    split at run
    · cases run
    · exact ⟨(ih run).1, (ih run).2.1, nofun⟩
  | _ =>
    rw [deriveNode_unparsable concrete regular rfl] at run
    cases run

end Grammar

end Unparsing
