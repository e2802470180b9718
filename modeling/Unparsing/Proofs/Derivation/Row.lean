import Unparsing.Proofs.Derivation.Written

/-!
# Proofs/Derivation/Row — a row is written in its order

The row of a transform is split at the parsers that it keeps.  The run between two of them is that
of the parsers thrown away there (`Grammar.RunOf`), and each of them fills its field, with the runs
of the nested `pick`s around it, the outermost farthest from the field (`Grammar.FilledBy`).

Both are stated for the table that the derivation leaves, where each step can be repeated
(`Interning.Stepwise.rerun`).
-/

namespace Unparsing

namespace Parser

mutual

/-- The `pick`s on the way to what fills a field, the outermost first. -/
def picks : Parser → List Parser
  | pick id rowId items index => pick id rowId items index :: picksIn items index
  | opt _ inner _ | dontSkip _ inner => inner.picks
  | row .. | transform .. | list .. | optBool .. | choice .. | defer .. | token .. | null ..
  | predicate .. | skip .. | noBacktrack .. => []

/-- Companion of `picks` on the items of a row: those of the item at an index. -/
def picksIn : List Parser → Nat → List Parser
  | [], _ => []
  | p :: _, 0 => p.picks
  | _ :: ps, index + 1 => picksIn ps index

end

theorem picksIn_eq (items : List Parser) (index : Nat) :
    picksIn items index = (items[index]?).elim [] picks := by
  induction items generalizing index with
  | nil => rfl
  | cons p ps ih =>
    cases index with
    | zero => rfl
    | succ index => exact ih index

end Parser

/-- The runs of a row in order: the one before the fields, then the one after each. -/
def RegularUnparser.rowRuns (u : RegularUnparser) : List TokenRun :=
  u.pre :: if u.fields.isEmpty then [] else u.inter ++ [u.post]

@[simp] theorem RegularUnparser.rowRuns_ofRow (node : NodeId) (lead : TokenRun)
    (filled : List (FieldUnparser × TokenRun)) :
    (RegularUnparser.ofRow node lead filled).rowRuns = lead :: filled.map (·.2) := by
  obtain rfl | ⟨init, last, rfl⟩ := List.eq_nil_or_concat filled
  · rfl
  · simp [rowRuns, ofRow]

namespace Grammar

variable {g : Grammar} {t t' T : TokenTable} {node : NodeId}

/-- The run is that of the parsers, one after the other. -/
def RunOf (g : Grammar) (t : TokenTable) (ps : List Parser) (r : TokenRun) : Prop :=
  ∃ runs, List.Forall₂ (fun p run => g.emitRun p t = .ok run t) ps runs ∧ r = runs.flatten

theorem RunOf.nil : g.RunOf t [] [] := ⟨[], .nil, rfl⟩

theorem RunOf.cons {p : Parser} {ps : List Parser} {run r : TokenRun}
    (first : g.emitRun p t = .ok run t) (rest : g.RunOf t ps r) :
    g.RunOf t (p :: ps) (run ++ r) := by
  obtain ⟨runs, emitted, rfl⟩ := rest
  exact ⟨run :: runs, .cons first emitted, rfl⟩

/-- The run on the left of what a `pick` picks, and the run on its right. -/
def Sides (g : Grammar) (t : TokenTable) (p : Parser) (r : TokenRun × TokenRun) : Prop :=
  ∃ item, g.splitPick p t = .ok (r.1, item, r.2) t

/-- **What fills a field**: the field is what its parser tells of it, with the runs on the left of
the nested `pick`s before it, the outermost first, and those on their right after it, the innermost
first. -/
structure FilledBy (g : Grammar) (t : TokenTable) (node : NodeId) (f : FieldUnparser) (p : Parser) :
    Prop where
  told : g.emitField p { node, field := f.field } t = .ok f t
  around : ∃ runs, List.Forall₂ (g.Sides t) p.picks runs ∧
    f.pre = (runs.map (·.1)).flatten ∧ f.post = (runs.reverse.map (·.2)).flatten

/-! ## Fields -/

/-- **A field completed by a parser** has the runs of its nested `pick`s put around it, between
those that were there. -/
theorem emitField_picks {p : Parser} {f f' : FieldUnparser}
    (run : g.emitField p f t = .ok f' t') (grown : t'.Extends T) :
    ∃ runs, List.Forall₂ (g.Sides T) p.picks runs ∧
      f'.pre = f.pre ++ (runs.map (·.1)).flatten ∧
      f'.post = (runs.reverse.map (·.2)).flatten ++ f.post := by
  induction p using Parser.induction generalizing t f with
  | defer | list | transform | optBool | null =>
    cases run
    exact ⟨[], .nil, (List.append_nil _).symm, rfl⟩
  | opt id inner tolerant ih => exact ih (f := { f with alwaysAbsent := false }) run
  | choice id branches =>
    obtain ⟨_, _, _, run⟩ := estate_bind_eq_ok.mp run
    cases run
    exact ⟨[], .nil, (List.append_nil _).symm, rfl⟩
  | pick id rowId items index ih =>
    obtain ⟨⟨pre, item, post⟩, middle, picked, run⟩ := estate_bind_eq_ok.mp run
    obtain ⟨found, -⟩ := splitPick_names picked
    simp only [emitPicked_eq, found, Option.elim_some] at run
    have rest := ((stepwise_emitField item _).grows_of_ok run).trans grown
    have sides : g.Sides T (.pick id rowId items index) (pre, post) :=
      ⟨item, (stepwise_splitPick _).rerun picked rest⟩
    obtain ⟨runs, inner, hpre, hpost⟩ := ih item (List.mem_of_getElem? found) run
    refine ⟨(pre, post) :: runs, ?_, ?_, ?_⟩
    · rw [Parser.picks, Parser.picksIn_eq, found]
      exact .cons sides inner
    · simp [hpre]
    · simp [hpost]
  | dontSkip id inner ih =>
    rw [emitField_dontSkip] at run
    split at run
    · cases run
    · exact ih run
  | row | token | predicate | skip | noBacktrack => cases run

/-! ## Rows -/

/-- What fills the fields from the first on: as many as the row keeps parsers. -/
structure RowFilled (g : Grammar) (t : TokenTable) (fields : List FieldUnparser)
    (items : List Parser) (r : TokenRun × List (FieldUnparser × TokenRun)) : Prop where
  runs : List.Forall₂ (g.RunOf t) (items.splitOnP (!·.discards)) (r.1 :: r.2.map (·.2))
  fields : List.Forall₂ (fun fp f => g.emitField fp.2 fp.1 t = .ok f t)
    (fields.zip (items.filter (!·.discards))) (r.2.map (·.1))
  width : r.2.length = (items.filter (!·.discards)).length

/-- **A row fills its fields in order**, with the runs of what it throws away between them. -/
theorem fillRow_filled {overflow : Problem} {fields : List FieldUnparser} {items : List Parser}
    {r : TokenRun × List (FieldUnparser × TokenRun)}
    (run : g.fillRow overflow fields items t = .ok r t') (grown : t'.Extends T) :
    g.RowFilled T fields items r := by
  induction items generalizing fields t r t' with
  | nil =>
    cases run
    refine ⟨.cons .nil .nil, ?_, rfl⟩
    rw [List.filter_nil, List.zip_nil_right]
    exact .nil
  | cons p ps ih =>
    unfold fillRow at run
    split at run
    next discards =>
      obtain ⟨_, _, first, run⟩ := estate_bind_eq_ok.mp run
      obtain ⟨rest, _, hrest, run⟩ := estate_bind_eq_ok.mp run
      cases run
      have later := ((stepwise_fillRow overflow fields ps).grows_of_ok hrest).trans grown
      obtain ⟨runs, filled, width⟩ := ih hrest grown
      have emitted := (stepwise_emitRun p).rerun first later
      refine ⟨?_, ?_, ?_⟩
      · rw [List.splitOnP_cons_eq_if_modifyHead, discards]
        generalize ps.splitOnP (!·.discards) = parts at runs
        cases runs with
        | cons lead gaps => exact .cons (.cons emitted lead) gaps
      · simpa [discards] using filled
      · simpa [discards] using width
    next kept =>
      cases fields with
      | nil => cases run
      | cons field fields =>
        obtain ⟨field', _, first, run⟩ := estate_bind_eq_ok.mp run
        obtain ⟨rest, _, hrest, run⟩ := estate_bind_eq_ok.mp run
        cases run
        have later := ((stepwise_fillRow overflow fields ps).grows_of_ok hrest).trans grown
        obtain ⟨runs, filled, width⟩ := ih hrest grown
        have told := (stepwise_emitField p field).rerun first later
        rw [Bool.not_eq_true] at kept
        refine ⟨?_, ?_, ?_⟩
        · rw [List.splitOnP_cons_eq_if_modifyHead, kept]
          exact .cons .nil runs
        · simpa [kept] using And.intro told filled
        · simpa [kept] using width

/-! ## Nodes -/

theorem filledBy_of_emitField {p : Parser} {f f' : FieldUnparser}
    (blank : f ∈ (RegularUnparser.blank g.nodes node).fields)
    (run : g.emitField p f t = .ok f' t) : g.FilledBy t node f' p := by
  obtain ⟨field, -, rfl⟩ := List.mem_map.mp blank
  obtain ⟨runs, sides, hpre, hpost⟩ := emitField_picks run (.refl t)
  refine ⟨?_, runs, sides, hpre, hpost.trans (List.append_nil _)⟩
  rwa [(emitField_completes run).field]

/-- What fills the fields of a node type are the parsers that the row keeps. -/
theorem RowFilled.filledBy {items : List Parser} {r : TokenRun × List (FieldUnparser × TokenRun)}
    (h : g.RowFilled t (RegularUnparser.blank g.nodes node).fields items r)
    (width : r.2.length = (RegularUnparser.blank g.nodes node).fields.length) :
    List.Forall₂ (g.FilledBy t node) (r.2.map (·.1)) (items.filter (!·.discards)) := by
  have kept : ((RegularUnparser.blank g.nodes node).fields.zip
      (items.filter (!·.discards))).map Prod.snd = items.filter (!·.discards) :=
    List.map_snd_zip (Nat.le_of_eq (h.width.symm.trans width))
  rw [← kept, List.forall₂_map_right_iff]
  have filled := (List.forall₂_and_left _ _).mpr
    ⟨fun _ hfp => (List.of_mem_zip hfp).1, h.fields⟩
  exact filled.flip.imp fun _ _ fp => filledBy_of_emitField fp.1 fp.2

end Grammar

end Unparsing
