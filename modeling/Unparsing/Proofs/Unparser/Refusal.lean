import Unparsing.Proofs.Unparser.Merge

/-!
# Proofs/Unparser/Refusal — why two occurrences of a node type are not combined

Combining has two sorts of problems.  Occurrences of different forms, or with fields that do not
belong together, are a fault.  Occurrences of one form and of the shape of their node type have the
same fields in the same places, and then only their tokens can disagree
(`NodeUnparser.foldlM_combine_error`).
-/

namespace Unparsing

/-- Whether two producers of a node type were found to write different tokens. -/
def Problem.isDisagreement (problem : Problem) : Bool :=
  problem.code == .inconsistentTokens || problem.code == .inconsistentSeparator

/-- How a node is written, without what is written. -/
inductive NodeForm where
  | regular
  | list
  | tokenNode
  | null
  deriving DecidableEq, Repr

namespace NodeUnparser

/-- The form of an unparser. -/
def form : NodeUnparser → NodeForm
  | regular _ => .regular
  | list _ => .list
  | tokenNode _ => .tokenNode
  | null _ => .null

/-- What covers an unparser of a node has its form. -/
theorem Covers.form_eq {ρ : TokenId → TokenId → Prop} {a b : NodeUnparser} (h : a.Covers ρ b)
    (real : b.isNull = false) : a.form = b.form := by
  cases h with
  | regular | list | tokenNode => rfl
  | null => cases real

end NodeUnparser

variable {lex : Lexicon} {problem : Problem}

theorem TokenRun.checkEquivalent_error {t : TokenTable} {role : String} {a b : TokenRun}
    (h : TokenRun.checkEquivalent t role a b = .error problem) : problem.isDisagreement = true := by
  obtain ⟨-, rfl⟩ := checkEquivalent_eq_error_iff.mp h
  rfl

/-- Two occurrences of one field disagree on tokens only. -/
theorem FieldUnparser.combine_error {a b : FieldUnparser} (node : a.node = b.node)
    (field : a.field = b.field) (h : a.combine lex b = .error problem) :
    problem.isDisagreement = true := by
  simp only [combine, node, field, bne_self_eq_false, Bool.or_self, Bool.false_eq_true,
    if_false] at h
  split at h
  · cases h
  split at h
  · cases h
  obtain pre | ⟨_, -, h⟩ := except_bind_eq_error.mp h
  · exact TokenRun.checkEquivalent_error pre
  obtain post | ⟨_, -, h⟩ := except_bind_eq_error.mp h
  · exact TokenRun.checkEquivalent_error post
  · cases h

namespace RegularUnparser

variable {ns : NodeTypes} {a b : RegularUnparser} {node : NodeId}

/-- Combining fields in step fails only where they disagree. -/
theorem combineFields_error {as bs : List FieldUnparser} (na : ∀ f ∈ as, f.node = node)
    (nb : ∀ f ∈ bs, f.node = node) (fields : as.map (·.field) = bs.map (·.field))
    (h : combineFields lex as bs = .error problem) : problem.isDisagreement = true := by
  induction as generalizing bs with
  | nil => cases h
  | cons a as ih =>
    cases bs with
    | nil => cases h
    | cons b bs =>
      simp only [List.map_cons, List.cons.injEq] at fields
      rw [List.forall_mem_cons] at na nb
      obtain here | ⟨_, -, h⟩ := except_bind_eq_error.mp h
      · exact FieldUnparser.combine_error (na.1.trans nb.1.symm) fields.1 here
      obtain later | ⟨_, -, h⟩ := except_bind_eq_error.mp h
      · exact ih na.2 nb.2 fields.2 later
      · cases h

/-- Comparing the runs between fields fails only where they disagree. -/
theorem checkInter_error {fields : List FieldUnparser} {as bs : List TokenRun}
    (h : checkInter lex fields as bs = .error problem) : problem.isDisagreement = true := by
  induction fields generalizing as bs with
  | nil => cases h
  | cons field fields ih =>
    cases as with
    | nil => cases h
    | cons a as =>
      cases bs with
      | nil => cases h
      | cons b bs =>
        obtain here | ⟨_, -, later⟩ := except_bind_eq_error.mp h
        · exact TokenRun.checkEquivalent_error here
        · exact ih later

/-- Two occurrences of a node with fields disagree on tokens only. -/
theorem combine_error (ha : a.WellShaped ns) (hb : b.WellShaped ns) (node : a.node = b.node)
    (h : a.combine lex b = .error problem) : problem.isDisagreement = true := by
  have fields : a.fields.map (·.field) = b.fields.map (·.field) := by
    rw [ha.fields, hb.fields, node]
  have width : a.fields.length = b.fields.length := by
    simpa using congrArg List.length fields
  have inter : a.inter.length = b.inter.length := by rw [ha.inter, hb.inter, width]
  simp only [combine, width, inter, bne_self_eq_false, Bool.or_self, Bool.false_eq_true,
    if_false] at h
  obtain pre | ⟨_, -, h⟩ := except_bind_eq_error.mp h
  · exact TokenRun.checkEquivalent_error pre
  obtain between | ⟨_, -, h⟩ := except_bind_eq_error.mp h
  · exact checkInter_error between
  obtain post | ⟨_, -, h⟩ := except_bind_eq_error.mp h
  · exact TokenRun.checkEquivalent_error post
  obtain around | ⟨_, -, h⟩ := except_bind_eq_error.mp h
  · exact combineFields_error (fun f hf => (ha.node f hf).trans node) hb.node fields around
  · cases h

end RegularUnparser

namespace NodeUnparser

variable {ns : NodeTypes} {a b u : NodeUnparser} {node : NodeId} {form : NodeForm}

/-- Two occurrences of a node type, of one form, disagree on tokens only. -/
theorem combine_error (ha : a.WellShaped ns) (hb : b.WellShaped ns) (node : a.node = b.node)
    (form : a.form = b.form) (h : a.combine lex b = .error problem) :
    problem.isDisagreement = true := by
  cases a with
  | null =>
    rw [combine_null_left] at h
    cases h
  | regular x =>
    cases b with
    | regular y =>
      have node : x.node = y.node := node
      rw [combine, if_pos node, except_map_eq_error] at h
      exact RegularUnparser.combine_error ha hb node h
    | _ => cases form
  | list x =>
    cases b with
    | list y =>
      have node : x.node = y.node := node
      rw [combine, if_pos node, except_map_eq_error] at h
      unfold ListUnparser.combine at h
      split at h
      · cases h
      · cases h
        rfl
    | _ => cases form
  | tokenNode x =>
    cases b with
    | tokenNode y =>
      have node : x = y := node
      rw [combine, if_pos node] at h
      cases h
    | _ => cases form

/-- **Occurrences of a node type, all of one form, disagree on tokens only.** -/
theorem foldlM_combine_error {first : NodeUnparser} {others : List NodeUnparser}
    (shaped : ∀ v ∈ first :: others, v.WellShaped ns)
    (real : ∀ v ∈ first :: others, v.isNull = false)
    (same : ∀ v ∈ first :: others, v.node = node ∧ v.form = form)
    (h : others.foldlM (NodeUnparser.combine lex) first = .error problem) :
    problem.isDisagreement = true := by
  induction others generalizing first with
  | nil => cases h
  | cons second others ih =>
    rw [List.foldlM_cons, except_bind_eq_error] at h
    simp only [List.forall_mem_cons] at shaped real same
    obtain ⟨⟨node₁, form₁⟩, ⟨node₂, form₂⟩, others_same⟩ := same
    obtain here | ⟨both, hboth, later⟩ := h
    · exact combine_error shaped.1 shaped.2.1 (node₁.trans node₂.symm) (form₁.trans form₂.symm) here
    · obtain ⟨left, -, hshaped, hreal, -⟩ :=
        combine_ok shaped.1 shaped.2.1 real.1 real.2.1 hboth
      refine ih (List.forall_mem_cons.mpr ⟨hshaped, shaped.2.2⟩)
        (List.forall_mem_cons.mpr ⟨hreal, real.2.2⟩) (List.forall_mem_cons.mpr ⟨?_, others_same⟩)
        later
      exact ⟨left.node_eq.trans node₁, (left.form_eq real.1).trans form₁⟩

end NodeUnparser

/-! ## Problems of any two unparsers -/

/-- Whether a problem can be found by comparing two unparsers. -/
def Problem.isMismatch : Problem → Bool
  | inconsistentTokens .. | inconsistentSeparator .. => true
  | internal (.fieldsDiffer ..) | internal (.widthsDiffer ..) | internal (.shapesDiffer ..) => true
  | _ => false

/-- A comparison that fails, if it does, because of the unparsers compared. -/
def Mismatches {α : Type} (x : Except Problem α) : Prop :=
  ∀ ⦃problem⦄, x = .error problem → problem.isMismatch = true

namespace Mismatches

variable {α β : Type} {x : Except Problem α} {f : α → Except Problem β}

theorem pure (a : α) : Mismatches (pure a) := by
  rintro _ ⟨⟩

theorem throw (h : problem.isMismatch = true) : Mismatches (throw problem : Except Problem α) := by
  rintro _ ⟨⟩
  exact h

theorem bind (h : Mismatches x) (rest : ∀ a, Mismatches (f a)) : Mismatches (x >>= f) := by
  intro problem failed
  obtain first | ⟨a, -, later⟩ := except_bind_eq_error.mp failed
  · exact h first
  · exact rest a later

theorem map (h : Mismatches x) (f : α → β) : Mismatches (f <$> x) :=
  fun _ failed => h (except_map_eq_error.mp failed)

end Mismatches

theorem mismatches_checkEquivalent (t : TokenTable) (role : String) (a b : TokenRun) :
    Mismatches (TokenRun.checkEquivalent t role a b) := by
  unfold TokenRun.checkEquivalent
  split
  · exact .pure _
  · exact .throw rfl

theorem mismatches_combine_field (a b : FieldUnparser) : Mismatches (a.combine lex b) := by
  simp only [FieldUnparser.combine]
  split
  · exact .throw rfl
  split
  · exact .pure _
  split
  · exact .pure _
  · exact (mismatches_checkEquivalent ..).bind fun _ =>
      (mismatches_checkEquivalent ..).bind fun _ => .pure _

theorem mismatches_combineFields (as bs : List FieldUnparser) :
    Mismatches (RegularUnparser.combineFields lex as bs) := by
  induction as generalizing bs with
  | nil => exact .pure _
  | cons a as ih =>
    cases bs with
    | nil => exact .pure _
    | cons b bs => exact (mismatches_combine_field a b).bind fun _ => (ih bs).bind fun _ => .pure _

theorem mismatches_checkInter (fields : List FieldUnparser) (as bs : List TokenRun) :
    Mismatches (RegularUnparser.checkInter lex fields as bs) := by
  induction fields generalizing as bs with
  | nil => exact .pure _
  | cons field fields ih =>
    cases as with
    | nil => exact .pure _
    | cons a as =>
      cases bs with
      | nil => exact .pure _
      | cons b bs => exact (mismatches_checkEquivalent ..).bind fun _ => ih as bs

theorem mismatches_combine_regular (a b : RegularUnparser) : Mismatches (a.combine lex b) := by
  simp only [RegularUnparser.combine]
  split
  · exact .throw rfl
  · exact (mismatches_checkEquivalent ..).bind fun _ => (mismatches_checkInter ..).bind fun _ =>
      (mismatches_checkEquivalent ..).bind fun _ => (mismatches_combineFields ..).bind fun _ =>
        .pure _

theorem mismatches_combine_list (a b : ListUnparser) : Mismatches (a.combine lex b) := by
  unfold ListUnparser.combine
  split
  · exact .pure _
  · exact .throw rfl

theorem mismatches_combine (a b : NodeUnparser) : Mismatches (a.combine lex b) := by
  unfold NodeUnparser.combine
  split
  · exact .pure _
  · exact .pure _
  · split
    · exact (mismatches_combine_regular ..).map _
    · exact .throw rfl
  · split
    · exact (mismatches_combine_list ..).map _
    · exact .throw rfl
  · split
    · exact .pure _
    · exact .throw rfl
  · exact .throw rfl

/-- **Combining fails because of the unparsers combined only.** -/
theorem mismatches_foldlM_combine (first : NodeUnparser) (others : List NodeUnparser) :
    Mismatches (others.foldlM (NodeUnparser.combine lex) first) := by
  induction others generalizing first with
  | nil => exact .pure _
  | cons second others ih => exact (mismatches_combine first second).bind ih

end Unparsing
