import Unparsing.Proofs.Derivation.Written

/-!
# Proofs/History — a derivation does not depend on what was derived before

The tokens that a derivation writes are numbered by a table, which is filled by all derivations
before it.  Nothing else remains of them: over any two tables a derivation ends in the same way
(`Grammar.same_on_any_history`).  It leaves every number as it is, and, repeated on the table that
it leaves, has the very same unparser.
-/

namespace Unparsing

open TokenTable

variable {g : Grammar} {t t₁ t₂ : TokenTable}

/-- A table filled by interning tokens, one after the other, whether they have a wording or not. -/
inductive TokenTable.Filled (ks : TokenKinds) : TokenTable → Prop
  | empty : Filled ks {}
  | intern {t : TokenTable} (kind : KindId) (text : Option String) :
      Filled ks t → Filled ks (stateAfter (TokenTable.intern ks (.of kind text)) t)

/-- A table filled by interning has for each token the text that its kind and identity give. -/
theorem TokenTable.Filled.faithful {ks : TokenKinds} (h : t.Filled ks) : t.Faithful ks := by
  induction h with
  | empty => exact faithful_empty ks
  | intern kind text _ ih => exact (Interning.Stepwise.intern kind text).faithful ih

namespace Grammar

/-- **A derivation does not depend on history.**  On any two tables it fails with the same problem,
or has the same unparser but for the numbers of the tokens.  Also where it fails, it only adds to
the table, so every number keeps its token.  An unparser writes tokens of the table left, on which
it is derived again, with the very same numbers and nothing new. -/
theorem same_on_any_history (h₁ : t₁.Filled g.kinds) (h₂ : t₂.Filled g.kinds) (node : NodeId)
    (p : Parser) :
    ((∃ u₁ u₂ t₁' t₂', g.deriveNode node p t₁ = .ok u₁ t₁' ∧ g.deriveNode node p t₂ = .ok u₂ t₂' ∧
        u₁.Alike (SameToken t₁' t₂') u₂) ∨
      ∃ e t₁' t₂', g.deriveNode node p t₁ = .error e t₁' ∧
        g.deriveNode node p t₂ = .error e t₂') ∧
    (t₁.Extends (stateAfter (g.deriveNode node p) t₁) ∧
      ∀ i x, t₁.get? i = some x → (stateAfter (g.deriveNode node p) t₁).get? i = some x) ∧
    ∀ u t₁', g.deriveNode node p t₁ = .ok u t₁' →
      (∀ i ∈ u.tokens, (t₁'.get? i).isSome = true) ∧ g.deriveNode node p t₁' = .ok u t₁' := by
  have grown := (stepwise_deriveNode (g := g) node p).grows t₁
  refine ⟨?_, ⟨grown, fun i x => grown.get?⟩, fun u t₁' run => ⟨fun i hi => ?_, ?_⟩⟩
  · obtain ⟨u₁, u₂, t₁', t₂', run₁, run₂, -, same⟩ | ⟨e, t₁', t₂', run₁, run₂, -⟩ :=
      oblivious_deriveNode node p h₁.faithful h₂.faithful
    · exact .inl ⟨u₁, u₂, t₁', t₂', run₁, run₂, same⟩
    · exact .inr ⟨e, t₁', t₂', run₁, run₂⟩
  · exact isSome_get?_of_deriveNode h₁.faithful run hi
  · exact deriveNode_rerun run (.refl t₁')

end Grammar

/-! ## Marks

A unit is written as two marks, of which the second may have been met before. -/

namespace Marks

open Grammar

/-- The token `.`. -/
def dot : Parser := .token ⟨0⟩ ⟨1⟩ none
/-- The token `,`. -/
def comma : Parser := .token ⟨1⟩ ⟨2⟩ none
/-- A unit, written as a dot and a comma. -/
def unit : Parser := .transform ⟨3⟩ ⟨0⟩ ⟨2⟩ [dot, comma]

/-- Units, dots and commas. -/
def grammar : Grammar where
  nodes := (({} : NodeTypes).declare "Unit" none {}).2
  kinds := (({} : TokenKinds).declareLiteral "Dot" "." |>.2.declareLiteral "Comma" ",").2

/-- The unparser of a unit that is written as a run. -/
def written (pre : TokenRun) : NodeUnparser :=
  .regular { node := ⟨0⟩, pre, fields := [], inter := [], post := [] }

/-- The dot, as it stands in a table. -/
def dotMark : TokenUnparser := ⟨⟨⟨1⟩, none⟩, "."⟩
/-- The comma, as it stands in a table. -/
def commaMark : TokenUnparser := ⟨⟨⟨2⟩, none⟩, ","⟩

/-- The table in which the comma has been met. -/
def met : TokenTable := { tokens := #[commaMark] }

/-- The table in which the dot was met first. -/
def dotFirst : TokenTable := { tokens := #[dotMark, commaMark] }
/-- The table in which the comma was met first. -/
def commaFirst : TokenTable := { tokens := #[commaMark, dotMark] }

/-- The table in which the comma was met is filled by interning. -/
theorem filled_met : met.Filled grammar.kinds := by
  have interned : stateAfter (TokenTable.intern grammar.kinds (.of ⟨2⟩ none)) {} = met := by
    with_unfolding_all rfl
  exact interned ▸ .intern ⟨2⟩ none .empty

/-- In each of two tables a unit is written as a dot and a comma, under different numbers; once
more, it is written under the same ones. -/
theorem same_on_any_history_of_unit :
    grammar.deriveNode ⟨0⟩ unit {} = .ok (written [⟨0⟩, ⟨1⟩]) dotFirst ∧
    grammar.deriveNode ⟨0⟩ unit met = .ok (written [⟨1⟩, ⟨0⟩]) commaFirst ∧
    (written [⟨0⟩, ⟨1⟩]).Alike (SameToken dotFirst commaFirst) (written [⟨1⟩, ⟨0⟩]) ∧
    grammar.deriveNode ⟨0⟩ unit dotFirst = .ok (written [⟨0⟩, ⟨1⟩]) dotFirst := by
  have run : grammar.deriveNode ⟨0⟩ unit {} = .ok (written [⟨0⟩, ⟨1⟩]) dotFirst :=
    Derivation.attempt_eq_derived.mp (by decide +kernel)
  have run' : grammar.deriveNode ⟨0⟩ unit met = .ok (written [⟨1⟩, ⟨0⟩]) commaFirst :=
    Derivation.attempt_eq_derived.mp (by decide +kernel)
  obtain ⟨ends, -, again⟩ := same_on_any_history .empty filled_met ⟨0⟩ unit
  obtain ⟨_, _, _, _, run₁, run₂, same⟩ | ⟨_, _, _, run₁, -⟩ := ends
  · cases run.symm.trans run₁
    cases run'.symm.trans run₂
    exact ⟨run, run', same, (again _ _ run).2⟩
  · cases run.symm.trans run₁

end Marks

end Unparsing
