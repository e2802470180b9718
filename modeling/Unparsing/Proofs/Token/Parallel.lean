import Mathlib.Data.List.Forall2
import Unparsing.Proofs.Token.Table

/-!
# Proofs/Token/Parallel — computations that do not look at the table

An interning computation cannot tell which table it runs on: on two tables it takes the same course
and fails with the same problem, and its two results name the same tokens, by different numbers
(`Interning.Parallel`).  Both tables grow together: what is new in one is in the other as well.

This is stated for two computations at two tables, so that it passes through `bind`: the rest of a
computation is applied to two results that name the same tokens.

* `Interning.Parallel.bind`, `Interning.parallel_intern` — the rules.
* `Interning.Oblivious.transfer` — what a computation does on one table it does on any other.
-/

namespace Unparsing

namespace TokenTable

variable {ks : TokenKinds} {t t' t₁ t₂ t₁' t₂' t₁'' t₂'' : TokenTable} {i j : TokenId}

/-- Two numbers, of two tables, that name the same token. -/
def SameToken (t₁ t₂ : TokenTable) (i j : TokenId) : Prop :=
  ∃ u, t₁.get? i = some u ∧ t₂.get? j = some u

theorem SameToken.mono (left : t₁.Extends t₁') (right : t₂.Extends t₂')
    (h : SameToken t₁ t₂ i j) : SameToken t₁' t₂' i j :=
  let ⟨u, hi, hj⟩ := h
  ⟨u, left.get? hi, right.get? hj⟩

theorem SameToken.text_eq (h : SameToken t₁ t₂ i j) : t₁.text i = t₂.text j :=
  let ⟨_, hi, hj⟩ := h
  (text_of_get? hi).trans (text_of_get? hj).symm

/-- Two tables before and after they have grown by the same tokens. -/
structure GrownTogether (ks : TokenKinds) (t₁ t₂ t₁' t₂' : TokenTable) : Prop where
  left : t₁.Extends t₁'
  right : t₂.Extends t₂'
  faithful_left : t₁'.Faithful ks
  faithful_right : t₂'.Faithful ks
  new_left : ∀ u ∈ t₁'.tokens.toList, u ∈ t₁.tokens.toList ∨ u ∈ t₂'.tokens.toList
  new_right : ∀ u ∈ t₂'.tokens.toList, u ∈ t₂.tokens.toList ∨ u ∈ t₁'.tokens.toList

theorem GrownTogether.refl (h₁ : t₁.Faithful ks) (h₂ : t₂.Faithful ks) :
    GrownTogether ks t₁ t₂ t₁ t₂ :=
  ⟨.refl _, .refl _, h₁, h₂, fun _ => .inl, fun _ => .inl⟩

theorem GrownTogether.trans (h : GrownTogether ks t₁ t₂ t₁' t₂')
    (h' : GrownTogether ks t₁' t₂' t₁'' t₂'') : GrownTogether ks t₁ t₂ t₁'' t₂'' where
  left := h.left.trans h'.left
  right := h.right.trans h'.right
  faithful_left := h'.faithful_left
  faithful_right := h'.faithful_right
  new_left := fun u hu => (h'.new_left u hu).elim
    (fun old => (h.new_left u old).imp_right fun new => h'.right.subset new) .inr
  new_right := fun u hu => (h'.new_right u hu).elim
    (fun old => (h.new_right u old).imp_right fun new => h'.left.subset new) .inr

end TokenTable

open TokenTable

namespace Interning

variable {α β γ δ : Type} {ks : TokenKinds} {t t' T t₁ t₂ : TokenTable}
variable {R : TokenTable → TokenTable → α → β → Prop} {m₁ : Interning α} {m₂ : Interning β}

/-- **Two computations end alike at two tables**: with results related by `R` in the tables reached,
or with the same problem. -/
def Parallel (ks : TokenKinds) (R : TokenTable → TokenTable → α → β → Prop) (t₁ t₂ : TokenTable)
    (m₁ : Interning α) (m₂ : Interning β) : Prop :=
  (∃ a b t₁' t₂', m₁ t₁ = .ok a t₁' ∧ m₂ t₂ = .ok b t₂' ∧ GrownTogether ks t₁ t₂ t₁' t₂' ∧
    R t₁' t₂' a b) ∨
  (∃ e t₁' t₂', m₁ t₁ = .error e t₁' ∧ m₂ t₂ = .error e t₂' ∧ GrownTogether ks t₁ t₂ t₁' t₂')

/-! ## Rules -/

theorem parallel_pure {a : α} {b : β} (h₁ : t₁.Faithful ks) (h₂ : t₂.Faithful ks)
    (h : R t₁ t₂ a b) : Parallel ks R t₁ t₂ (pure a) (pure b) :=
  .inl ⟨a, b, t₁, t₂, rfl, rfl, .refl h₁ h₂, h⟩

theorem parallel_throw (h₁ : t₁.Faithful ks) (h₂ : t₂.Faithful ks) (e : Problem) :
    Parallel ks R t₁ t₂ (throw e) (throw e) :=
  .inr ⟨e, t₁, t₂, rfl, rfl, .refl h₁ h₂⟩

/-- **Sequencing**: the rest runs in the tables that the beginning has reached. -/
theorem Parallel.bind {S : TokenTable → TokenTable → γ → δ → Prop} {k₁ : α → Interning γ}
    {k₂ : β → Interning δ} (h : Parallel ks R t₁ t₂ m₁ m₂)
    (rest : ∀ a b t₁' t₂', GrownTogether ks t₁ t₂ t₁' t₂' → R t₁' t₂' a b →
      Parallel ks S t₁' t₂' (k₁ a) (k₂ b)) :
    Parallel ks S t₁ t₂ (m₁ >>= k₁) (m₂ >>= k₂) := by
  obtain ⟨a, b, t₁', t₂', h₁, h₂, grown, hR⟩ | ⟨e, t₁', t₂', h₁, h₂, grown⟩ := h
  · have run₁ : (m₁ >>= k₁) t₁ = k₁ a t₁' := by simp only [Bind.bind, EStateM.bind, h₁]
    have run₂ : (m₂ >>= k₂) t₂ = k₂ b t₂' := by simp only [Bind.bind, EStateM.bind, h₂]
    obtain ⟨c, d, t₁'', t₂'', hc, hd, grown', hS⟩ | ⟨e, t₁'', t₂'', hc, hd, grown'⟩ :=
      rest a b t₁' t₂' grown hR
    · exact .inl ⟨c, d, t₁'', t₂'', run₁.trans hc, run₂.trans hd, grown.trans grown', hS⟩
    · exact .inr ⟨e, t₁'', t₂'', run₁.trans hc, run₂.trans hd, grown.trans grown'⟩
  · exact .inr ⟨e, t₁', t₂', by simp only [Bind.bind, EStateM.bind, h₁],
      by simp only [Bind.bind, EStateM.bind, h₂], grown⟩

theorem Parallel.grows {a : α} (h : Parallel ks R t t₂ m₁ m₂) (run : m₁ t = .ok a t') :
    t.Extends t' ∧ t'.Faithful ks := by
  obtain ⟨_, _, _, _, hrun, _, grown, _⟩ | ⟨_, _, _, hrun, _, _⟩ := h
  · cases run.symm.trans hrun
    exact ⟨grown.left, grown.faithful_left⟩
  · cases run.symm.trans hrun

/-- Interning one identity in two tables. -/
theorem parallel_intern (h₁ : t₁.Faithful ks) (h₂ : t₂.Faithful ks) (x : TokenIdentity) :
    Parallel ks SameToken t₁ t₂ (intern ks x) (intern ks x) := by
  cases hw : ks.wording x with
  | ok text =>
    obtain ⟨i, t₁', run₁, grown₁, hf₁, hi, new₁⟩ := h₁.intern_of_ok hw
    obtain ⟨j, t₂', run₂, grown₂, hf₂, hj, new₂⟩ := h₂.intern_of_ok hw
    refine .inl ⟨i, j, t₁', t₂', run₁, run₂, ⟨grown₁, grown₂, hf₁, hf₂, ?_, ?_⟩, _, hi, hj⟩
    · intro u hu
      refine (new₁ u hu).imp_right ?_
      rintro rfl
      exact mem_of_get? hj
    · intro u hu
      refine (new₂ u hu).imp_right ?_
      rintro rfl
      exact mem_of_get? hi
  | error fault =>
    exact .inr ⟨_, t₁, t₂, h₁.intern_of_error hw, h₂.intern_of_error hw, .refl h₁ h₂⟩

/-! ## One computation on two tables -/

/-- A computation that cannot tell the table it runs on: its results on two are related by `R`. -/
def Oblivious (ks : TokenKinds) (R : TokenTable → TokenTable → α → α → Prop) (m : Interning α) :
    Prop :=
  ∀ ⦃t₁ t₂⦄, t₁.Faithful ks → t₂.Faithful ks → Parallel ks R t₁ t₂ m m

variable {R : TokenTable → TokenTable → α → α → Prop} {m : Interning α} {a : α} {e : Problem}

/-- A table is a beginning of the one that an oblivious computation leaves. -/
theorem Oblivious.grows (h : Oblivious ks R m) (ht : t.Faithful ks) (run : m t = .ok a t') :
    t.Extends t' ∧ t'.Faithful ks := (h ht ht).grows run

/-- **What an oblivious computation does on one table it does on any other.** -/
theorem Oblivious.transfer (h : Oblivious ks R m) (h₁ : t₁.Faithful ks) (h₂ : t₂.Faithful ks)
    (run : m t₁ = .ok a t') :
    ∃ b t₂', m t₂ = .ok b t₂' ∧ GrownTogether ks t₁ t₂ t' t₂' ∧ R t' t₂' a b := by
  obtain ⟨_, b, _, t₂', hrun, hrun₂, grown, hR⟩ | ⟨_, _, _, hrun, _, _⟩ := h h₁ h₂
  · cases run.symm.trans hrun
    exact ⟨b, t₂', hrun₂, grown, hR⟩
  · cases run.symm.trans hrun

end Interning

end Unparsing
