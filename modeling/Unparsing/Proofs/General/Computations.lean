import Mathlib.Data.List.Basic

/-!
# Proofs/General/Computations — computations that can fail

A computation that runs steps one after the other succeeds if all of them do, and fails with the
first one that fails.  Here this is said once for each sort of computation:

* `Except ε` — there is a result or a failure (`except_bind_eq_ok`, `except_bind_eq_error`);
* `EStateM ε σ` — there is a state, too, and a failure keeps it (`estate_bind_eq_ok`,
  `estate_bind_eq_error`); what every step of a loop does to the state, the loop does
  (`stateAfter_forM`);
* `Option` — a loop over a list whose steps all have results is the loop of the results
  (`allM_eq_some`, …);
* `Limited ε σ` — a computation of the second sort that may also be broken off, and then has no
  outcome at all.
-/

namespace Unparsing

/-! ## Results and failures -/

section Results

variable {ε α β : Type} {x : Except ε α}

/-- Two steps succeed if the first one does, and the second one with its result. -/
theorem except_bind_eq_ok {f : α → Except ε β} {b : β} :
    (x >>= f) = .ok b ↔ ∃ a, x = .ok a ∧ f a = .ok b := by
  cases x <;> simp [bind, Except.bind]

/-- Two steps fail if the first one does, or the second one with its result. -/
theorem except_bind_eq_error {f : α → Except ε β} {e : ε} :
    (x >>= f) = .error e ↔ x = .error e ∨ ∃ a, x = .ok a ∧ f a = .error e := by
  cases x <;> simp [bind, Except.bind]

/-- A result that is changed afterwards was there. -/
theorem except_map_eq_ok {f : α → β} {b : β} : f <$> x = .ok b ↔ ∃ a, x = .ok a ∧ f a = b := by
  cases x <;> simp [Functor.map, Except.map]

/-- A failure is not changed afterwards. -/
theorem except_map_eq_error {f : α → β} {e : ε} : f <$> x = .error e ↔ x = .error e := by
  cases x <;> simp [Functor.map, Except.map]

/-- What succeeds under a condition, with one result, and under no other. -/
theorem except_eq_ok_iff {P : Prop} {a b : α} (ok : P → x = .ok a) (of_ok : x = .ok b → P) :
    x = .ok b ↔ P ∧ b = a := by
  constructor
  · intro h
    have holds := of_ok h
    exact ⟨holds, Except.ok.inj (h.symm.trans (ok holds))⟩
  · rintro ⟨holds, rfl⟩
    exact ok holds

variable {r : Except ε α × β}

/-- A derivation without a result failed. -/
theorem eq_error_of_isNone (missing : r.1.toOption.isNone = true) : ∃ e, r = (.error e, r.2) := by
  obtain ⟨e | _, b⟩ := r
  · exact ⟨e, rfl⟩
  · cases missing

/-- A derivation whose result is there went through. -/
theorem eq_ok_of_isSome (there : r.1.toOption.isSome = true) : ∃ a, r = (.ok a, r.2) := by
  obtain ⟨_ | a, b⟩ := r
  · cases there
  · exact ⟨a, rfl⟩

/-- A derivation whose result is known to have a property went through. -/
theorem exists_ok_of_any {P : α → Bool} (any : r.1.toOption.any P = true) :
    ∃ a, r.1 = .ok a ∧ P a = true := by
  obtain ⟨_ | a, b⟩ := r
  · cases any
  · exact ⟨a, rfl, any⟩

end Results

/-! ## Computations with a state -/

section States

variable {ε σ α β : Type} {x : EStateM ε σ α} {k : α → EStateM ε σ β} {s s'' : σ}

/-- Two steps succeed if the first one does, and the second one from the state it leaves. -/
theorem estate_bind_eq_ok {b : β} :
    (x >>= k) s = .ok b s'' ↔ ∃ a s', x s = .ok a s' ∧ k a s' = .ok b s'' := by
  simp only [bind, EStateM.bind]
  cases x s <;> simp [and_assoc]

/-- Two steps fail if the first one does, or the second one from the state it leaves. -/
theorem estate_bind_eq_error {e : ε} :
    (x >>= k) s = .error e s'' ↔
      x s = .error e s'' ∨ ∃ a s', x s = .ok a s' ∧ k a s' = .error e s'' := by
  simp only [bind, EStateM.bind]
  cases x s <;> simp [and_assoc]

/-- The result of a computation that succeeds, the state left out. -/
theorem estate_run'_eq_some {a : α} : x.run' s = some a ↔ ∃ s', x s = .ok a s' := by
  delta EStateM.run' EStateM.run
  cases x s <;> simp

/-- A loop that fails does so at one of its steps. -/
theorem exists_error_of_forM {step : α → EStateM ε σ Unit} {as : List α} {e : ε}
    (run : forM as step s = .error e s'') : ∃ a ∈ as, ∃ s', step a s' = .error e s'' := by
  induction as generalizing s with
  | nil => cases run
  | cons a as ih =>
    obtain first | ⟨⟨⟩, s', -, later⟩ := estate_bind_eq_error.mp run
    · exact ⟨a, List.mem_cons_self, s, first⟩
    · obtain ⟨b, hb, failed⟩ := ih later
      exact ⟨b, List.mem_cons_of_mem a hb, failed⟩

/-- The state that a computation leaves, also where it fails. -/
def stateAfter (x : EStateM ε σ α) (s : σ) : σ :=
  match x s with
  | .ok _ s' | .error _ s' => s'

theorem stateAfter_of_ok {a : α} {s' : σ} (h : x s = .ok a s') : stateAfter x s = s' := by
  rw [stateAfter, h]

theorem stateAfter_of_error {e : ε} {s' : σ} (h : x s = .error e s') : stateAfter x s = s' := by
  rw [stateAfter, h]

/-- Two steps leave the state that the second one leaves, if there is a second one. -/
theorem stateAfter_bind : stateAfter (x >>= k) s =
    match x s with
    | .ok a s' => stateAfter (k a) s'
    | .error _ s' => s' := by
  simp only [stateAfter, bind, EStateM.bind]
  cases x s <;> rfl

/-- **What every step of a loop keeps, the loop keeps**, also where it fails. -/
theorem stateAfter_forM {R : σ → σ → Prop} (refl : ∀ s, R s s)
    (trans : ∀ {s s' s''}, R s s' → R s' s'' → R s s'') {step : α → EStateM ε σ Unit}
    (keeps : ∀ a s, R s (stateAfter (step a) s)) (as : List α) (s : σ) :
    R s (stateAfter (forM as step) s) := by
  induction as generalizing s with
  | nil => exact refl s
  | cons a as ih =>
    have first := keeps a s
    change R s (stateAfter (step a >>= fun _ => forM as step) s)
    rw [stateAfter_bind]
    cases run : step a s with
    | ok _ s' =>
      rw [stateAfter_of_ok run] at first
      exact trans first (ih s')
    | error _ s' =>
      rw [stateAfter_of_error run] at first
      exact first

end States

/-! ## Loops whose steps may have no result -/

section Loops

variable {α β γ : Type} {as : List α}

/-- Whether all elements pass, where every question has an answer. -/
theorem allM_eq_some {f : α → Option Bool} {b : α → Bool} (h : ∀ a ∈ as, f a = some (b a)) :
    as.allM f = some (as.all b) := by
  induction as with
  | nil => rfl
  | cons a as ih =>
    rw [List.forall_mem_cons] at h
    rw [List.allM, h.1, List.all_cons]
    cases b a with
    | true => exact ih h.2
    | false => rfl

/-- Whether any element passes, where every question has an answer. -/
theorem anyM_eq_some {f : α → Option Bool} {b : α → Bool} (h : ∀ a ∈ as, f a = some (b a)) :
    as.anyM f = some (as.any b) := by
  induction as with
  | nil => rfl
  | cons a as ih =>
    rw [List.forall_mem_cons] at h
    rw [List.anyM, h.1, List.any_cons]
    cases b a with
    | true => rfl
    | false => exact ih h.2

/-- The first element that passes, found by the names of the elements. -/
theorem findM?_eq_some {f : β → Option Bool} {i : α → β} {b : α → Bool}
    (h : ∀ a ∈ as, f (i a) = some (b a)) : (as.map i).findM? f = some ((as.find? b).map i) := by
  induction as with
  | nil => rfl
  | cons a as ih =>
    rw [List.forall_mem_cons] at h
    rw [List.map_cons, List.findM?, h.1, List.find?_cons]
    cases b a with
    | true => rfl
    | false => exact ih h.2

/-- What belongs to each of the elements, looked up by their names. -/
theorem mapM_eq_some {f : β → Option γ} {i : α → β} {b : α → γ}
    (h : ∀ a ∈ as, f (i a) = some (b a)) : (as.map i).mapM f = some (as.map b) := by
  induction as with
  | nil => rfl
  | cons a as ih =>
    rw [List.forall_mem_cons] at h
    rw [List.map_cons, List.mapM_cons, h.1, ih h.2]
    rfl

/-- What is looked up and found. -/
theorem stateT_lift_some_bind {σ α β : Type} (a : α) (k : α → StateT σ Option β) :
    (liftM (some a) >>= k) = k a := rfl

end Loops

/-! ## Computations that may be broken off -/

/-- A computation that may fail, and that has no outcome at all if it is broken off. -/
abbrev Limited (ε σ : Type) := ExceptT ε (StateT σ Option)

namespace Limited

variable {ε σ α β : Type}

/-- A computation that is not broken off. -/
def returns (m : EStateM ε σ α) : Limited ε σ α := fun s =>
  some (match m s with
    | .ok a s' => (.ok a, s')
    | .error e s' => (.error e, s'))

instance : MonadLift (EStateM ε σ) (Limited ε σ) := ⟨returns⟩

/-- A computation that is broken off. -/
def brokenOff : Limited ε σ α := fun _ => none

theorem returns_pure (a : α) : returns (pure a : EStateM ε σ α) = pure a := rfl

/-- Steps that are not broken off make a computation that is not. -/
theorem returns_bind (m : EStateM ε σ α) (k : α → EStateM ε σ β) :
    returns (m >>= k) = (returns m >>= fun a => returns (k a)) := by
  funext s
  simp only [returns, bind, EStateM.bind, ExceptT.bind, ExceptT.mk, StateT.bind, Option.bind]
  cases m s <;> rfl

theorem returns_eq_ok {m : EStateM ε σ α} {s s' : σ} {a : α} :
    returns m s = some (.ok a, s') ↔ m s = .ok a s' := by
  rw [returns]
  cases m s <;> simp

theorem returns_eq_error {m : EStateM ε σ α} {s s' : σ} {e : ε} :
    returns m s = some (.error e, s') ↔ m s = .error e s' := by
  rw [returns]
  cases m s <;> simp

/-- What comes after a computation that is not broken off starts where that has ended. -/
theorem returns_bind_apply (m : EStateM ε σ α) (k : α → Limited ε σ β) (s : σ) :
    (returns m >>= k) s =
      match m s with
      | .ok a s' => k a s'
      | .error e s' => some (.error e, s') := by
  simp only [returns, bind, ExceptT.bind, ExceptT.mk, StateT.bind, Option.bind]
  cases m s <;> rfl

/-- A loop is not broken off if no step of it is. -/
theorem returns_forM {as : List α} {f : α → Limited ε σ PUnit} {m : α → EStateM ε σ PUnit}
    (each : ∀ a ∈ as, f a = returns (m a)) : forM as f = returns (forM as m) := by
  induction as with
  | nil => rfl
  | cons a as ih =>
    rw [List.forall_mem_cons] at each
    rw [List.forM_cons, List.forM_cons, each.1, ih each.2, returns_bind]

/-- What is looked up and found. -/
theorem lift_some_bind (a : α) (k : α → Limited ε σ β) : (liftM (some a) >>= k) = k a := rfl

end Limited

end Unparsing
