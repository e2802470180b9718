import Mathlib.Data.List.Flatten
import Mathlib.Data.List.Forall2

/-!
# Proofs/General/Lists — lists in step

Two lists are in step if they have the same length and corresponding elements are related
(`List.Forall₂`); optional values are, if both are there and related, or neither is (`Option.Rel`).
Most of what is said of two tables, two unparsers or two grammars is said place by place, and comes
down to the facts here:

* a relation is weakened (`forall₂_imp_mem`) or followed by another one (`forall₂_comp`);
* an element has its counterpart (`exists_mem_of_forall₂`, `optionRel_getElem?`);
* two lists are cut at corresponding places (`forall₂_append_cons`).
-/

namespace Unparsing

variable {α β γ δ : Type} {R : α → β → Prop} {as as' : List α} {bs bs' : List β} {a : α} {b : β}

/-! ## Optional values in step -/

/-- Related values are related more weakly, too. -/
theorem optionRel_mono {S : α → β → Prop} (h : ∀ a b, R a b → S a b) {a : Option α} {b : Option β}
    (hR : Option.Rel R a b) : Option.Rel S a b := by
  cases hR with
  | some hab => exact .some (h _ _ hab)
  | none => exact .none

/-- Two steps in one. -/
theorem optionRel_comp {S : β → γ → Prop} {Q : α → γ → Prop} (h : ∀ a b c, R a b → S b c → Q a c)
    {a : Option α} {b : Option β} {c : Option γ} (hR : Option.Rel R a b) (hS : Option.Rel S b c) :
    Option.Rel Q a c := by
  cases hR with
  | some hab =>
    cases hS with
    | some hbc => exact .some (h _ _ _ hab hbc)
  | none =>
    cases hS
    exact .none

/-- Of two values in step, both are there or neither is. -/
theorem isSome_eq_of_optionRel {a : Option α} {b : Option β} (h : Option.Rel R a b) :
    a.isSome = b.isSome := by
  cases h <;> rfl

/-! ## Lists in step -/

/-- Lists in step are related more weakly, too, where only elements of the lists matter. -/
theorem forall₂_imp_mem {S : α → β → Prop} (h : List.Forall₂ R as bs)
    (imp : ∀ a ∈ as, ∀ b ∈ bs, R a b → S a b) : List.Forall₂ S as bs := by
  induction h with
  | nil => exact .nil
  | cons hab _ ih =>
    refine .cons (imp _ List.mem_cons_self _ List.mem_cons_self hab) (ih fun a ha b hb => ?_)
    exact imp a (List.mem_cons_of_mem _ ha) b (List.mem_cons_of_mem _ hb)

/-- **Two steps in one**, place by place. -/
theorem forall₂_comp {S : β → γ → Prop} {Q : α → γ → Prop} (h : ∀ a b c, R a b → S b c → Q a c)
    {cs : List γ} (hR : List.Forall₂ R as bs) (hS : List.Forall₂ S bs cs) :
    List.Forall₂ Q as cs := by
  induction hR generalizing cs with
  | nil =>
    cases hS
    exact .nil
  | cons hab _ ih =>
    cases hS with
    | cons hbc hS => exact .cons (h _ _ _ hab hbc) (ih hS)

/-- Two lists in step, each with one of two others that are in step. -/
theorem forall₂_of_named {R : α → γ → Prop} {S : γ → δ → Prop} {T : β → δ → Prop}
    {Q : α → β → Prop} {cs : List γ} {ds : List δ} (h : ∀ a c d b, R a c → S c d → T b d → Q a b)
    (hR : List.Forall₂ R as cs) (hS : List.Forall₂ S cs ds) (hT : List.Forall₂ T bs ds) :
    List.Forall₂ Q as bs := by
  have left : List.Forall₂ (fun a d => ∃ c, R a c ∧ S c d) as ds :=
    forall₂_comp (fun a c d hac hcd => ⟨c, hac, hcd⟩) hR hS
  exact forall₂_comp (fun a d b ⟨c, hac, hcd⟩ hbd => h a c d b hac hcd hbd) left hT.flip

/-- **What stands in one list has its counterpart in the other.** -/
theorem exists_mem_of_forall₂ (h : List.Forall₂ R as bs) (ha : a ∈ as) : ∃ b ∈ bs, R a b := by
  obtain ⟨i, hi⟩ := List.mem_iff_getElem?.mp ha
  obtain ⟨lt, rfl⟩ := List.getElem?_eq_some_iff.mp hi
  have lt' : i < bs.length := h.length_eq ▸ lt
  exact ⟨bs[i], List.getElem_mem lt', List.Forall₂.get h lt lt'⟩

/-- What is looked up in lists in step is in step. -/
theorem optionRel_getElem? (h : List.Forall₂ R as bs) (i : Nat) : Option.Rel R as[i]? bs[i]? := by
  induction h generalizing i with
  | nil => exact .none
  | cons hab _ ih =>
    cases i with
    | zero => exact .some hab
    | succ i => exact ih i

/-- Of two lists in step, both are empty or neither is. -/
theorem isEmpty_eq_of_forall₂ (h : List.Forall₂ R as bs) : as.isEmpty = bs.isEmpty := by
  cases h <;> rfl

/-- Lists in step remain so without their last elements. -/
theorem forall₂_dropLast (h : List.Forall₂ R as bs) : List.Forall₂ R as.dropLast bs.dropLast := by
  rw [List.dropLast_eq_take, List.dropLast_eq_take, h.length_eq]
  exact List.forall₂_take _ h

/-- The last elements of lists in step are related; for empty lists, what stands for them is. -/
theorem forall₂_getLast?_getD {R : α → α → Prop} {as bs : List α} {z : α}
    (h : List.Forall₂ R as bs) (hz : R z z) : R (as.getLast?.getD z) (bs.getLast?.getD z) := by
  have back : List.Forall₂ R as.reverse bs.reverse := List.rel_reverse h
  rw [← List.head?_reverse, ← List.head?_reverse]
  generalize as.reverse = as' at back ⊢
  generalize bs.reverse = bs' at back ⊢
  cases back with
  | nil => exact hz
  | cons hab _ => exact hab

/-- What related elements have in common, lists in step have in common place by place. -/
theorem map_eq_of_forall₂ {R : α → α → Prop} {f : α → β} {as bs : List α}
    (h : List.Forall₂ R as bs) (same : ∀ {a b}, R a b → f b = f a) : bs.map f = as.map f := by
  induction h with
  | nil => rfl
  | cons head _ tail => rw [List.map_cons, List.map_cons, same head, tail]

/-- **Lists in step are split in the same place** by the first element that does not have a
property, if related elements have it alike. -/
theorem forall₂_append_cons {P : α → Prop} {Q : β → Prop}
    (h : List.Forall₂ R (as ++ a :: as') (bs ++ b :: bs')) (hR : ∀ a b, R a b → (P a ↔ Q b))
    (has : ∀ x ∈ as, P x) (hbs : ∀ y ∈ bs, Q y) (ha : ¬P a) (hb : ¬Q b) :
    List.Forall₂ R as bs ∧ R a b ∧ List.Forall₂ R as' bs' := by
  induction as generalizing bs with
  | nil =>
    cases bs with
    | nil =>
      cases h with
      | cons hab rest => exact ⟨.nil, hab, rest⟩
    | cons y bs =>
      cases h with
      | cons hay _ => exact absurd ((hR _ _ hay).mpr (hbs y List.mem_cons_self)) ha
  | cons x as ih =>
    rw [List.forall_mem_cons] at has
    cases bs with
    | nil =>
      cases h with
      | cons hxb _ => exact absurd ((hR _ _ hxb).mp has.1) hb
    | cons y bs =>
      rw [List.forall_mem_cons] at hbs
      cases h with
      | cons hxy rest =>
        obtain ⟨before, here, after⟩ := ih rest has.2 hbs.2
        exact ⟨.cons hxy before, here, after⟩

/-! ## Parts of lists -/

/-- Two lists put together from parts of two others are equal only part by part. -/
theorem append_inj_of_sublist {as as' bs bs' : List α} (has : as.Sublist as')
    (hbs : bs.Sublist bs') (same : as' ++ bs' = as ++ bs) : as' = as ∧ bs' = bs := by
  have total := congrArg List.length same
  rw [List.length_append, List.length_append] at total
  have first := has.length_le
  have second := hbs.length_le
  exact List.append_inj same (by omega)

/-- So are lists put together from any number of parts. -/
theorem eq_of_flatMap_eq {f h : α → List β} (each : ∀ a ∈ as, (f a).Sublist (h a))
    (same : as.flatMap h = as.flatMap f) : ∀ a ∈ as, h a = f a := by
  induction as with
  | nil => exact nofun
  | cons a as ih =>
    rw [List.forall_mem_cons] at each ⊢
    obtain ⟨first, rest⟩ :=
      append_inj_of_sublist each.1 (List.Sublist.flatMap_right as each.2) same
    exact ⟨first, ih each.2 rest⟩

/-! ## Lists whose elements agree -/

section Agreeing

variable [BEq β] [LawfulBEq β]

/-- **Whether all agree with the first** does not depend on which one is first. -/
theorem all_beq_head_of_perm (f : α → β) {a b : α} {as bs : List α}
    (h : List.Perm (a :: as) (b :: bs)) : as.all (f · == f a) = bs.all (f · == f b) := by
  have key {a b : α} {as bs : List α} (h : List.Perm (a :: as) (b :: bs))
      (all : as.all (f · == f a) = true) : bs.all (f · == f b) = true := by
    have same : ∀ x ∈ a :: as, f x = f a := by
      simpa using all
    rw [List.all_eq_true]
    intro x hx
    rw [beq_iff_eq, same x (h.mem_iff.mpr (List.mem_cons_of_mem b hx)),
      same b (h.mem_iff.mpr List.mem_cons_self)]
  exact Bool.eq_iff_iff.mpr ⟨key h, key h.symm⟩

/-- **What all have in common with the first**, fewer of them have in common with their first. -/
theorem all_beq_head_of_sublist (f : α → β) {a b : α} {as bs : List α}
    (sub : (b :: bs).Sublist (a :: as)) (all : as.all (f · == f a) = true) :
    f b = f a ∧ bs.all (f · == f b) = true := by
  have same : ∀ x ∈ a :: as, f x = f a := by
    simpa using all
  have first : f b = f a := same b (sub.subset List.mem_cons_self)
  refine ⟨first, List.all_eq_true.mpr fun x hx => ?_⟩
  rw [beq_iff_eq, first]
  exact same x (sub.subset (List.mem_cons_of_mem b hx))

end Agreeing

/-! ## Arrays -/

/-- What stands in an array after a change stood there before, or is what was changed. -/
theorem mem_toList_modify {xs : Array α} {i : Nat} {f : α → α} {x : α}
    (h : x ∈ (xs.modify i f).toList) : x ∈ xs.toList ∨ ∃ y ∈ xs.toList, x = f y := by
  obtain ⟨j, hj⟩ := List.mem_iff_getElem?.mp h
  rw [Array.getElem?_toList, Array.getElem?_modify] at hj
  split at hj
  · obtain ⟨y, hy, rfl⟩ := Option.map_eq_some_iff.mp hj
    exact .inr ⟨y, Array.mem_toList_iff.mpr (Array.mem_of_getElem? hy), rfl⟩
  · exact .inl (Array.mem_toList_iff.mpr (Array.mem_of_getElem? hj))

end Unparsing
