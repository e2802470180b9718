import Unparsing.Proofs.General.Computations
import Unparsing.Proofs.Grammar.Built

/-!
# Proofs/Arena/Basic — parsers by their numbers

A parser is known by its number, and what is inside it by theirs.  Whatever was declared, the
parsers inside a parser have smaller numbers (`Grammar.Built.descending`), and the number that a
transform or pick has for its row is that of a row (`Grammar.WellFormed.parser?_row`).

A computation on numbers looks each of them up and may go from there to any other, so nothing in
its form makes it end.  Here such computations are written with a bound on the depth of their calls;
one that would go deeper is broken off (`Limited`).
-/

namespace Unparsing

namespace Grammar

variable {g g' : Grammar} {p q : Parser} {items : List Parser} {rowId : ParserId}

/-! ## Numbers -/

/-- What is inside a parser has smaller numbers. -/
def Descending (g : Grammar) : Prop := ∀ p ∈ g.parsers, ∀ q ∈ p.children, q.id.raw < p.id.raw

/-- The number of a parser is below the count of parsers. -/
theorem WellFormed.id_lt (wf : g.WellFormed) (hp : p ∈ g.parsers) : p.id.raw < g.located.size := by
  have found := wf.numbered p hp
  rw [parser?_eq_getElem?] at found
  exact g.length_parsers ▸ (List.getElem?_eq_some_iff.mp found).1

/-- A new parser has a greater number than what it holds. -/
theorem Descending.add (h : g.Descending) (wf : g.WellFormed) {form : ParserId → Parser}
    (numbered : ∀ id, (form id).id = id) (closed : ∀ id, ∀ q ∈ (form id).children, q ∈ g.parsers) :
    (g.add form).2.Descending := by
  intro p hp q hq
  rw [parsers_add, List.mem_append, List.mem_singleton] at hp
  obtain hp | rfl := hp
  · exact h p hp q hq
  · rw [numbered]
    exact wf.id_lt (closed _ q hq)

/-- A new row, and a new parser around it. -/
theorem Descending.addAround (h : g.Descending) (wf : g.WellFormed)
    (declared : ∀ p ∈ items, p ∈ g.parsers) (form : ParserId → ParserId → Parser)
    (numbered : ∀ rowId id, (form rowId id).id = id)
    (children : ∀ rowId id, (form rowId id).children = [.row rowId items]) :
    ((g.row items).2.add (form (g.row items).1.id)).2.Descending := by
  have row : (g.row items).2.Descending := h.add wf (fun _ => rfl) fun _ => declared
  have wfRow : (g.row items).2.WellFormed :=
    wf.addPlain (fun _ => rfl) (fun _ => declared) fun _ => rfl
  refine row.add wfRow (numbered _) fun id q hq => ?_
  rw [children, List.mem_singleton] at hq
  rw [hq, Grammar.row, parsers_add]
  exact List.mem_append_right _ List.mem_cons_self

/-- **Every declaration leaves the numbers descending.** -/
theorem Step.descending (step : g.Step g') (wf : g.WellFormed) (h : g.Descending) :
    g'.Descending := by
  cases step with
  | row items declared => exact h.add wf (fun _ => rfl) fun _ => declared
  | transform node items typed declared =>
    exact h.addAround wf declared (fun rowId id => .transform id node rowId items)
      (fun _ _ => rfl) fun _ _ => rfl
  | pick items index declared =>
    exact h.addAround wf declared (fun rowId id => .pick id rowId items index) (fun _ _ => rfl)
      fun _ _ => rfl
  | list node element separator typed declared separated =>
    refine h.add wf (fun _ => rfl) fun _ q hq => ?_
    obtain rfl | hq := List.mem_cons.mp hq
    · exact declared
    · exact separated q (Option.mem_toList.mp hq)
  | opt inner declared | optTolerant inner declared | predicate inner property declared
  | dontSkip inner declared | optBool inner alternatives typed declared =>
    exact h.add wf (fun _ => rfl) fun _ => by simpa [Parser.children] using declared
  | choice branches declared => exact h.add wf (fun _ => rfl) fun _ => declared
  | defer | token | null | skip | noBacktrack =>
    exact h.add wf (fun _ => rfl) fun _ => List.forall_mem_nil _
  | setSpan id span => exact fun p hp => h p (parsers_setSpan g id span ▸ hp)
  | fork => exact fun p hp => (List.not_mem_nil hp).elim
  | nodes | kinds | declareRule | defineRule | addRule | addDontSkipRule => exact h

/-- **What is inside a parser has smaller numbers**, whatever was declared. -/
theorem Built.descending (h : g.Built) : g.Descending := by
  induction h with
  | empty => exact fun p hp => (List.not_mem_nil hp).elim
  | step built step ih => exact step.descending built.wellFormed ih

/-- The number of the row that a parser holds is that of the row. -/
theorem WellFormed.parser?_row (wf : g.WellFormed) (hp : p ∈ g.parsers)
    (holds : p.children = [.row rowId items]) : g.parser? rowId = some (.row rowId items) :=
  wf.numbered (.row rowId items) (wf.closed p hp _ (holds ▸ List.mem_cons_self))

/-- A grammar in which numbers lead to parsers with smaller numbers. -/
structure Ordered (g : Grammar) : Prop where
  wf : g.WellFormed
  falls : g.Descending

/-- What is declared step by step is ordered. -/
theorem Built.ordered (h : g.Built) : g.Ordered := ⟨h.wellFormed, h.descending⟩

/-- What is inside a parser is declared, and has a smaller number. -/
theorem Ordered.child (h : g.Ordered) (hp : p ∈ g.parsers) (hq : q ∈ p.children) :
    q ∈ g.parsers ∧ q.id.raw < p.id.raw := ⟨h.wf.closed p hp q hq, h.falls p hp q hq⟩

/-- The items of the row that a parser holds have smaller numbers, too. -/
theorem Ordered.item (h : g.Ordered) (hp : p ∈ g.parsers) (holds : p.children = [.row rowId items])
    (hq : q ∈ items) : q ∈ g.parsers ∧ q.id.raw < p.id.raw := by
  obtain ⟨row, lt⟩ := h.child hp (holds ▸ List.mem_cons_self)
  obtain ⟨declared, less⟩ := h.child row hq
  exact ⟨declared, Nat.lt_trans less lt⟩

end Grammar

end Unparsing
