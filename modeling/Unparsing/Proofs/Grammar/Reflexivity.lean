import Unparsing.Proofs.Grammar.Pairs

/-!
# Proofs/Grammar/Reflexivity — a parser compared with itself

A parser is as good as itself in its kind, its index and its slots.  But a choice or a reference is
not looked into, and is compared even with itself only in that it creates a node.  So a parser
agrees with itself unless it holds a choice or a reference that does not.  The equations below say
so for each form of parser, markers and wrappers included.
-/

namespace Unparsing

/-- How a parser is compared with itself. -/
theorem Ruling.of_self (p : Parser) :
    Ruling.of p [p] =
      match p.kind with
      | .row | .transform | .list | .opt | .pick => .slotwise
      | .token | .noBacktrack => .settled true
      | .choice | .defer | .null | .predicate | .skip | .dontSkip => .byCreation := by
  cases kind : p.kind <;> simp [of_eq, kind]

namespace Grammar

/-- Whether a parser agrees with itself, below the top level. -/
def agreesWithSelf (g : Grammar) (p : Parser) : Bool := g.agreeAt false [p, p]

variable {g : Grammar} {toplevel : Bool} {p : Parser} {id rowId : ParserId} {node : NodeId}
  {items : List Parser} {inner : Parser}

/-- The comparison of a parser with itself. -/
theorem agreeAt_self (unwrapped : p.strip = p) (real : p.isNull = false) :
    g.agreeAt toplevel [p, p] =
      match Ruling.of p [p] with
      | .settled agree => agree
      | .byCreation => !toplevel && g.resolvesToNode p
      | .slotwise => p.slots.all g.agreesWithSelf := by
  rw [agreeAt_pair (unwrapped.symm ▸ real) (unwrapped.symm ▸ real), unwrapped]
  cases Ruling.of p [p] with
  | settled agree => rfl
  | byCreation => simp only [Bool.and_self]
  | slotwise =>
    dsimp only
    rw [beq_self_eq_true, Bool.true_and, Bool.eq_iff_iff, List.all_eq_true, List.all_eq_true]
    have column {slot : Nat} (h : slot < p.slots.length) :
        Parser.column [p, p] slot = [p.slots[slot], p.slots[slot]] := by
      simp [Parser.column, h]
    constructor
    · intro all q hq
      obtain ⟨slot, h, rfl⟩ := List.getElem_of_mem hq
      rw [agreesWithSelf, ← column h]
      exact all slot (List.mem_range.mpr h)
    · intro all slot h
      rw [List.mem_range] at h
      rw [column h]
      exact all _ (List.getElem_mem h)

theorem agreesWithSelf_noBacktrack : g.agreesWithSelf (.noBacktrack id) = true := by
  rw [agreesWithSelf, agreeAt_self rfl rfl, Ruling.of_self]
  rfl

/-! ## What is compared slot by slot -/

/-- **A parser of slots** agrees with itself if all items in them do.  Markers are left out of the
slots, and agree with themselves. -/
theorem agreeAt_self_iff {ps : List Parser} (unwrapped : p.strip = p) (real : p.isNull = false)
    (slotwise : Ruling.of p [p] = .slotwise) (slots : p.slots = ps.filter (!·.isNoBacktrack)) :
    g.agreeAt toplevel [p, p] = true ↔ ∀ q ∈ ps, g.agreesWithSelf q = true := by
  rw [agreeAt_self unwrapped real, slotwise, slots, List.all_eq_true]
  refine ⟨fun all q hq => ?_, fun all q hq => all q (List.mem_filter.mp hq).1⟩
  cases marker : q.isNoBacktrack with
  | false => exact all q (List.mem_filter.mpr ⟨hq, by rw [marker]; rfl⟩)
  | true =>
    cases q with
    | noBacktrack => exact agreesWithSelf_noBacktrack
    | _ => cases marker

/-- A transform agrees with itself if all its items do. -/
theorem agreeAt_self_transform :
    g.agreeAt toplevel [.transform id node rowId items, .transform id node rowId items] = true ↔
      ∀ q ∈ items, g.agreesWithSelf q = true :=
  agreeAt_self_iff rfl rfl (Ruling.of_self _) rfl

theorem agreeAt_self_list {element : Parser} {separator : Option Parser} :
    g.agreeAt toplevel [.list id node element separator, .list id node element separator] = true ↔
      ∀ q ∈ element :: separator.toList, g.agreesWithSelf q = true :=
  agreeAt_self_iff rfl rfl (Ruling.of_self _) rfl

theorem agreeAt_self_optBool {alternatives : BoolAlternatives} :
    g.agreeAt toplevel [.optBool id inner alternatives, .optBool id inner alternatives] = true ↔
      g.agreesWithSelf inner = true :=
  (agreeAt_self_iff rfl rfl (Ruling.of_self _) rfl).trans List.forall_mem_singleton

theorem agreesWithSelf_row :
    g.agreesWithSelf (.row id items) = true ↔ ∀ q ∈ items, g.agreesWithSelf q = true :=
  agreeAt_self_iff rfl rfl (Ruling.of_self _) rfl

theorem agreesWithSelf_pick {index : Nat} :
    g.agreesWithSelf (.pick id rowId items index) = true ↔
      ∀ q ∈ items, g.agreesWithSelf q = true :=
  agreeAt_self_iff rfl rfl (Ruling.of_self _) rfl

theorem agreesWithSelf_opt {tolerant : Bool} :
    g.agreesWithSelf (.opt id inner tolerant) = g.agreesWithSelf inner :=
  Bool.eq_iff_iff.mpr
    ((agreeAt_self_iff rfl rfl (Ruling.of_self _) rfl).trans List.forall_mem_singleton)

/-! ## What is not looked into -/

theorem agreesWithSelf_dontSkip :
    g.agreesWithSelf (.dontSkip id inner) = g.agreesWithSelf inner := agreeAt_congr rfl

theorem agreesWithSelf_token {kind : KindId} {text : Option String} :
    g.agreesWithSelf (.token id kind text) = true := by
  rw [agreesWithSelf, agreeAt_self rfl rfl, Ruling.of_self]
  rfl

theorem agreesWithSelf_null : g.agreesWithSelf (.null id node) = true :=
  agreeAt_of_length_le (Nat.zero_le 1)

/-- A choice agrees with itself if it creates a node; its branches are not compared. -/
theorem agreesWithSelf_choice {branches : List Parser} :
    g.agreesWithSelf (.choice id branches) = g.createsNode (.choice id branches) := by
  rw [agreesWithSelf, agreeAt_self rfl rfl, Ruling.of_self]
  rfl

/-- A reference agrees with itself if the rule's root creates a node. -/
theorem agreesWithSelf_defer {rule : RuleId} :
    g.agreesWithSelf (.defer id rule) = (g.root? rule).any g.createsNode := by
  rw [agreesWithSelf, agreeAt_self rfl rfl, Ruling.of_self]
  rfl

/-- What a row throws away agrees with itself. -/
theorem agreesWithSelf_of_discards (discards : p.discards = true) : g.agreesWithSelf p = true := by
  induction p using Parser.induction with
  | token => exact agreesWithSelf_token
  | noBacktrack => exact agreesWithSelf_noBacktrack
  | row id items ih =>
    rw [Parser.discards_row, List.all_eq_true] at discards
    exact agreesWithSelf_row.mpr fun q hq => ih q hq (discards q hq)
  | opt id inner tolerant ih =>
    rw [agreesWithSelf_opt]
    exact ih discards
  | dontSkip id inner ih =>
    rw [agreesWithSelf_dontSkip]
    exact ih discards
  | _ => cases discards

end Grammar

end Unparsing
