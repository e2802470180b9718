import Mathlib.Data.List.Forall2
import Unparsing.Proofs.Grammar.Agreement

/-!
# Proofs/Grammar/Pairs — what it says of two parsers that they agree

Parsers of one kind agree slot by slot (`Grammar.agreeAt_slots`), and tokens in their kind
(`Grammar.tokenKind?_of_agreeAt`).  Parsers of two kinds agree only in that both create nodes
(`Grammar.resolvesToNode_of_agreeAt`), and producers of two kinds not at all.
-/

namespace Unparsing

namespace Parser

variable {p q : Parser}

theorem isNull_eq_of_kind (h : p.kind = q.kind) : p.isNull = q.isNull := by
  cases p <;> cases q <;> first | rfl | cases h

theorem slots_of_isNull (h : p.isNull = true) : p.slots = [] := by
  cases p <;> first | rfl | cases h

end Parser

namespace Ruling

variable {p q : Parser}

theorem of_token {id id' : ParserId} {kind kind' : KindId} {text text' : Option String} :
    Ruling.of (.token id kind text) [.token id' kind' text'] = .settled (kind' == kind) := by
  simp [Ruling.of, Parser.kind, Parser.isTokenOf]

end Ruling

namespace Grammar

open Unparsing.Parser (comparable column)

variable {g : Grammar} {toplevel : Bool} {p q : Parser}

/-- Only what takes part in a comparison matters to it. -/
theorem agreeAt_congr {ps qs : List Parser} (h : comparable ps = comparable qs) :
    g.agreeAt toplevel ps = g.agreeAt toplevel qs := by
  match several : comparable qs with
  | [] | [_] =>
    rw [agreeAt_of_length_le (by simp [h, several]), agreeAt_of_length_le (by simp [several])]
  | p :: q :: rest =>
    rw [agreeAt_of_comparable (h.trans several), agreeAt_of_comparable several, h]

theorem agreeAt_dontSkip_left {id : ParserId} :
    g.agreeAt toplevel [.dontSkip id p, q] = g.agreeAt toplevel [p, q] := agreeAt_congr rfl

theorem agreeAt_dontSkip_right {id : ParserId} :
    g.agreeAt toplevel [p, .dontSkip id q] = g.agreeAt toplevel [p, q] := agreeAt_congr rfl

/-- The comparison of two parsers neither of which is an absent node. -/
theorem agreeAt_pair (hp : p.strip.isNull = false) (hq : q.strip.isNull = false) :
    g.agreeAt toplevel [p, q] =
      match Ruling.of p.strip [q.strip] with
      | .settled agree => agree
      | .byCreation => !toplevel && (g.resolvesToNode p.strip && g.resolvesToNode q.strip)
      | .slotwise => q.strip.slots.length == p.strip.slots.length &&
          (List.range p.strip.slots.length).all fun slot =>
            g.agreeAt false (column [p.strip, q.strip] slot) := by
  have both : comparable [p, q] = [p.strip, q.strip] := by simp [comparable, hp, hq]
  rw [agreeAt_of_comparable both, both]
  cases Ruling.of p.strip [q.strip] <;> simp only [List.all_cons, List.all_nil, Bool.and_true]

/-- **Parsers of one kind that agree do so slot by slot.** -/
theorem agreeAt_slots (h : g.agreeAt toplevel [p, q] = true) (kinds : p.strip.kind = q.strip.kind) :
    List.Forall₂ (fun x y => g.agreeAt false [x, y] = true) p.strip.slots q.strip.slots := by
  cases absent : p.strip.isNull with
  | true =>
    rw [Parser.slots_of_isNull absent,
      Parser.slots_of_isNull ((Parser.isNull_eq_of_kind kinds).symm.trans absent)]
    exact .nil
  | false =>
    rw [agreeAt_pair absent ((Parser.isNull_eq_of_kind kinds).symm.trans absent)] at h
    have alike : [q.strip].all (·.kind == p.strip.kind) = true := by simp [kinds]
    obtain slotwise | differ | slotless := Ruling.of_alike alike
    · rw [slotwise, Bool.and_eq_true, beq_iff_eq, List.all_eq_true] at h
      refine List.forall₂_iff_get.mpr ⟨h.1.symm, fun i hp hq => ?_⟩
      simpa [column, hp, hq] using h.2 i (List.mem_range.mpr hp)
    · rw [differ] at h
      cases h
    · rw [slotless _ List.mem_cons_self, slotless _ (List.mem_cons_of_mem _ List.mem_cons_self)]
      exact .nil

/-- Tokens that agree are of one kind. -/
theorem tokenKind?_of_agreeAt (h : g.agreeAt toplevel [p, q] = true)
    (kinds : p.strip.kind = q.strip.kind) : p.strip.tokenKind? = q.strip.tokenKind? := by
  cases hp : p.strip with
  | token id kind text =>
    rw [hp] at kinds
    cases hq : q.strip with
    | token id' kind' text' =>
      rw [agreeAt_pair (by rw [hp]; rfl) (by rw [hq]; rfl), hp, hq, Ruling.of_token] at h
      rw [Parser.tokenKind?, Parser.tokenKind?, beq_iff_eq.mp h]
    | _ =>
      rw [hq] at kinds
      cases kinds
  | _ =>
    rw [hp] at kinds
    cases hq : q.strip <;> first | rfl | (rw [hq] at kinds; cases kinds)

/-- **Parsers of two kinds that agree** create nodes, and are not at the top level. -/
theorem resolvesToNode_of_agreeAt (h : g.agreeAt toplevel [p, q] = true)
    (hp : p.strip.isNull = false) (hq : q.strip.isNull = false)
    (kinds : p.strip.kind ≠ q.strip.kind) :
    toplevel = false ∧ g.resolvesToNode p.strip = true ∧ g.resolvesToNode q.strip = true := by
  have mixed : [q.strip].all (·.kind == p.strip.kind) = false := by simp [Ne.symm kinds]
  simpa [agreeAt_pair hp hq, Ruling.of_mixed mixed] using h

end Grammar

end Unparsing
