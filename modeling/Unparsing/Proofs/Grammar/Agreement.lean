import Mathlib.Data.List.Perm.Basic
import Unparsing.Grammar.Agreement
import Unparsing.Proofs.General.Lists

/-!
# Proofs/Grammar/Agreement — agreement does not depend on the order of the producers

The comparison takes its first parser as the measure of the others.  What it asks of them is that
all are alike in some respect — kind, index, token, number of slots — and then the choice of the
first does not matter (`all_beq_head_of_perm`).  The columns of slots are again lists of the same
parsers in another order, so the result is the same all the way down (`Grammar.agreeAt_perm`).
-/

namespace Unparsing

open List (Perm)

namespace Parser

/-- The index of a pick. -/
def index? : Parser → Option Nat
  | pick _ _ _ index => some index
  | _ => none

/-- The kind of a token. -/
def tokenKind? : Parser → Option KindId
  | token _ kind _ => some kind
  | _ => none

theorem picksAt_eq (index : Nat) (p : Parser) : p.picksAt index = (p.index? == some index) := by
  cases p <;> simp [picksAt, index?]

theorem isTokenOf_eq (kind : KindId) (p : Parser) :
    p.isTokenOf kind = (p.tokenKind? == some kind) := by
  cases p <;> simp [isTokenOf, tokenKind?]

/-- The parsers that a comparison comes to through a path of slots. -/
def columnAt (ps : List Parser) : (path : List Nat) → List Parser
  | [] => ps
  | slot :: path => columnAt (column (comparable ps) slot) path

/-- The parsers are of one kind, those that take no part in a comparison apart. -/
def Uniform (ps : List Parser) : Prop := ∀ p ∈ comparable ps, ∀ q ∈ comparable ps, p.kind = q.kind

theorem uniform_iff {ps rest : List Parser} {p : Parser} (h : comparable ps = p :: rest) :
    Uniform ps ↔ rest.all (·.kind == p.kind) = true := by
  rw [Uniform, h, List.all_eq_true]
  constructor
  · intro uniform q hq
    exact beq_iff_eq.mpr (uniform q (List.mem_cons_of_mem p hq) p List.mem_cons_self)
  · intro alike
    have same : ∀ q ∈ p :: rest, q.kind = p.kind :=
      List.forall_mem_cons.mpr ⟨rfl, fun q hq => beq_iff_eq.mp (alike q hq)⟩
    exact fun q hq r hr => (same q hq).trans (same r hr).symm

end Parser

namespace Ruling

variable {p q : Parser} {ps qs : List Parser}

/-- The ruling, read off what the parsers have in common with the first. -/
theorem of_eq (p : Parser) (rest : List Parser) :
    Ruling.of p rest =
      if rest.all (·.kind == p.kind) then
        match p.kind with
        | .row | .transform | .list | .opt => slotwise
        | .pick => if rest.all (·.index? == p.index?) then slotwise else settled false
        | .token => settled (rest.all (·.tokenKind? == p.tokenKind?))
        | .noBacktrack => settled true
        | .choice | .defer | .null | .predicate | .skip | .dontSkip => byCreation
      else
        byCreation := by
  unfold Ruling.of
  split
  · cases p <;> simp [Parser.kind, Parser.index?, Parser.tokenKind?, Parser.picksAt_eq,
      Parser.isTokenOf_eq]
  · rfl

theorem of_perm (h : Perm (p :: ps) (q :: qs)) : Ruling.of p ps = Ruling.of q qs := by
  rw [of_eq, of_eq, all_beq_head_of_perm (·.kind) h, all_beq_head_of_perm (·.index?) h,
    all_beq_head_of_perm (·.tokenKind?) h]
  split
  next alike =>
    rw [← all_beq_head_of_perm (·.kind) h, List.all_eq_true] at alike
    have same : q.kind = p.kind := by
      obtain rfl | hq := List.mem_cons.mp (h.mem_iff.mpr List.mem_cons_self)
      · rfl
      · simpa using alike q hq
    rw [same]
  · rfl

/-- Parsers of several kinds are only asked whether they create nodes. -/
theorem of_mixed (mixed : ps.all (·.kind == p.kind) = false) : Ruling.of p ps = .byCreation := by
  simp [Ruling.of, mixed]

/-- Parsers of one kind are compared slot by slot, unless they have no slots. -/
theorem of_alike (alike : ps.all (·.kind == p.kind) = true) :
    Ruling.of p ps = .slotwise ∨ Ruling.of p ps = .settled false ∨ ∀ q ∈ p :: ps, q.slots = [] := by
  have same : ∀ q ∈ p :: ps, q.kind = p.kind := by
    simpa using alike
  rw [of_eq, if_pos alike]
  cases kind : p.kind with
  | row | transform | list | opt => exact .inl rfl
  | pick =>
    dsimp only
    split
    · exact .inl rfl
    · exact .inr (.inl rfl)
  | _ =>
    refine .inr (.inr fun q hq => ?_)
    have := (same q hq).trans kind
    cases q <;> first | rfl | cases this

end Ruling

namespace Grammar

open Unparsing.Parser (comparable column columnAt sizeAll Uniform)

variable {g : Grammar} {toplevel : Bool} {ps qs : List Parser}

theorem agreeAt_of_length_le (h : (comparable ps).length ≤ 1) : g.agreeAt toplevel ps = true := by
  unfold agreeAt
  split
  · rfl
  · rfl
  next p q rest hps => simp [hps] at h

/-- The comparison of several parsers, the lone slot treated as the others. -/
theorem agreeAt_of_comparable {p q : Parser} {rest : List Parser}
    (h : comparable ps = p :: q :: rest) :
    g.agreeAt toplevel ps =
      match Ruling.of p (q :: rest) with
      | .settled agree => agree
      | .byCreation => !toplevel && (comparable ps).all g.resolvesToNode
      | .slotwise => (q :: rest).all (·.slots.length == p.slots.length) &&
          (List.range p.slots.length).all fun slot =>
            g.agreeAt false (column (comparable ps) slot) := by
  conv_lhs => unfold agreeAt
  split
  · simp_all
  · simp_all
  next p' q' rest' h' =>
    cases h.symm.trans h'
    rw [h]
    cases Ruling.of p (q :: rest) with
    | settled agree => rfl
    | byCreation => rfl
    | slotwise =>
      dsimp only
      split
      next same =>
        rw [same, Bool.true_and]
        split
        next one => simp [one]
        next => rfl
      next differ => simp [differ]

/-- **Parsers of several kinds that agree** create nodes, and are not at the top level. -/
theorem resolvesToNode_of_mixed (mixed : ¬Uniform ps) (h : g.agreeAt toplevel ps = true) :
    toplevel = false ∧ ∀ p ∈ comparable ps, g.resolvesToNode p = true := by
  match several : comparable ps with
  | [] | [_] => simp [Uniform, several] at mixed
  | p :: q :: rest =>
    rw [Parser.uniform_iff several, Bool.not_eq_true] at mixed
    simpa [agreeAt_of_comparable several, several, Ruling.of_mixed mixed] using h

/-- **Producers that agree are of one kind.** -/
theorem kind_eq_of_agree (h : g.agree ps = true) {p q : Parser} (hp : p ∈ comparable ps)
    (hq : q ∈ comparable ps) : p.kind = q.kind := by
  by_contra differ
  have mixed : ¬Uniform ps := fun uniform => differ (uniform p hp q hq)
  cases (resolvesToNode_of_mixed mixed h).1

theorem comparable_perm (h : Perm ps qs) : Perm (comparable ps) (comparable qs) :=
  (h.map _).filter _

theorem columnAt_perm (h : Perm ps qs) (path : List Nat) :
    Perm (columnAt ps path) (columnAt qs path) := by
  induction path generalizing ps qs with
  | nil => exact h
  | cons slot path ih => exact ih ((comparable_perm h).filterMap _)

/-- **The comparison does not depend on the order of the parsers.** -/
theorem agreeAt_perm (h : Perm ps qs) : g.agreeAt toplevel ps = g.agreeAt toplevel qs := by
  induction hw : sizeAll ps using Nat.strongRecOn generalizing toplevel ps qs with
  | ind w ih =>
    subst hw
    have perm := comparable_perm h
    match hp : comparable ps, hq : comparable qs with
    | p :: p' :: rest, q :: q' :: rest' =>
      have le := Parser.sizeAll_comparable_le ps
      rw [hp, hq] at perm
      rw [hp] at le
      have columns (slot : Nat) : g.agreeAt false (column (p :: p' :: rest) slot) =
          g.agreeAt false (column (q :: q' :: rest') slot) := by
        have less := Parser.sizeAll_column_lt (List.cons_ne_nil p (p' :: rest)) slot
        exact ih _ (Nat.lt_of_lt_of_le less le) (perm.filterMap _) rfl
      have widths := all_beq_head_of_perm (·.slots.length) perm
      rw [agreeAt_of_comparable hp, agreeAt_of_comparable hq, hp, hq, Ruling.of_perm perm]
      split
      · rfl
      · rw [perm.all_eq]
      · rw [widths]
        cases hall : (q' :: rest').all (·.slots.length == q.slots.length) with
        | false => rfl
        | true =>
          have width : p.slots.length = q.slots.length := by
            obtain rfl | hp := List.mem_cons.mp (perm.mem_iff.mp List.mem_cons_self)
            · rfl
            · simpa using List.all_eq_true.mp hall p hp
          simp only [width, columns]
    | [], [] | [], [_] | [_], [] | [_], [_] =>
      rw [agreeAt_of_length_le (by simp [hp]), agreeAt_of_length_le (by simp [hq])]
    | [], _ :: _ :: _ | [_], _ :: _ :: _ | _ :: _ :: _, [] | _ :: _ :: _, [_] =>
      have length := perm.length_eq
      simp [hp, hq] at length

end Grammar

end Unparsing
