import Unparsing.Proofs.Grammar.Agreement

/-!
# Proofs/Grammar/Fewer — what is left of a comparison when producers are left out

Parsers of one kind are compared by their slots, and parsers of several kinds only in that they
create nodes.  Leave out some of the latter, and the others may be of one kind: then they are
compared by their slots after all, which is more than was asked of them before.

* `Parser.Reaches` — the paths of slots that the comparison follows.
* `Grammar.agreeAt_columnAt` — fewer parsers that agree do so in what is left of every column.
* `Grammar.agreeAt_of_sublist` — they agree if they do wherever the comparison becomes stricter.
-/

namespace Unparsing

namespace Parser

variable {ps qs : List Parser}

/-! ## Parsers of one kind -/

/-- The parsers are transforms, lists, optionals or picks: of one kind that may create nodes and is
compared by its slots. -/
def SameShape (ps : List Parser) : Prop :=
  ∃ kind ∈ [ParserKind.transform, .list, .opt, .pick], ∀ p ∈ comparable ps, p.kind = kind

/-- The comparison of the parsers follows that path: up to its end, it meets parsers of one kind. -/
def Reaches (ps : List Parser) : (path : List Nat) → Prop
  | [] => True
  | slot :: path => Uniform ps ∧ Reaches (column (comparable ps) slot) path

theorem comparable_sublist (sub : qs.Sublist ps) : (comparable qs).Sublist (comparable ps) :=
  (sub.map strip).filter _

theorem column_sublist (sub : qs.Sublist ps) (slot : Nat) :
    (column qs slot).Sublist (column ps slot) :=
  sub.filterMap _

theorem Uniform.sublist (uniform : Uniform ps) (sub : qs.Sublist ps) : Uniform qs := by
  intro p hp q hq
  have kept := (comparable_sublist sub).subset
  exact uniform p (kept hp) q (kept hq)

theorem column_eq_nil {slot : Nat} (short : ∀ p ∈ ps, p.slots.length ≤ slot) :
    column ps slot = [] := by
  rw [column, List.filterMap_eq_nil_iff]
  exact fun p hp => List.getElem?_eq_none (short p hp)

/-- A column has no more parsers to compare than the list it is taken from. -/
theorem length_comparable_column_le (slot : Nat) :
    (comparable (column ps slot)).length ≤ ps.length := by
  calc (comparable (column ps slot)).length
      ≤ ((column ps slot).map strip).length := List.length_filter_le _ _
    _ = (column ps slot).length := List.length_map _
    _ ≤ ps.length := List.length_filterMap_le _ _

end Parser

namespace Ruling

variable {p q : Parser} {ps qs : List Parser}

/-- Fewer parsers of one kind are compared as all of them, unless these disagree at sight. -/
theorem of_sublist (sub : (q :: qs).Sublist (p :: ps)) (alike : ps.all (·.kind == p.kind) = true)
    (agree : Ruling.of p ps ≠ .settled false) : Ruling.of q qs = Ruling.of p ps := by
  obtain ⟨kind, alike'⟩ := all_beq_head_of_sublist (·.kind) sub alike
  rw [of_eq, if_pos alike] at agree
  rw [of_eq, of_eq, if_pos alike, if_pos alike', kind]
  split at agree
  all_goals try rfl
  · split at agree
    next indices =>
      rw [if_pos indices, if_pos (all_beq_head_of_sublist (·.index?) sub indices).2]
    next => exact absurd rfl agree
  · have kinds : ps.all (·.tokenKind? == p.tokenKind?) = true := by
      simpa using agree
    rw [kinds, (all_beq_head_of_sublist (·.tokenKind?) sub kinds).2]

end Ruling

namespace Grammar

open Unparsing.Parser (comparable column columnAt sizeAll Uniform SameShape Reaches)

variable {g : Grammar} {toplevel : Bool} {ps qs : List Parser}

/-! ## Columns -/

/-- What agrees at the top level agrees in a column. -/
theorem agreeAt_nested (h : g.agreeAt toplevel ps = true) : g.agreeAt false ps = true := by
  match several : comparable ps with
  | [] | [_] => exact agreeAt_of_length_le (by simp [several])
  | p :: q :: rest =>
    rw [agreeAt_of_comparable several] at h ⊢
    cases ruling : Ruling.of p (q :: rest) with
    | settled agree => simpa [ruling] using h
    | slotwise => simpa [ruling] using h
    | byCreation =>
      simp only [ruling, Bool.and_eq_true] at h ⊢
      exact ⟨rfl, h.2⟩

/-- **Parsers of one kind that agree do so in every column.** -/
theorem agreeAt_column (uniform : Uniform ps) (h : g.agreeAt toplevel ps = true) (slot : Nat) :
    g.agreeAt false (column (comparable ps) slot) = true := by
  have short {ps : List Parser} (h : ∀ p ∈ ps, p.slots.length ≤ slot) :
      g.agreeAt false (column ps slot) = true := by
    rw [Parser.column_eq_nil h]
    exact agreeAt_of_length_le (Nat.zero_le 1)
  match several : comparable ps with
  | [] => exact short nofun
  | [p] => exact agreeAt_of_length_le (Parser.length_comparable_column_le slot)
  | p :: q :: rest =>
    rw [agreeAt_of_comparable several] at h
    obtain slotwise | differ | slotless := Ruling.of_alike ((Parser.uniform_iff several).mp uniform)
    · rw [slotwise, Bool.and_eq_true, List.all_eq_true, several] at h
      by_cases within : slot < p.slots.length
      · exact List.all_eq_true.mp h.2 slot (List.mem_range.mpr within)
      · refine short (List.forall_mem_cons.mpr ⟨Nat.le_of_not_lt within, fun x hx => ?_⟩)
        rw [beq_iff_eq.mp (h.1 x hx)]
        exact Nat.le_of_not_lt within
    · rw [differ] at h
      cases h
    · exact short fun x hx => by simp [slotless x hx]

/-! ## Fewer parsers -/

/-- **Fewer parsers that agree** do so in what is left of every column that the comparison of all
comes to. -/
theorem agreeAt_columnAt {path : List Nat} (reaches : Reaches ps path) (sub : qs.Sublist ps)
    (agree : g.agreeAt toplevel qs = true) : g.agreeAt false (columnAt qs path) = true := by
  induction path generalizing ps qs toplevel with
  | nil => exact agreeAt_nested agree
  | cons slot path ih =>
    exact ih reaches.2 (Parser.column_sublist (Parser.comparable_sublist sub) slot)
      (agreeAt_column (reaches.1.sublist sub) agree slot)

/-- Parsers that all create nodes agree in a column, unless they are compared by their slots. -/
theorem agreeAt_of_creates (creates : ∀ p ∈ comparable ps, g.resolvesToNode p = true)
    (shapeless : ¬SameShape ps) : g.agreeAt false ps = true := by
  match several : comparable ps with
  | [] | [_] => exact agreeAt_of_length_le (by simp [several])
  | p :: q :: rest =>
    rw [agreeAt_of_comparable several]
    cases alike : (q :: rest).all (·.kind == p.kind) with
    | false =>
      rw [Ruling.of_mixed alike]
      simpa using creates
    | true =>
      have first : p ∈ comparable ps := several ▸ List.mem_cons_self
      have uniform := (Parser.uniform_iff several).mpr alike
      have shape : p.kind ∉ [ParserKind.transform, .list, .opt, .pick] := fun shaped =>
        shapeless ⟨p.kind, shaped, fun x hx => uniform x hx p first⟩
      have created := creates p first
      rw [Ruling.of_eq, if_pos alike]
      cases p with
      | transform | list | opt | optBool | pick => simp [Parser.kind] at shape
      | choice | defer | skip | null | predicate | dontSkip => simpa [Parser.kind] using creates
      | row | token | noBacktrack => cases created

/-- **Fewer parsers agree** if they do in what is left of every column where they have become
parsers of one shape. -/
theorem agreeAt_of_sublist (sub : qs.Sublist ps) (h : g.agreeAt toplevel ps = true)
    (left : ∀ path, Reaches ps path → ¬Uniform (columnAt ps path) → SameShape (columnAt qs path) →
      g.agreeAt false (columnAt qs path) = true) : g.agreeAt toplevel qs = true := by
  induction hw : sizeAll ps using Nat.strongRecOn generalizing toplevel ps qs with
  | ind w ih =>
    subst hw
    have sub' := Parser.comparable_sublist sub
    by_cases uniform : Uniform ps
    · match fewer : comparable qs, several : comparable ps with
      | [], _ | [_], _ => exact agreeAt_of_length_le (by simp [fewer])
      | q :: q' :: rest', [] | q :: q' :: rest', [_] =>
        simpa [fewer, several] using sub'.length_le
      | q :: q' :: rest', p :: p' :: rest =>
        rw [fewer, several] at sub'
        rw [agreeAt_of_comparable several] at h
        have alike := (Parser.uniform_iff several).mp uniform
        have same := Ruling.of_sublist sub' alike fun differ => by simp [differ] at h
        rw [agreeAt_of_comparable fewer, same]
        cases ruling : Ruling.of p (p' :: rest) with
        | settled agree => simpa [ruling] using h
        | byCreation =>
          simp only [ruling, Bool.and_eq_true, List.all_eq_true, several, fewer] at h ⊢
          exact ⟨h.1, fun x hx => h.2 x (sub'.subset hx)⟩
        | slotwise =>
          simp only [ruling, Bool.and_eq_true] at h ⊢
          obtain ⟨width, widths⟩ := all_beq_head_of_sublist (·.slots.length) sub' h.1
          refine ⟨widths, ?_⟩
          rw [width, List.all_eq_true]
          intro slot within
          have le := Parser.sizeAll_comparable_le ps
          have less := Parser.sizeAll_column_lt (several ▸ List.cons_ne_nil p _) slot
          exact ih _ (Nat.lt_of_lt_of_le less le)
            (Parser.column_sublist (Parser.comparable_sublist sub) slot)
            (List.all_eq_true.mp h.2 slot within)
            (fun path reaches => left (slot :: path) ⟨uniform, reaches⟩) rfl
    · obtain ⟨rfl, creates⟩ := resolvesToNode_of_mixed uniform h
      by_cases shape : SameShape qs
      · exact left [] trivial uniform shape
      · exact agreeAt_of_creates (fun x hx => creates x (sub'.subset hx)) shape

end Grammar

end Unparsing
