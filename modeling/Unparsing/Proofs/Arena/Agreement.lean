import Unparsing.Proofs.Arena.Queries
import Unparsing.Proofs.Grammar.Agreement

/-!
# Proofs/Arena/Agreement — producers compared by number

A comparison goes from a list of numbers to the numbers of what is inside those parsers, slot by
slot.  The list may hold parsers from all over the grammar, but every number in a slot is smaller
than the number of the parser it comes from, so a depth beyond all of them is enough
(`Grammar.structEqAt_eq`).
-/

namespace Unparsing

namespace Parser

variable {p : Parser} {ps : List Parser}

/-- What is inside a parser, but for the markers that forbid backtracking. -/
def parts (p : Parser) : List Parser := p.children.filter (!·.isNoBacktrack)

/-- The row that a transform or pick holds. -/
def rowOf : Parser → Parser
  | transform _ _ rowId items | pick _ rowId items _ => row rowId items
  | p => p

/-- A parser with a row of its own is compared through that row. -/
def holdsRow : Parser → Bool
  | transform .. | pick .. => true
  | _ => false

/-- What stands for its row holds nothing else. -/
theorem children_of_holdsRow (h : p.holdsRow = true) : p.children = [p.rowOf] := by
  cases p with
  | transform | pick => rfl
  | _ => cases h

/-- What stands for its row is compared by the row. -/
theorem parts_of_holdsRow (h : p.holdsRow = true) : p.parts = [p.rowOf] := by
  cases p with
  | transform | pick => rfl
  | _ => cases h

theorem kind_rowOf (h : p.holdsRow = true) : p.rowOf.kind = .row := by
  cases p with
  | transform | pick => rfl
  | _ => cases h

/-- A row has the slots of the parser that stands for it. -/
theorem slots_rowOf (p : Parser) : p.rowOf.slots = p.slots := by cases p <;> rfl

theorem comparable_rowOf (h : ∀ p ∈ ps, p.holdsRow = true) :
    comparable (ps.map rowOf) = ps.map rowOf := by
  have kept : ∀ r ∈ ps.map rowOf, r.strip = r ∧ r.isNull = false := fun r hr => by
    obtain ⟨p, hp, rfl⟩ := List.mem_map.mp hr
    have held := h p hp
    cases p with
    | transform | pick => exact ⟨rfl, rfl⟩
    | _ => cases held
  rw [comparable, List.map_congr_left fun r hr => (kept r hr).1, List.map_id', List.filter_eq_self]
  exact fun r hr => by simp [kept r hr]

/-- So the columns of rows are those of the parsers that stand for them. -/
theorem column_rowOf (slot : Nat) : column (ps.map rowOf) slot = column ps slot := by
  rw [column, column, List.filterMap_map]
  exact List.filterMap_congr fun p _ => by rw [Function.comp_apply, slots_rowOf]

/-- The parts of a parser without a row of its own are its slots. -/
theorem slots_eq_parts (h : p.kind = .row ∨ p.kind = .list ∨ p.kind = .opt) :
    p.slots = p.parts := by
  cases p with
  | row | list | opt | optBool => rfl
  | _ => simp [kind] at h

end Parser

namespace Grammar

open Unparsing.Parser (comparable column parts rowOf)

variable {g : Grammar} {p q : Parser} {ps rest : List Parser} {depth : Nat} {toplevel : Bool}

/-- Whether a parser creates a node, a reference to a rule being judged by the rule's root. -/
def resolvesToNodeAt (g : Grammar) (depth : Nat) : Parser → Option Bool
  | .defer _ rule =>
    match g.root? rule with
    | some root => g.createsNodeAt depth root.id
    | none => some false
  | p => g.createsNodeAt depth p.id

/-- Whether parsers agree in what is inside them, which is compared by `compare`. -/
def partsAgree (compare : List ParserId → Option Bool) (p : Parser) (rest : List Parser) :
    Option Bool :=
  if p.kind = .pick then
    compare ((p :: rest).flatMap (·.children.map Parser.id))
  else if rest.all (·.parts.length == p.parts.length) then
    (List.range p.parts.length).allM fun slot =>
      compare ((p :: rest).filterMap fun q => q.parts[slot]?.map Parser.id)
  else
    some false

/-- The parsers that take part in a comparison. -/
def comparableAt (g : Grammar) (depth : Nat) (ids : List ParserId) : Option (List Parser) := do
  let stripped ← ids.mapM (g.stripAt depth)
  let parsers ← stripped.mapM g.parser?
  return parsers.filter (!·.isNull)

/-- Whether the parsers with these numbers agree. -/
def structEqAt (g : Grammar) : (depth : Nat) → (toplevel : Bool) → List ParserId → Option Bool
  | 0, _, _ => none
  | depth + 1, toplevel, ids => do
    match ← g.comparableAt depth ids with
    | [] | [_] => return true
    | p :: q :: rest =>
      match Ruling.of p (q :: rest) with
      | .settled agree => return agree
      | .byCreation =>
        if toplevel then return false else (p :: q :: rest).allM (g.resolvesToNodeAt depth)
      | .slotwise => partsAgree (g.structEqAt depth false) p (q :: rest)

/-- A depth of calls that is enough to compare parsers, beyond their own numbers. -/
def compareDepth (g : Grammar) : Nat := g.followDepth + g.located.size

/-- Whether a parser comes down to a node, asked by number. -/
theorem resolvesToNodeAt_eq (h : g.Ordered) (hp : p ∈ g.parsers) (enough : g.compareDepth ≤ depth) :
    g.resolvesToNodeAt depth p = some (g.resolvesToNode p) := by
  have creates {q : Parser} (hq : q ∈ g.parsers) :
      g.createsNodeAt depth q.id = some (g.createsNode q) := by
    have inside := h.wf.id_lt hq
    rw [compareDepth] at enough
    exact createsNodeAt_eq h hq (by omega)
  cases p with
  | defer id rule =>
    rw [resolvesToNodeAt, resolvesToNode]
    cases rooted : g.root? rule with
    | none => rfl
    | some root => exact creates (h.wf.mem_of_root? rooted)
  | _ => exact creates hp

/-- The rows of several parsers agree if the parsers do in every slot. -/
theorem agreeAt_rowOf (held : ∀ r ∈ p :: q :: rest, r.holdsRow = true) :
    g.agreeAt false ((p :: q :: rest).map rowOf) =
      ((q :: rest).all (·.slots.length == p.slots.length) &&
        (List.range p.slots.length).all fun slot =>
          g.agreeAt false (column (p :: q :: rest) slot)) := by
  have rows := Parser.comparable_rowOf held
  have kind : ∀ r ∈ (q :: rest).map rowOf, r.kind = p.rowOf.kind := fun r hr => by
    obtain ⟨s, hs, rfl⟩ := List.mem_map.mp hr
    rw [Parser.kind_rowOf (held s (List.mem_cons_of_mem p hs)),
      Parser.kind_rowOf (held p List.mem_cons_self)]
  have ruling : Ruling.of p.rowOf (q.rowOf :: rest.map rowOf) = .slotwise := by
    rw [← List.map_cons, Ruling.of_eq,
      if_pos (List.all_eq_true.mpr fun r hr => beq_iff_eq.mpr (kind r hr)),
      Parser.kind_rowOf (held p List.mem_cons_self)]
  have widths : (q.rowOf :: rest.map rowOf).all (·.slots.length == p.slots.length) =
      (q :: rest).all (·.slots.length == p.slots.length) := by
    rw [← List.map_cons, List.all_map]
    exact congrArg (List.all (q :: rest)) (funext fun r => by
      rw [Function.comp_apply, Parser.slots_rowOf])
  rw [agreeAt_of_comparable rows, rows, ruling, Parser.slots_rowOf, widths]
  simp only [Parser.column_rowOf]

/-- Parsers that are compared slot by slot are of one kind, with a row or with slots. -/
theorem kind_of_slotwise (h : Ruling.of p rest = .slotwise) :
    (∀ r ∈ rest, r.kind = p.kind) ∧
      (p.holdsRow = true ∨ p.kind = .row ∨ p.kind = .list ∨ p.kind = .opt) := by
  by_cases alike : rest.all (·.kind == p.kind) = true
  · refine ⟨fun r hr => beq_iff_eq.mp (List.all_eq_true.mp alike r hr), ?_⟩
    rw [Ruling.of_eq, if_pos alike] at h
    cases p with
    | row | list | opt | optBool | transform | pick => simp [Parser.holdsRow, Parser.kind]
    | _ => cases h
  · rw [Ruling.of_mixed (Bool.eq_false_iff.mpr alike)] at h
    cases h

/-- Parsers of one kind all stand for rows, or none does. -/
theorem holdsRow_of_kind (same : q.kind = p.kind) : q.holdsRow = p.holdsRow := by
  cases p <;> cases q <;> first | rfl | cases same

variable {compare : List ParserId → Option Bool}

/-- Inside parsers with rows of their own are just these rows. -/
theorem partsAgree_of_holdsRow (held : ∀ r ∈ p :: rest, r.holdsRow = true) :
    partsAgree compare p rest = compare (((p :: rest).map rowOf).map Parser.id) := by
  by_cases pick : p.kind = .pick
  · have numbers : (p :: rest).flatMap (·.children.map Parser.id) =
        (p :: rest).map (Parser.id ∘ rowOf) := by
      rw [List.map_eq_flatMap]
      exact List.flatMap_congr fun r hr => by rw [Parser.children_of_holdsRow (held r hr)]; rfl
    rw [partsAgree, if_pos pick, numbers, List.map_map]
  · have parts : ∀ r ∈ p :: rest, r.parts = [r.rowOf] :=
      fun r hr => Parser.parts_of_holdsRow (held r hr)
    have numbers : (p :: rest).filterMap (fun r => r.parts[0]?.map Parser.id) =
        (p :: rest).map (Parser.id ∘ rowOf) := by
      rw [← List.filterMap_eq_map]
      exact List.filterMap_congr fun r hr => by rw [parts r hr]; rfl
    have widths : rest.all (·.parts.length == p.parts.length) = true :=
      List.all_eq_true.mpr fun r hr => by
        rw [parts r (List.mem_cons_of_mem p hr), parts p List.mem_cons_self]
        rfl
    rw [partsAgree, if_neg pick, if_pos widths, parts p List.mem_cons_self, List.map_map, ← numbers]
    change ([0].allM _) = _
    rw [List.allM]
    cases compare ((p :: rest).filterMap fun r => r.parts[0]?.map Parser.id) with
    | none => rfl
    | some agree => cases agree <;> rfl

/-- Inside other parsers are their slots. -/
theorem partsAgree_of_slots (other : p.kind ≠ .pick) (slots : ∀ r ∈ p :: rest, r.slots = r.parts) :
    partsAgree compare p rest =
      if rest.all (·.slots.length == p.slots.length) then
        (List.range p.slots.length).allM fun slot =>
          compare ((column (p :: rest) slot).map Parser.id)
      else
        some false := by
  have widths : rest.all (·.parts.length == p.parts.length) =
      rest.all (·.slots.length == p.slots.length) := by
    rw [Bool.eq_iff_iff, List.all_eq_true, List.all_eq_true]
    exact forall₂_congr fun r hr => by
      rw [slots r (List.mem_cons_of_mem p hr), slots p List.mem_cons_self]
  have numbers (slot : Nat) : (p :: rest).filterMap (fun r => r.parts[slot]?.map Parser.id) =
      (column (p :: rest) slot).map Parser.id := by
    rw [column, List.map_filterMap]
    exact List.filterMap_congr fun r hr => by rw [slots r hr]
  rw [partsAgree, if_neg other, widths, slots p List.mem_cons_self]
  simp only [numbers]

/-- **Comparing what is inside parsers is comparing their slots**: for a transform or pick it is
its row that is inside, and that has the same slots. -/
theorem partsAgree_eq (ruling : Ruling.of p (q :: rest) = .slotwise)
    (compares : ∀ qs, (∀ c ∈ qs, ∃ r ∈ p :: q :: rest, c ∈ r.children) →
      compare (qs.map Parser.id) = some (g.agreeAt false qs)) :
    partsAgree compare p (q :: rest) =
      some ((q :: rest).all (·.slots.length == p.slots.length) &&
        (List.range p.slots.length).all fun slot =>
          g.agreeAt false (column (p :: q :: rest) slot)) := by
  obtain ⟨same, shape⟩ := kind_of_slotwise ruling
  by_cases held : p.holdsRow = true
  · have all : ∀ r ∈ p :: q :: rest, r.holdsRow = true :=
      List.forall_mem_cons.mpr ⟨held, fun r hr => (holdsRow_of_kind (same r hr)).trans held⟩
    have inside : ∀ c ∈ (p :: q :: rest).map rowOf, ∃ r ∈ p :: q :: rest, c ∈ r.children :=
      fun c hc => by
        obtain ⟨r, hr, rfl⟩ := List.mem_map.mp hc
        exact ⟨r, hr, Parser.children_of_holdsRow (all r hr) ▸ List.mem_cons_self⟩
    rw [partsAgree_of_holdsRow all, compares _ inside, agreeAt_rowOf all]
  · have kinds := shape.resolve_left held
    have slots : ∀ r ∈ p :: q :: rest, r.slots = r.parts :=
      List.forall_mem_cons.mpr ⟨Parser.slots_eq_parts kinds,
        fun r hr => Parser.slots_eq_parts (same r hr ▸ kinds)⟩
    have other : p.kind ≠ .pick := by
      obtain kind | kind | kind := kinds <;> rw [kind] <;> decide
    have columns : ∀ slot ∈ List.range p.slots.length,
        compare ((column (p :: q :: rest) slot).map Parser.id) =
          some (g.agreeAt false (column (p :: q :: rest) slot)) := fun slot _ =>
      compares _ fun c hc => by
        obtain ⟨r, hr, found⟩ := List.mem_filterMap.mp hc
        have part := List.mem_of_getElem? found
        rw [slots r hr] at part
        exact ⟨r, hr, (List.mem_filter.mp part).1⟩
    rw [partsAgree_of_slots other slots, allM_eq_some columns]
    cases (q :: rest).all (·.slots.length == p.slots.length) <;> rfl

/-- What is left of parsers to be compared, found by number. -/
theorem comparableAt_eq (h : g.Ordered) (declared : ∀ p ∈ ps, p ∈ g.parsers)
    (enough : ∀ p ∈ ps, p.id.raw < depth) :
    g.comparableAt depth (ps.map Parser.id) = some (comparable ps) := by
  have strips (p : Parser) (hp : p ∈ ps) := stripAt_eq h (declared p hp) (enough p hp)
  have stripped : (ps.map Parser.id).mapM (g.stripAt depth) =
      some ((ps.map Parser.strip).map Parser.id) := by
    rw [mapM_eq_some fun p hp => (strips p hp).1, List.map_map]
    rfl
  have found : ((ps.map Parser.strip).map Parser.id).mapM g.parser? =
      some (ps.map Parser.strip) := by
    have looked : ∀ q ∈ ps.map Parser.strip, g.parser? q.id = some q := fun q hq => by
      obtain ⟨p, hp, rfl⟩ := List.mem_map.mp hq
      exact h.wf.numbered _ (strips p hp).2.1
    rw [mapM_eq_some looked, List.map_id']
  rw [comparableAt, stripped, Option.bind_eq_bind, Option.bind_some, found]
  rfl

/-- What is compared has been declared, with numbers no greater than those given. -/
theorem Ordered.of_mem_comparable (h : g.Ordered) (declared : ∀ p ∈ ps, p ∈ g.parsers)
    (hq : q ∈ comparable ps) : q ∈ g.parsers ∧ ∃ p ∈ ps, q.id.raw ≤ p.id.raw := by
  obtain ⟨p, hp, rfl⟩ := List.mem_map.mp (List.mem_filter.mp hq).1
  obtain ⟨-, found, le⟩ := stripAt_eq h (declared p hp) (Nat.lt_succ_self _)
  exact ⟨found, p, hp, le⟩

/-- **Producers are compared by number as they are as parsers.** -/
theorem structEqAt_eq (h : g.Ordered) (declared : ∀ p ∈ ps, p ∈ g.parsers)
    (enough : ∀ p ∈ ps, g.compareDepth + p.id.raw < depth) (deep : 0 < depth) :
    g.structEqAt depth toplevel (ps.map Parser.id) = some (g.agreeAt toplevel ps) := by
  induction depth generalizing ps toplevel with
  | zero => cases deep
  | succ depth ih =>
    have near : ∀ p ∈ ps, p.id.raw < depth := fun p hp => by
      have inside := h.wf.id_lt (declared p hp)
      have bound := enough p hp
      rw [compareDepth] at bound
      omega
    have kept : ∀ q ∈ comparable ps, q ∈ g.parsers ∧ g.compareDepth + q.id.raw ≤ depth :=
      fun q hq => by
        obtain ⟨found, p, hp, le⟩ := h.of_mem_comparable declared hq
        have bound := enough p hp
        exact ⟨found, by omega⟩
    rw [structEqAt, comparableAt_eq h declared near, Option.bind_eq_bind, Option.bind_some]
    match several : comparable ps with
    | [] | [_] => exact congrArg some (agreeAt_of_length_le (by simp [several])).symm
    | p :: q :: rest =>
      rw [several] at kept
      rw [agreeAt_of_comparable several, several]
      dsimp only
      cases ruling : Ruling.of p (q :: rest) with
      | settled agree => rfl
      | byCreation =>
        dsimp only
        rw [allM_eq_some fun r hr => resolvesToNodeAt_eq h (kept r hr).1 (by
          have := (kept r hr).2
          omega)]
        cases toplevel <;> rfl
      | slotwise =>
        -- A slot mixes the insides of several parsers, each of them below the one it is from.
        refine partsAgree_eq ruling fun qs inside => ?_
        have below : ∀ c ∈ qs, c ∈ g.parsers ∧ g.compareDepth + c.id.raw < depth :=
          fun c hc => by
            obtain ⟨r, hr, hc⟩ := inside c hc
            obtain ⟨declared, bound⟩ := kept r hr
            obtain ⟨found, less⟩ := h.child declared hc
            exact ⟨found, by omega⟩
        have first := kept p List.mem_cons_self
        refine ih (fun c hc => (below c hc).1) (fun c hc => (below c hc).2) ?_
        have inside := h.wf.id_lt first.1
        rw [compareDepth] at first
        omega

end Grammar

end Unparsing
