import Unparsing.Grammar.Agreement
import Unparsing.Proofs.Arena.Basic
import Unparsing.Proofs.Grammar.Visiting

/-!
# Proofs/Arena/Queries — questions about a parser, answered by number

Each question is put to a number, and goes on with the numbers of the parsers inside.  These are
smaller, so a depth beyond the number of the parser is enough (`Grammar.discardsAt_eq`, …).  To tell
what a parser yields, rules are followed to parsers anywhere in the grammar.  No rule is entered a
second time while it is being followed, so each rule on the way costs at most one descent through
the numbers (`Grammar.run_typeOfAt`).
-/

namespace Unparsing

namespace Grammar

variable {g : Grammar} {p q : Parser} {depth : Nat} {entered : List RuleId}

/-! ## Descending through the numbers -/

/-- Whether a row throws the result of a parser away. -/
def discardsAt (g : Grammar) : (depth : Nat) → ParserId → Option Bool
  | 0, _ => none
  | depth + 1, id => do
    match ← g.parser? id with
    | .token .. | .noBacktrack .. => return true
    | .row _ items => items.allM fun p => g.discardsAt depth p.id
    | .opt _ inner _ | .dontSkip _ inner => g.discardsAt depth inner.id
    | _ => return false

/-- Whether an absent node occurs anywhere inside a parser. -/
def hasNullAt (g : Grammar) : (depth : Nat) → ParserId → Option Bool
  | 0, _ => none
  | depth + 1, id => do
    let p ← g.parser? id
    if p.isNull then
      return true
    else
      p.children.anyM fun q => g.hasNullAt depth q.id

/-- The number of a parser without its wrappers. -/
def stripAt (g : Grammar) : (depth : Nat) → ParserId → Option ParserId
  | 0, _ => none
  | depth + 1, id => do
    match ← g.parser? id with
    | .dontSkip _ inner | .predicate _ inner _ => g.stripAt depth inner.id
    | _ => return id

/-- Whether a row throws the result of a parser away, asked by number. -/
theorem discardsAt_eq (h : g.Ordered) (hp : p ∈ g.parsers) (enough : p.id.raw < depth) :
    g.discardsAt depth p.id = some p.discards := by
  induction depth generalizing p with
  | zero => cases enough
  | succ depth ih =>
    have inner : ∀ q ∈ p.children, g.discardsAt depth q.id = some q.discards := fun q hq => by
      obtain ⟨declared, less⟩ := h.child hp hq
      exact ih declared (by omega)
    rw [discardsAt, h.wf.numbered p hp]
    cases p with
    | row id items =>
      rw [Parser.discards_row]
      exact allM_eq_some inner
    | opt id p tolerant => exact inner p List.mem_cons_self
    | dontSkip id p => exact inner p List.mem_cons_self
    | _ => rfl

/-- Whether an absent node occurs in a parser, asked by number. -/
theorem hasNullAt_eq (h : g.Ordered) (hp : p ∈ g.parsers) (enough : p.id.raw < depth) :
    g.hasNullAt depth p.id = some p.hasNull := by
  induction depth generalizing p with
  | zero => cases enough
  | succ depth ih =>
    have inner : ∀ q ∈ p.children, g.hasNullAt depth q.id = some q.hasNull := fun q hq => by
      obtain ⟨declared, less⟩ := h.child hp hq
      exact ih declared (by omega)
    rw [hasNullAt, h.wf.numbered p hp, Parser.hasNull_eq, Option.bind_eq_bind, Option.bind_some]
    cases p.isNull with
    | true => rfl
    | false => exact anyM_eq_some inner

/-- The parser under all wrappers is found by number, and has no greater one. -/
theorem stripAt_eq (h : g.Ordered) (hp : p ∈ g.parsers) (enough : p.id.raw < depth) :
    g.stripAt depth p.id = some p.strip.id ∧ p.strip ∈ g.parsers ∧ p.strip.id.raw ≤ p.id.raw := by
  induction depth generalizing p with
  | zero => cases enough
  | succ depth ih =>
    have inner : ∀ q ∈ p.children, g.stripAt depth q.id = some q.strip.id ∧
        q.strip ∈ g.parsers ∧ q.strip.id.raw ≤ p.id.raw := fun q hq => by
      obtain ⟨declared, less⟩ := h.child hp hq
      obtain ⟨stripped, inside, le⟩ := ih declared (by omega)
      exact ⟨stripped, inside, by omega⟩
    rw [stripAt, h.wf.numbered p hp]
    cases p with
    | dontSkip id p => exact inner p List.mem_cons_self
    | predicate id p property => exact inner p List.mem_cons_self
    | _ => exact ⟨rfl, hp, Nat.le_refl _⟩

/-- The number of the producer that stands for its node type. -/
def canonicalAt (g : Grammar) (depth : Nat) (ids : List ParserId) : Option (Option ParserId) := do
  match ← ids.findM? fun id => return !(← g.hasNullAt depth id) with
  | some id => return some id
  | none => return ids.head?

/-- The canonical one of several producers, found by number. -/
theorem canonicalAt_eq (h : g.Ordered) {ps : List Parser} (declared : ∀ p ∈ ps, p ∈ g.parsers)
    (enough : ∀ p ∈ ps, p.id.raw < depth) :
    g.canonicalAt depth (ps.map Parser.id) = some ((canonical? ps).map Parser.id) := by
  have shown : ∀ p ∈ ps, (do return !(← g.hasNullAt depth p.id)) = some (!p.hasNull) :=
    fun p hp => by rw [hasNullAt_eq h (declared p hp) (enough p hp)]; rfl
  rw [canonicalAt, findM?_eq_some shown, canonical?]
  cases ps.find? (!·.hasNull) with
  | none => exact congrArg some List.head?_map
  | some p => rfl

/-! ## Following rules -/

/-- A computation inside a rule, with the set of the rules being followed.  It is left out if the
rule is among them, and broken off if the rule was `entered` on the way without being among them. -/
def enter (entered : List RuleId) (rule : RuleId) (compute : StateT (Finset RuleId) Option Yield) :
    StateT (Finset RuleId) Option Yield := do
  if rule ∈ (← get) then
    return .nothing
  else if rule ∈ entered then
    failure
  else do
    modify (insert rule)
    let y ← compute
    modify (·.erase rule)
    return y

/-- What a parser yields, computed with the set of the rules being followed.  There is no answer if
that goes deeper than `depth` calls, or if one of the rules `entered` on the way would be entered
again. -/
def typeOfAt (g : Grammar) :
    (depth : Nat) → (entered : List RuleId) → ParserId → StateT (Finset RuleId) Option Yield
  | 0, _, _ => failure
  | depth + 1, entered, id => do
    match ← g.parser? id with
    | .transform _ node .. | .list _ node .. | .null _ node | .skip _ node => return .node node
    | .optBool _ _ alternatives => return .node alternatives.base
    | .opt _ inner _ | .predicate _ inner _ | .dontSkip _ inner =>
      g.typeOfAt depth entered inner.id
    | .token .. => return .token
    | .row .. | .noBacktrack .. => return .nothing
    | .pick _ rowId _ index =>
      match ← g.parser? rowId with
      | .row _ items =>
        match items[index]? with
        | some p => g.typeOfAt depth entered p.id
        | none => return .nothing
      | _ => return .nothing
    | .defer _ rule =>
      match g.root? rule with
      | some root => enter entered rule (g.typeOfAt depth (rule :: entered) root.id)
      | none => return .nothing
    | .choice _ branches => do
      let merged ← branches.foldlM
        (fun sofar p => do
          return Yield.merge g.nodes sofar (← g.typeOfAt depth entered p.id)) none
      return merged.getD .nothing

/-- A rule that is entered leaves the set of rules as it was; one that is being followed yields
nothing. -/
theorem run_enter {rule : RuleId} {compute : StateT (Finset RuleId) Option Yield} {y : Yield}
    (restores : rule ∉ entered →
      compute.run (rule :: entered).toFinset = some (y, (rule :: entered).toFinset)) :
    (enter entered rule compute).run entered.toFinset =
      some (if rule ∈ entered then .nothing else y, entered.toFinset) := by
  by_cases followed : rule ∈ entered
  · simp only [enter, StateT.run_bind, StateT.run_get, pure_bind, List.mem_toFinset, followed,
      if_true]
    rfl
  · have left : (insert rule entered.toFinset).erase rule = entered.toFinset :=
      Finset.erase_insert (by simpa using followed)
    have inside := restores followed
    rw [List.toFinset_cons] at inside
    simp only [enter, StateT.run_bind, StateT.run_get, pure_bind, StateT.run_modify,
      List.mem_toFinset, followed, if_false, inside]
    exact congrArg (fun V => some (y, V)) left

/-- The yields of branches are merged alike, if each of them is found by number. -/
theorem run_foldlM_merge {V : Finset RuleId} (branches : List Parser) (sofar : Option Yield)
    (each : ∀ p ∈ branches, (g.typeOfAt depth entered p.id).run V =
      some (g.yieldUnder entered p, V)) :
    (branches.foldlM (fun sofar (p : Parser) => do
        return Yield.merge g.nodes sofar (← g.typeOfAt depth entered p.id)) sofar).run V =
      some ((branches.map (g.yieldUnder entered)).foldl (Yield.merge g.nodes) sofar, V) := by
  induction branches generalizing sofar with
  | nil => rfl
  | cons p ps ih =>
    rw [List.forall_mem_cons] at each
    rw [List.foldlM_cons, StateT.run_bind, StateT.run_bind, each.1]
    exact ih _ each.2

/-- **No rule is entered a second time on the way**, and a computation returns, with the set of
rules that it was given.  Each rule entered leaves fewer, and allows for one descent more. -/
theorem run_typeOfAt (h : g.Ordered) (hp : p ∈ g.parsers)
    (enough : g.unvisited entered * g.located.size + p.id.raw < depth) :
    (g.typeOfAt depth entered p.id).run entered.toFinset =
      some (g.yieldUnder entered p, entered.toFinset) := by
  induction depth generalizing p entered with
  | zero => cases enough
  | succ depth ih =>
    have inner : ∀ q ∈ p.children, (g.typeOfAt depth entered q.id).run entered.toFinset =
        some (g.yieldUnder entered q, entered.toFinset) := fun q hq => by
      obtain ⟨declared, less⟩ := h.child hp hq
      exact ih declared (by omega)
    rw [typeOfAt, h.wf.numbered p hp, stateT_lift_some_bind]
    cases p with
    | opt id p tolerant => exact inner p List.mem_cons_self
    | predicate id p property => exact inner p List.mem_cons_self
    | dontSkip id p => exact inner p List.mem_cons_self
    | pick id rowId items index =>
      have item : ∀ q ∈ items, (g.typeOfAt depth entered q.id).run entered.toFinset =
          some (g.yieldUnder entered q, entered.toFinset) := fun q hq => by
        obtain ⟨declared, less⟩ := h.item hp rfl hq
        exact ih declared (by omega)
      dsimp only
      rw [h.wf.parser?_row hp rfl, stateT_lift_some_bind, yieldUnder, Parser.yieldWith,
        Parser.yieldNth_eq]
      dsimp only
      cases picked : items[index]? with
      | none => rfl
      | some q => exact item q (List.mem_of_getElem? picked)
    | choice id branches =>
      dsimp only
      rw [StateT.run_bind, run_foldlM_merge branches none inner, yieldUnder, Parser.yieldWith,
        Parser.yieldMerged_eq_foldl]
      rfl
    | defer id rule =>
      dsimp only
      rw [yieldUnder, Parser.yieldWith, ruleYield_eq]
      cases rooted : g.root? rule with
      | none =>
        rw [Option.elim_none, ite_self]
        rfl
      | some root =>
        -- The root may have any number, but a rule less is left to be entered.
        refine run_enter fun fresh => ih (h.wf.mem_of_root? rooted) ?_
        have fewer := unvisited_cons_lt rooted fresh
        have inside := h.wf.id_lt (h.wf.mem_of_root? rooted)
        have descent := Nat.mul_le_mul_right g.located.size (Nat.succ_le_of_lt fewer)
        rw [Nat.succ_mul] at descent
        omega
    | _ => rfl

/-- A depth of calls that is enough to follow rules, from any parser. -/
def followDepth (g : Grammar) : Nat := (g.rules.size + 1) * g.located.size

/-- Where no rule is being followed, the yield of a parser is found by number. -/
theorem run_typeOfAt_fresh (h : g.Ordered) (hp : p ∈ g.parsers) (enough : g.followDepth ≤ depth) :
    (g.typeOfAt depth [] p.id).run ∅ = some (g.yield p, ∅) := by
  have inside := h.wf.id_lt hp
  have fewer := Nat.mul_le_mul_right g.located.size (g.unvisited_le_size [])
  refine run_typeOfAt h hp ?_
  rw [followDepth, Nat.succ_mul] at enough
  omega

/-- So it is, the set of rules left out. -/
theorem typeOfAt_eq (h : g.Ordered) (hp : p ∈ g.parsers) (enough : g.followDepth ≤ depth) :
    (g.typeOfAt depth [] p.id).run' ∅ = some (g.yield p) := by
  rw [StateT.run'_eq, run_typeOfAt_fresh h hp enough]
  rfl

/-- Whether a parser creates a node. -/
def createsNodeAt (g : Grammar) : (depth : Nat) → ParserId → Option Bool
  | 0, _ => none
  | depth + 1, id => do
    match ← g.parser? id with
    | .choice _ branches => branches.allM fun p => g.createsNodeAt depth p.id
    | .defer .. => return (← (g.typeOfAt depth [] id).run' ∅).node?.isSome
    | .optBool .. | .transform .. | .skip .. | .list .. => return true
    | .opt _ inner _ | .predicate _ inner _ | .dontSkip _ inner => g.createsNodeAt depth inner.id
    | .pick _ rowId _ _ =>
      match ← g.parser? rowId with
      | .row _ [p, last] => if last.isTermination then g.createsNodeAt depth p.id else return false
      | _ => return false
    | .row .. | .token .. | .null .. | .noBacktrack .. => return false

/-- Whether a parser creates a node, asked by number. -/
theorem createsNodeAt_eq (h : g.Ordered) (hp : p ∈ g.parsers)
    (enough : g.followDepth + p.id.raw < depth) :
    g.createsNodeAt depth p.id = some (g.createsNode p) := by
  induction depth generalizing p with
  | zero => cases enough
  | succ depth ih =>
    have inner : ∀ q ∈ p.children, g.createsNodeAt depth q.id = some (g.createsNode q) :=
      fun q hq => by
        obtain ⟨declared, less⟩ := h.child hp hq
        exact ih declared (by omega)
    rw [createsNodeAt, h.wf.numbered p hp, Option.bind_eq_bind, Option.bind_some]
    cases p with
    | choice id branches =>
      rw [createsNode, Parser.createsNodeWith, Parser.allCreateNodes_eq_all]
      exact allM_eq_some inner
    | defer id rule =>
      dsimp only
      rw [typeOfAt_eq h hp (by omega)]
      rfl
    | opt id p tolerant => exact inner p List.mem_cons_self
    | predicate id p property => exact inner p List.mem_cons_self
    | dontSkip id p => exact inner p List.mem_cons_self
    | pick id rowId items index =>
      have item : ∀ q ∈ items, g.createsNodeAt depth q.id = some (g.createsNode q) :=
        fun q hq => by
          obtain ⟨declared, less⟩ := h.item hp rfl hq
          exact ih declared (by omega)
      dsimp only
      rw [h.wf.parser?_row hp rfl, Option.bind_some]
      match items, item with
      | [p, last], item =>
        dsimp only
        rw [item p List.mem_cons_self]
        cases ends : last.isTermination <;> simp [createsNode, Parser.createsNodeWith, ends]
      | [], _ | [_], _ | _ :: _ :: _ :: _, _ => rfl
    | _ => rfl

end Grammar

end Unparsing
