import Unparsing.Proofs.Arena.Queries
import Unparsing.Proofs.Derivation.Equations

/-!
# Proofs/Arena/Derivation — unparsers derived by number

The functions that derive unparsers call each other with the numbers of the parsers inside, and a
branch of a choice is handed on with its own number.  So a descent takes at most two calls for each
number (`Grammar.derivesAt`), and to tell what a branch yields, rules are followed below that.  The
row of a transform or pick is looked up by its number and found to be a row.
-/

namespace Unparsing

open Unparsing.Limited (brokenOff returns lift_some_bind returns_pure returns_bind)

namespace Grammar

variable {g : Grammar} {p q : Parser} {depth : Nat} {items : List Parser}

/-- A computation on the token table that may be broken off. -/
abbrev Lookup := Limited Problem TokenTable

/-! ## Runs -/

/-- The parser with a number, one layer of `dontSkip` taken off. -/
def unwrapped? (g : Grammar) (id : ParserId) : Option Parser := do
  g.parser? (← g.parser? id).unwrap.id

/-- The runs of parsers, one after the other. -/
def runsOf (emit : Parser → Lookup TokenRun) : List Parser → Lookup TokenRun
  | [] => return []
  | p :: ps => do
    let run ← emit p
    let rest ← runsOf emit ps
    return run ++ rest

/-- The run of tokens that a parser matches. -/
def emitRunAt (g : Grammar) : (depth : Nat) → ParserId → Lookup TokenRun
  | 0, _ => brokenOff
  | depth + 1, id => do
    match ← g.unwrapped? id with
    | .row _ items => runsOf (fun p => g.emitRunAt depth p.id) items
    | .token id kind text => do
      let token ← TokenTable.internParser g (.token id kind text)
      return [token]
    | .opt _ inner true => g.emitRunAt depth inner.id
    | .noBacktrack _ | .dontSkip .. => return []
    | p => throw (.tokensExpected (g.site p))

/-- A `pick` as the run before the item picked, the number of the item, and the run after it. -/
def splitPickAt (g : Grammar) (depth : Nat) (id : ParserId) :
    Lookup (TokenRun × ParserId × TokenRun) := do
  match ← g.parser? id with
  | .pick id rowId items index =>
    match ← g.parser? rowId with
    | .row _ inRow =>
      match inRow[index]? with
      | some inner => do
        let pre ← runsOf (fun p => g.emitRunAt depth p.id) (inRow.take index)
        let post ← runsOf (fun p => g.emitRunAt depth p.id) (inRow.drop (index + 1))
        return (pre, inner.id, post)
      | none => throw (.internal (.itemMissing (g.describe (.pick id rowId items index))))
    | _ => throw (.internal (.itemMissing (g.describe (.pick id rowId items index))))
  | p => throw (.internal (.notPick (g.describe p)))

/-- Under its wrapper, a parser is declared and has no greater number. -/
theorem Ordered.unwrap (h : g.Ordered) (hp : p ∈ g.parsers) :
    p.unwrap ∈ g.parsers ∧ p.unwrap.id.raw ≤ p.id.raw := by
  cases p with
  | dontSkip id inner =>
    obtain ⟨found, less⟩ := h.child hp List.mem_cons_self
    exact ⟨found, Nat.le_of_lt less⟩
  | _ => exact ⟨hp, Nat.le_refl _⟩

/-- The number of a parser without its wrapper, looked up. -/
theorem unwrapped?_eq (h : g.Ordered) (hp : p ∈ g.parsers) :
    g.unwrapped? p.id = some p.unwrap := by
  rw [unwrapped?, h.wf.numbered p hp]
  exact h.wf.numbered _ (h.unwrap hp).1

/-- The runs of items are put together alike, if each of them is found by number. -/
theorem runsOf_eq {emit : Parser → Lookup TokenRun}
    (each : ∀ p ∈ items, emit p = returns (g.emitRun p)) :
    runsOf emit items = returns (g.emitRuns items) := by
  induction items with
  | nil => rfl
  | cons p ps ih =>
    rw [List.forall_mem_cons] at each
    simp only [runsOf, emitRuns, each.1, ih each.2, returns_bind]
    rfl

/-- The run of a parser is looked for under its wrapper. -/
theorem emitRun_unwrap (p : Parser) :
    g.emitRun p = if p.unwrap.isDontSkip then pure [] else g.emitRun p.unwrap := by
  cases p with
  | dontSkip id inner => exact emitRun_dontSkip g id inner
  | _ => rfl

/-- The run of a parser, found by number. -/
theorem emitRunAt_eq (h : g.Ordered) (hp : p ∈ g.parsers) (enough : p.id.raw < depth) :
    g.emitRunAt depth p.id = returns (g.emitRun p) := by
  induction depth generalizing p with
  | zero => cases enough
  | succ depth ih =>
    obtain ⟨found, le⟩ := h.unwrap hp
    have inner : ∀ q ∈ p.unwrap.children, g.emitRunAt depth q.id = returns (g.emitRun q) :=
      fun q hq => by
        obtain ⟨declared, less⟩ := h.child found hq
        exact ih declared (by omega)
    rw [emitRunAt, unwrapped?_eq h hp, lift_some_bind, emitRun_unwrap]
    generalize p.unwrap = q at inner ⊢
    cases q with
    | row id items => exact runsOf_eq inner
    | opt id q tolerant =>
      cases tolerant with
      | true => exact inner q List.mem_cons_self
      | false => rfl
    | token id kind text =>
      exact (returns_bind (TokenTable.internParser g _) fun token => pure [token]).symm
    | _ => rfl

/-- The runs and the item of a pick, found by number. -/
theorem splitPickAt_eq (h : g.Ordered) (hp : p ∈ g.parsers) (enough : p.id.raw ≤ depth) :
    g.splitPickAt depth p.id =
      returns (do
        let r ← g.splitPick p
        return (r.1, r.2.1.id, r.2.2)) := by
  rw [splitPickAt, h.wf.numbered p hp, lift_some_bind]
  cases p with
  | pick id rowId items index =>
    have runs (part : List Parser) (inside : ∀ q ∈ part, q ∈ items) :
        runsOf (fun q => g.emitRunAt depth q.id) part = returns (g.emitRuns part) :=
      runsOf_eq fun q hq => by
        obtain ⟨declared, less⟩ := h.item hp rfl (inside q hq)
        exact emitRunAt_eq h declared (by omega)
    dsimp only
    rw [h.wf.parser?_row hp rfl, lift_some_bind, splitPick]
    dsimp only
    cases items[index]? with
    | none => rfl
    | some inner =>
      dsimp only
      rw [runs _ fun q => List.mem_of_mem_take, runs _ fun q => List.mem_of_mem_drop]
      simp only [bind_assoc, pure_bind, returns_bind, returns_pure]
  | _ => rfl

/-! ## Rows -/

/-- The items of a row, split around the fields that are still to be filled, where `discards` tells
which items are thrown away, `emit` their runs, and `complete` the fields of the others. -/
def fillRowBy (discards : Parser → Option Bool) (emit : Parser → Lookup TokenRun)
    (complete : Parser → FieldUnparser → Lookup FieldUnparser) (overflow : Problem) :
    (fields : List FieldUnparser) → List Parser →
      Lookup (TokenRun × List (FieldUnparser × TokenRun))
  | _, [] => return ([], [])
  | fields, p :: ps => do
    if ← discards p then
      let run ← emit p
      let (lead, filled) ← fillRowBy discards emit complete overflow fields ps
      return (run ++ lead, filled)
    else
      match fields with
      | [] => throw overflow
      | field :: fields => do
        let field ← complete p field
        let (after, filled) ← fillRowBy discards emit complete overflow fields ps
        return ([], (field, after) :: filled)

/-- A row is filled alike, if what is asked of each of its items is found by number. -/
theorem fillRowBy_eq {discards : Parser → Option Bool} {emit : Parser → Lookup TokenRun}
    {complete : Parser → FieldUnparser → Lookup FieldUnparser} {overflow : Problem}
    {fields : List FieldUnparser}
    (thrown : ∀ p ∈ items, discards p = some p.discards)
    (runs : ∀ p ∈ items, emit p = returns (g.emitRun p))
    (completes : ∀ p ∈ items, ∀ field, complete p field = returns (g.emitField p field)) :
    fillRowBy discards emit complete overflow fields items =
      returns (g.fillRow overflow fields items) := by
  induction items generalizing fields with
  | nil =>
    unfold fillRow
    rfl
  | cons p ps ih =>
    rw [List.forall_mem_cons] at thrown runs completes
    have rest (fields : List FieldUnparser) :
        fillRowBy discards emit complete overflow fields ps =
          returns (g.fillRow overflow fields ps) := ih thrown.2 runs.2 completes.2
    unfold fillRow fillRowBy
    rw [thrown.1, lift_some_bind]
    cases p.discards with
    | true =>
      simp only [if_true, runs.1, rest, returns_bind]
      rfl
    | false =>
      cases fields with
      | nil => rfl
      | cons field fields =>
        simp only [if_false, Bool.false_eq_true, completes.1, rest, returns_bind]
        rfl

/-! ## Nodes, fields and branches -/

/-- Whether the parser is a transform of one token, markers aside. -/
def wrapsOneTokenAt (g : Grammar) : Parser → Option Bool
  | .transform _ _ rowId _ => do
    match ← g.parser? rowId with
    | .row _ items =>
      match items.filter (!·.isNoBacktrack) with
      | [p] => return p.isToken
      | _ => return false
    | _ => return false
  | _ => return false

mutual

/-- The unparser of a node of type `node` that the parser with a number builds. -/
def nodeUnparserAt (g : Grammar) (node : NodeId) : (depth : Nat) → ParserId → Lookup NodeUnparser
  | 0, _ => brokenOff
  | depth + 1, id => do
    if !g.nodes.isConcrete node then
      throw (.internal (.notConcrete (g.nodes.name node)))
    else
      let p ← g.unwrapped? id
      if g.nodes.isTokenNode node then
        if ← g.wrapsOneTokenAt p then
          return .tokenNode node
        else
          throw (.unsupportedTokenNode (g.site p))
      else
        match p with
        | .transform _ _ rowId _ =>
          match ← g.parser? rowId with
          | .row _ items => do
            let name := g.nodes.name node
            let blank := RegularUnparser.blank g.nodes node
            let (lead, filled) ← fillRowBy (fun q => g.discardsAt depth q.id)
              (fun q => g.emitRunAt depth q.id) (fun q field => g.emitFieldAt depth q.id field)
              (.internal (.moreFields (g.describe p) name)) blank.fields items
            if filled.length != blank.fields.length then
              throw (.internal
                (.fewerFields (g.describe p) filled.length name blank.fields.length))
            return .regular (.ofRow node lead filled)
          | _ => throw (.internal (.notRow (g.describe p)))
        | .list _ _ _ none => return .list ⟨node, none⟩
        | .list _ _ _ (some separator) => do
          let token ← TokenTable.internParser g (← g.parser? separator.id)
          return .list ⟨node, some token⟩
        | .optBool _ inner alternatives =>
          let blank := RegularUnparser.blank g.nodes node
          if node = alternatives.present then do
            let pre ← g.emitRunAt depth inner.id
            return .regular { blank with pre }
          else
            return .regular blank
        | .opt _ inner _ => g.nodeUnparserAt node depth inner.id
        | .null .. => return .null node
        | p => throw (.unsupportedParser (g.site p))

/-- The field, completed with what the parser with a number tells. -/
def emitFieldAt (g : Grammar) :
    (depth : Nat) → ParserId → FieldUnparser → Lookup FieldUnparser
  | 0, _, _ => brokenOff
  | depth + 1, id, field => do
    let p ← g.unwrapped? id
    match p with
    | .defer .. | .list .. | .transform .. | .optBool .. =>
      return { field with alwaysAbsent := false }
    | .null .. => return field
    | .opt _ inner _ => g.emitFieldAt depth inner.id { field with alwaysAbsent := false }
    | .choice _ branches => do
      forM branches fun q => g.checkBranchAt depth q.id
      return { field with alwaysAbsent := false }
    | .pick .. => do
      let r ← g.splitPickAt depth p.id
      g.emitFieldAt depth r.2.1 { field with
        alwaysAbsent := false, pre := field.pre ++ r.1, post := r.2.2 ++ field.post }
    | p => throw (.unsupportedField (g.site p))

/-- Refuses the branch of a choice with a number unless it can be unparsed on its own. -/
def checkBranchAt (g : Grammar) : (depth : Nat) → ParserId → Lookup Unit
  | 0, _ => brokenOff
  | depth + 1, id => do
    let p ← g.unwrapped? id
    match p with
    | .defer .. | .skip .. => return ()
    | .optBool _ _ alternatives => do
      let _ ← g.nodeUnparserAt alternatives.present depth p.id
      let _ ← g.nodeUnparserAt alternatives.absent depth p.id
      return ()
    | p =>
      match ← (g.typeOfAt depth [] p.id).run' ∅ with
      | .node node =>
        if g.nodes.isConcrete node then do
          let _ ← g.nodeUnparserAt node depth p.id
          return ()
        else
          throw (.unsupportedParser (g.site p))
      | .token | .nothing => throw (.unsupportedField (g.site p))

end

/-- At a depth of calls, unparsers are derived by number as they are from parsers. -/
structure DerivesAt (g : Grammar) (depth : Nat) : Prop where
  node : ∀ p ∈ g.parsers, g.followDepth + 2 * p.id.raw < depth → ∀ node,
    g.nodeUnparserAt node depth p.id = returns (g.deriveNode node p)
  field : ∀ p ∈ g.parsers, g.followDepth + 2 * p.id.raw < depth → ∀ field,
    g.emitFieldAt depth p.id field = returns (g.emitField p field)
  branch : ∀ p ∈ g.parsers, g.followDepth + 2 * p.id.raw + 1 < depth →
    g.checkBranchAt depth p.id =
      returns (g.checkBranch p.unwrap fun node => g.deriveNode node p.unwrap)

/-- The field of a parser is looked for under its wrapper. -/
theorem emitField_unwrap (p : Parser) (field : FieldUnparser) :
    g.emitField p field =
      if p.unwrap.isDontSkip then throw (.unsupportedField (g.site p.unwrap))
      else g.emitField p.unwrap field := by
  cases p with
  | dontSkip id inner => exact emitField_dontSkip g id inner field
  | _ => rfl

/-- The unparser of a parser is looked for under its wrapper. -/
theorem deriveNode_unwrap {node : NodeId} (concrete : g.nodes.isConcrete node = true)
    (regular : g.nodes.isTokenNode node = false) (p : Parser) :
    g.deriveNode node p =
      if p.unwrap.isDontSkip then throw (.unsupportedParser (g.site p.unwrap))
      else g.deriveNode node p.unwrap := by
  cases p with
  | dontSkip id inner => exact deriveNode_dontSkip concrete regular id inner
  | _ => rfl

/-- The branches of a choice are looked through alike, if each of them is. -/
theorem forM_checkBranchAt {branches : List Parser}
    (each : ∀ p ∈ branches, g.checkBranchAt depth p.id =
      returns (g.checkBranch p.unwrap fun node => g.deriveNode node p.unwrap)) :
    (forM branches fun p => g.checkBranchAt depth p.id) = returns (g.checkBranches branches) := by
  induction branches with
  | nil => rfl
  | cons p ps ih =>
    rw [List.forall_mem_cons] at each
    rw [List.forM_cons, each.1, ih each.2, checkBranches_cons, returns_bind]

/-- A branch is checked as deep as the unparser that it needs, and one call more. -/
theorem DerivesAt.checkBranch (d : g.DerivesAt depth) (h : g.Ordered) (hp : p ∈ g.parsers)
    (enough : g.followDepth + 2 * p.id.raw < depth) :
    g.checkBranchAt (depth + 1) p.id =
      returns (g.checkBranch p.unwrap fun node => g.deriveNode node p.unwrap) := by
  obtain ⟨found, le⟩ := h.unwrap hp
  -- The unparser is asked for by the number of the branch itself, so only the depth has fallen.
  have nodes := d.node p.unwrap found (by omega)
  have yields := typeOfAt_eq h found (by omega : g.followDepth ≤ depth)
  rw [checkBranchAt, unwrapped?_eq h hp, lift_some_bind]
  generalize p.unwrap = q at nodes yields ⊢
  cases q with
  | defer | skip => rfl
  | optBool id inner alternatives =>
    simp only [Grammar.checkBranch, nodes, returns_bind]
    rfl
  | _ =>
    dsimp only [Grammar.checkBranch]
    rw [yields, lift_some_bind]
    cases g.yield _ with
    | token | nothing => rfl
    | node node =>
      dsimp only
      cases g.nodes.isConcrete node with
      | true =>
        simp only [if_true, nodes, returns_bind]
        rfl
      | false => rfl

/-- One call further down, the field of a parser is found by number. -/
theorem DerivesAt.emitField (d : g.DerivesAt depth) (h : g.Ordered) (hp : p ∈ g.parsers)
    (enough : g.followDepth + 2 * p.id.raw ≤ depth) (field : FieldUnparser) :
    g.emitFieldAt (depth + 1) p.id field = returns (g.emitField p field) := by
  obtain ⟨found, le⟩ := h.unwrap hp
  have below : ∀ q ∈ p.unwrap.children, q ∈ g.parsers ∧
      g.followDepth + 2 * q.id.raw + 1 < depth := fun q hq => by
    obtain ⟨declared, less⟩ := h.child found hq
    exact ⟨declared, by omega⟩
  rw [emitFieldAt, unwrapped?_eq h hp, lift_some_bind, emitField_unwrap]
  generalize p.unwrap = q at found le below ⊢
  cases q with
  | opt id inner tolerant =>
    obtain ⟨declared, enough⟩ := below inner List.mem_cons_self
    exact d.field inner declared (by omega) _
  | choice id branches =>
    have checked : (forM branches fun q => g.checkBranchAt depth q.id) =
        returns (g.checkBranches branches) :=
      forM_checkBranchAt fun q hq => d.branch q (below q hq).1 (below q hq).2
    dsimp only
    rw [checked]
    exact (returns_bind _ fun _ => pure { field with alwaysAbsent := false }).symm
  | pick id rowId items index =>
    have fields : ∀ q ∈ items, ∀ field,
        g.emitFieldAt depth q.id field = returns (g.emitField q field) := fun q hq => by
      obtain ⟨declared, less⟩ := h.item found rfl hq
      exact d.field q declared (by omega)
    dsimp only
    rw [splitPickAt_eq h found (by omega)]
    simp only [Parser.isDontSkip, Bool.false_eq_true, if_false, Grammar.emitField, splitPick,
      emitPicked_eq]
    cases picked : items[index]? with
    | none => rfl
    | some inner =>
      simp only [returns_bind, returns_pure, bind_assoc, pure_bind, Option.elim_some,
        fields inner (List.mem_of_getElem? picked)]
  | _ => rfl

/-- Whether a parser wraps just one token, asked by number. -/
theorem wrapsOneTokenAt_eq (h : g.Ordered) (hp : p ∈ g.parsers) :
    g.wrapsOneTokenAt p = some p.wrapsOneToken := by
  cases p with
  | transform id type rowId items =>
    rw [wrapsOneTokenAt, h.wf.parser?_row hp rfl, Option.bind_eq_bind, Option.bind_some,
      Parser.wrapsOneToken]
    dsimp only
    generalize List.filter _ items = significant
    rcases significant with _ | ⟨p, _ | ⟨q, rest⟩⟩ <;> rfl
  | _ => rfl

/-- The row of a transform is filled from the items that its number leads to. -/
theorem DerivesAt.fillRow (d : g.DerivesAt depth)
    (below : ∀ q ∈ items, q ∈ g.parsers ∧ g.followDepth + 2 * q.id.raw < depth) (h : g.Ordered)
    (overflow : Problem) (fields : List FieldUnparser) :
    fillRowBy (fun q => g.discardsAt depth q.id) (fun q => g.emitRunAt depth q.id)
      (fun q field => g.emitFieldAt depth q.id field) overflow fields items =
        returns (g.fillRow overflow fields items) := by
  refine fillRowBy_eq (fun q hq => ?_) (fun q hq => ?_) fun q hq => ?_
  all_goals obtain ⟨declared, enough⟩ := below q hq
  · exact discardsAt_eq h declared (by omega)
  · exact emitRunAt_eq h declared (by omega)
  · exact d.field q declared enough

/-- The unparser of a node that is built from fields. -/
theorem DerivesAt.deriveNode_of_regular (d : g.DerivesAt depth) (h : g.Ordered)
    (hp : p ∈ g.parsers) (enough : g.followDepth + 2 * p.id.raw ≤ depth) {node : NodeId}
    (concrete : g.nodes.isConcrete node = true) (regular : g.nodes.isTokenNode node = false) :
    g.nodeUnparserAt node (depth + 1) p.id = returns (g.deriveNode node p) := by
  obtain ⟨found, le⟩ := h.unwrap hp
  have below : ∀ q ∈ p.unwrap.children, q ∈ g.parsers ∧
      g.followDepth + 2 * q.id.raw < depth := fun q hq => by
    obtain ⟨declared, less⟩ := h.child found hq
    exact ⟨declared, by omega⟩
  rw [nodeUnparserAt, deriveNode_unwrap concrete regular]
  simp only [concrete, regular, Bool.not_true, Bool.false_eq_true, if_false]
  rw [unwrapped?_eq h hp, lift_some_bind]
  generalize p.unwrap = q at found le below ⊢
  -- What is left under a second wrapper is refused on both sides.
  by_cases twice : q.isDontSkip = true
  · cases q with
    | dontSkip => rfl
    | _ => cases twice
  rw [if_neg twice]
  cases q with
  | transform id type rowId items =>
    have inRow : ∀ q ∈ items, q ∈ g.parsers ∧ g.followDepth + 2 * q.id.raw < depth :=
      fun q hq => by
        obtain ⟨declared, less⟩ := h.item found rfl hq
        exact ⟨declared, by omega⟩
    dsimp only
    rw [h.wf.parser?_row found rfl, lift_some_bind, deriveNode_transform concrete regular]
    dsimp only
    rw [d.fillRow inRow h, returns_bind]
    refine congrArg (returns _ >>= ·) (funext fun r => ?_)
    split <;> rfl
  | list id type element separator =>
    cases separator with
    | none =>
      rw [deriveNode_list_none concrete regular]
      rfl
    | some separator =>
      obtain ⟨declared, -⟩ := below separator (List.mem_cons_of_mem _ List.mem_cons_self)
      dsimp only
      rw [deriveNode_list_some concrete regular, h.wf.numbered separator declared, lift_some_bind,
        returns_bind]
      rfl
  | optBool id inner alternatives =>
    obtain ⟨declared, enough⟩ := below inner List.mem_cons_self
    rw [deriveNode_optBool concrete regular]
    dsimp only
    split
    · rw [emitRunAt_eq h declared (by omega), returns_bind]
      rfl
    · rfl
  | opt id inner tolerant =>
    obtain ⟨declared, enough⟩ := below inner List.mem_cons_self
    rw [deriveNode_opt concrete regular]
    exact d.node inner declared enough node
  | null id type =>
    rw [deriveNode_null concrete regular]
    rfl
  | dontSkip id inner => exact absurd rfl twice
  | _ =>
    rw [deriveNode_unparsable concrete regular rfl]
    rfl

/-- One call further down, the unparser of a parser is found by number. -/
theorem DerivesAt.deriveNode (d : g.DerivesAt depth) (h : g.Ordered) (hp : p ∈ g.parsers)
    (enough : g.followDepth + 2 * p.id.raw ≤ depth) (node : NodeId) :
    g.nodeUnparserAt node (depth + 1) p.id = returns (g.deriveNode node p) := by
  by_cases concrete : g.nodes.isConcrete node = true
  · by_cases token : g.nodes.isTokenNode node = true
    · unfold Grammar.deriveNode
      rw [nodeUnparserAt]
      simp only [concrete, token, Bool.not_true, Bool.false_eq_true, if_false, if_true]
      rw [unwrapped?_eq h hp, lift_some_bind, wrapsOneTokenAt_eq h (h.unwrap hp).1, lift_some_bind]
      cases p.unwrap.wrapsOneToken <;> rfl
    · exact d.deriveNode_of_regular h hp enough concrete (Bool.not_eq_true _ |>.mp token)
  · unfold Grammar.deriveNode
    rw [nodeUnparserAt]
    simp only [concrete, Bool.not_false, if_true]
    rfl

/-- **Unparsers are derived by number as they are from parsers**, at every depth. -/
theorem derivesAt (h : g.Ordered) (depth : Nat) : g.DerivesAt depth := by
  induction depth with
  | zero => constructor <;> intros <;> omega
  | succ depth ih =>
    exact ⟨fun p hp enough => ih.deriveNode h hp (by omega),
      fun p hp enough => ih.emitField h hp (by omega),
      fun p hp enough => ih.checkBranch h hp (by omega)⟩

end Grammar

end Unparsing
