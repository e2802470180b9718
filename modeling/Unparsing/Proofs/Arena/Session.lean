import Unparsing.Proofs.Arena.Agreement
import Unparsing.Proofs.Arena.Derivation
import Unparsing.Proofs.Session.Declared

/-!
# Proofs/Arena/Session — a derivation by number

Recording a rule walks from the number of its root to the numbers of the parsers inside, and
checking the producers of a node type starts from the numbers that were recorded.  Over a grammar
that was declared step by step, none of it goes deeper than `Grammar.callDepth`, and all of it does
what is done with the parsers (`Session.passAt_eq`).
-/

namespace Unparsing

open Unparsing.Limited (brokenOff returns lift_some_bind returns_bind
  returns_bind_apply returns_forM)

/-- A visit starts at the parser itself, and goes on with what is directly inside it. -/
theorem Parser.visit_eq {ε σ : Type} (f : Finding → EStateM ε σ Unit) (top : Bool) (p : Parser) :
    p.visit f top = (do
      forM (p.findings top) f
      forM p.children fun q => q.visit f (top && !p.isProducer)) := by
  have inside (ps : List Parser) (top : Bool) :
      forM (ps.flatMap (surveyUnder top)) f = forM ps fun q => q.visit f top := by
    induction ps with
    | nil => rfl
    | cons q ps ih =>
      rw [List.flatMap_cons, List.forM_append, ih, List.forM_cons, visit_eq_forM_surveyUnder]
  rw [visit_eq_forM_surveyUnder, surveyUnder_eq, List.forM_append, inside]

/-- A depth of calls that is enough for a derivation. -/
def Grammar.callDepth (g : Grammar) : Nat := g.followDepth + 2 * g.located.size + 1

namespace Session

variable {g : Grammar} {p : Parser} {s : Session} {q : Progress} {depth : Nat} {name : String}
variable {rules : List RuleId}

/-! ## Recording -/

/-- Notes that the parser with a number builds nodes of type `node`, and derives the unparser. -/
def recordAt (g : Grammar) (depth : Nat) (node : NodeId) (id : ParserId) :
    Limited Problem Session Unit := fun s => do
  let producer ← g.parser? id
  let produced := s.produced.push (node, producer)
  if s.enabled then
    match ← g.nodeUnparserAt node depth id s.tokens with
    | (.ok unparser, tokens) =>
      return (.ok (), { s with produced, tokens, derived := s.derived.push (node, unparser) })
    | (.error problem, tokens) => return (.error problem, { s with produced, tokens })
  else
    return (.ok (), { s with produced })

/-- Whether the row with a number is one parser followed by the end of the input. -/
def endsInputAt (g : Grammar) (rowId : ParserId) : Option Bool := do
  match ← g.parser? rowId with
  | .row _ items => return Parser.endsInput items
  | _ => return false

/-- Notes what is found at a parser itself, in the root of the rule called `name`. -/
def noteAt (g : Grammar) (name : String) (depth : Nat) (top : Bool) :
    Parser → Limited Problem Session Unit
  | .transform id node .. | .list id node .. => recordAt g depth node id
  | .optBool id _ alternatives => forM alternatives.toList fun node => recordAt g depth node id
  | .pick id rowId items index => do
    let ends ← endsInputAt g rowId
    let s ← get
    if top && !ends && (s.enabled && s.settings.rejectsLoss) then
      throw (.topLevelLoss name (g.span (.pick id rowId items index)))
  | _ => return ()

/-- Notes what is found in the parser with a number. -/
def walkAt (g : Grammar) (name : String) :
    (depth : Nat) → (top : Bool) → ParserId → Limited Problem Session Unit
  | 0, _, _ => brokenOff
  | depth + 1, top, id => do
    let p ← g.parser? id
    noteAt g name depth top p
    forM p.children fun q => walkAt g name depth (top && !p.isProducer) q.id

/-- A producer is recorded alike, if its unparser is found by number. -/
theorem recordAt_eq {node : NodeId} (hp : g.parser? p.id = some p)
    (derived : g.nodeUnparserAt node depth p.id = returns (g.deriveNode node p)) :
    recordAt g depth node p.id = returns (record g node p) := by
  funext s
  simp only [recordAt, record, hp, derived, returns, Derivation.attempt, Option.bind_eq_bind,
    Option.bind_some]
  cases s.enabled with
  | false => rfl
  | true => cases g.deriveNode node p s.tokens <;> rfl

/-- The findings in a parser are noted alike. -/
theorem noteAt_eq (h : g.Ordered) (hp : p ∈ g.parsers) (top : Bool)
    (derived : ∀ node, g.nodeUnparserAt node depth p.id = returns (g.deriveNode node p)) :
    noteAt g name depth top p = returns (forM (p.findings top) (note g name)) := by
  have records (node : NodeId) := recordAt_eq (h.wf.numbered p hp) (derived node)
  have single (f : Finding) : forM [f] (note g name) = note g name f := by
    rw [List.forM_cons, List.forM_nil, bind_pure_unit]
  cases p with
  | transform id node rowId items | list id node element separator =>
    rw [Parser.findings, single]
    exact records node
  | optBool id inner alternatives =>
    have each : ∀ node ∈ alternatives.toList, recordAt g depth node id =
        returns (note g name (.builds node (.optBool id inner alternatives))) :=
      fun node _ => records node
    rw [noteAt, returns_forM each, Parser.findings, List.forM_map]
  | pick id rowId items index =>
    have ends : endsInputAt g rowId = some (Parser.endsInput items) := by
      rw [endsInputAt, h.wf.parser?_row hp rfl]
      rfl
    rw [noteAt, ends, lift_some_bind, Parser.findings]
    cases top && !Parser.endsInput items with
    | true =>
      rw [if_pos rfl, single]
      funext s
      rw [returns, note_drops]
      change (if s.enabled && s.settings.rejectsLoss then _ else _ :
        Limited Problem Session Unit) s = _
      split <;> rfl
    | false => rfl
  | _ => rfl

/-- A walk through the numbers inside a parser notes what a visit of the parser does. -/
theorem walkAt_eq (h : g.Ordered) (hp : p ∈ g.parsers) (top : Bool)
    (enough : g.followDepth + 2 * p.id.raw + 1 < depth) :
    walkAt g name depth top p.id = returns (p.visit (note g name) top) := by
  induction depth generalizing p top with
  | zero => cases enough
  | succ depth ih =>
    have derived := (Grammar.derivesAt h depth).node p hp (by omega)
    have inner : ∀ q ∈ p.children, walkAt g name depth (top && !p.isProducer) q.id =
        returns (q.visit (note g name) (top && !p.isProducer)) := fun q hq => by
      obtain ⟨declared, less⟩ := h.child hp hq
      exact ih declared _ (by omega)
    rw [walkAt, h.wf.numbered p hp, lift_some_bind, noteAt_eq h hp top derived, returns_forM inner,
      ← returns_bind, ← Parser.visit_eq]

/-! ## Rules -/

/-- A computation on the session, as a step of a derivation. -/
def onSession {α : Type} (m : Limited Problem Session α) : Limited Problem Progress α := fun q =>
  (m q.session).map fun (r, session) => (r, { q with session })

/-- Notes what a rule builds. -/
def computeAt (g : Grammar) (depth : Nat) (rule : RuleId) : Limited Problem Progress Unit := do
  let name := g.ruleName rule
  if (g.rule? rule).any (·.dontSkip) then
    return ()
  else
    match g.root? rule with
    | none => throw (.internal (.ruleUndefined name))
    | some root => do
      onSession (walkAt g name depth true root.id)
      if ← g.createsNodeAt depth root.id then
        return ()
      else
        modify (·.giveUp s!"'{name}' toplevel rule loses information.")

/-- The session with the canonical producers of node types noted, as far as producers agree, and the
first node type whose producers do not. -/
def checkAgreementAt (g : Grammar) (depth : Nat) (s : Session) :
    List NodeId → Option (Session × Option NodeId)
  | [] => some (s, none)
  | node :: nodes => do
    let ids := (s.producers node).map Parser.id
    if ← g.structEqAt depth true ids then
      match ← g.canonicalAt depth ids with
      | none => checkAgreementAt g depth s nodes
      | some id => do
        let canonical ← g.parser? id
        checkAgreementAt g depth { s with canonical := (node, canonical) :: s.canonical } nodes
    else
      return (s, some node)

/-- Checks that node types have producers, and that these agree. -/
def checkAt (g : Grammar) (depth : Nat) (q : Progress) : Option Progress := do
  let queue := q.session.warnUnused g q.queue
  if q.session.enabled then
    match ← checkAgreementAt g depth q.session g.nodes.ids with
    | (session, none) => return { session, queue }
    | (session, some node) =>
      return ({ session, queue } : Progress).giveUp
        s!"Node {g.nodes.name node} is parsed in different incompatible ways."
  else
    return { q with queue }

/-- All steps of a derivation, over rules in an order of their own. -/
def passAt (g : Grammar) (depth : Nat) (rules : List RuleId) : Limited Problem Progress Unit := do
  forM rules (computeAt g depth)
  set (← checkAt g depth (← get))
  finalizePass g

/-- A rule is recorded by number as on trees. -/
theorem computeAt_eq (h : g.Ordered) (enough : g.callDepth ≤ depth) (rule : RuleId) :
    computeAt g depth rule = returns (compute g rule) := by
  funext q
  by_cases passed : (g.rule? rule).any (·.dontSkip) = true
  · simp only [computeAt, compute, returns, passed, if_true]
    rfl
  rw [Bool.not_eq_true] at passed
  simp only [computeAt, compute, returns, passed, Bool.false_eq_true, if_false]
  cases rooted : g.root? rule with
  | none => rfl
  | some root =>
    have found := h.wf.mem_of_root? rooted
    have inside := h.wf.id_lt found
    rw [Grammar.callDepth] at enough
    dsimp only
    rw [walkAt_eq h found true (by omega), Grammar.createsNodeAt_eq h found (by omega),
      lift_some_bind]
    simp only [bind, ExceptT.bind, ExceptT.mk, StateT.bind, onSession, returns, EStateM.run]
    cases root.visit (note g (g.ruleName rule)) true q.session with
    | ok _ s =>
      cases g.createsNode root <;> rfl
    | error problem s => rfl

/-- The producers of node types are compared by number as on trees. -/
theorem checkAgreementAt_eq (h : g.Ordered) (enough : g.callDepth ≤ depth)
    (declared : s.Declared g) (nodes : List NodeId) :
    checkAgreementAt g depth s nodes = some (checkAgreement g s nodes) := by
  induction nodes generalizing s with
  | nil => rfl
  | cons node nodes ih =>
    obtain ⟨current, ids⟩ := declared.currentProducers h.wf node
    have near : ∀ p ∈ s.currentProducers g node, g.compareDepth + p.id.raw < depth := fun p hp => by
      have inside := h.wf.id_lt (current p hp)
      rw [Grammar.callDepth] at enough
      rw [Grammar.compareDepth]
      omega
    have positive : 0 < depth := by
      rw [Grammar.callDepth] at enough
      omega
    have canonical := Grammar.canonicalAt_eq h current fun p hp =>
      (Nat.lt_of_le_of_lt (Nat.le_add_left _ _) (near p hp) : p.id.raw < depth)
    have compared : g.structEqAt depth true ((s.currentProducers g node).map Parser.id) =
        some (g.agree (s.currentProducers g node)) :=
      Grammar.structEqAt_eq h current near positive
    simp only [checkAgreementAt, checkAgreement, ← ids, compared, canonical, Option.bind_eq_bind,
      Option.bind_some]
    by_cases agree : g.agree (s.currentProducers g node) = true
    · rw [if_pos agree, if_pos agree]
      cases first : Grammar.canonical? (s.currentProducers g node) with
      | none => exact ih declared
      | some p =>
        have found := h.wf.numbered p (current p (mem_of_canonical? first))
        simp only [Option.map_some, found, Option.bind_some]
        exact ih declared
    · rw [if_neg agree, if_neg agree]
      rfl

/-- A session is checked by number as on trees. -/
theorem checkAt_eq (h : g.Ordered) (enough : g.callDepth ≤ depth)
    (declared : q.session.Declared g) : checkAt g depth q = some (check g q) := by
  rw [checkAt, check]
  cases q.session.enabled with
  | false => rfl
  | true =>
    simp only [if_true, checkAgreementAt_eq h enough declared, Option.bind_eq_bind,
      Option.bind_some]
    generalize checkAgreement g q.session g.nodes.ids = reached
    obtain ⟨session, _ | node⟩ := reached <;> rfl

/-- A pass over rules does by number what it does on trees. -/
theorem passAt_eq (h : g.Ordered) (enough : g.callDepth ≤ depth) (declared : q.session.Declared g) :
    passAt g depth rules q = returns (passOver g rules) q := by
  have recorded := returns_forM fun rule (_ : rule ∈ rules) => computeAt_eq h enough rule
  rw [passAt, passOver, recorded, returns_bind]
  change (returns (forM rules (compute g)) >>= _) q = (returns (forM rules (compute g)) >>= _) q
  rw [returns_bind_apply, returns_bind_apply]
  cases run : forM rules (compute g) q with
  | error problem q' => rfl
  | ok _ q' =>
    have checked := checkAt_eq h enough (declared.of_forM_compute h.wf run)
    change (liftM (checkAt g depth q') >>= fun q =>
      set q >>= fun _ => returns (finalizePass g)) q' = _
    rw [checked, lift_some_bind]
    rfl

end Session

/-- The session with the unparsers of a grammar, and the queue with what there was to report. -/
def Grammar.buildAt (g : Grammar) (depth : Nat) (settings : Settings) (q : DiagnosticQueue) :
    Option (Except ErrorsReported Session × DiagnosticQueue) := do
  match ← Session.passAt g depth g.ruleIds { session := { settings }, queue := q } with
  | (.ok _, p) => return (.ok p.session, p.queue)
  | (.error problem, p) =>
    let (reported, q) := p.queue.emitError problem.diagnostic
    return (.error reported, q)

/-- **The unparsers of a grammar are derived by number** as they are on trees. -/
theorem Grammar.buildAt_eq {g : Grammar} {depth : Nat} (h : g.Ordered)
    (enough : g.callDepth ≤ depth) (settings : Settings) (q : DiagnosticQueue) :
    g.buildAt depth settings q = some (g.buildUnparsers settings q) := by
  have passed : Session.passAt g depth g.ruleIds { session := { settings }, queue := q } =
      returns (Session.passOver g g.ruleIds) { session := { settings }, queue := q } :=
    Session.passAt_eq h enough (Session.declared_fresh g settings)
  rw [buildAt, buildUnparsers, Session.pass_eq_passOver, passed, EStateM.run]
  simp only [returns, Option.bind_eq_bind, Option.bind_some]
  cases Session.passOver g g.ruleIds _ <;> rfl

end Unparsing
