import Unparsing.Session.Basic
import Unparsing.Session.Survey
import Unparsing.Grammar.Agreement

/-!
# Build — the unparsers of a grammar

`Grammar.buildUnparsers` derives the unparsers of a grammar in three steps:

* `Session.compute` records a rule: the node types that it builds, with their producers, and their
  unparsers.
* `Session.check` looks whether the concrete node types are built, and whether the producers of each
  node type agree.
* `Session.finalize` combines the unparsers of each node type.

The first problem is reported as an error, after the warnings, and ends the derivation.
-/

namespace Unparsing

namespace Session

/-! ## A rule's producers and their unparsers

`compute` visits what a survey of the root of a rule finds.  Every node type built there is noted
with its producer, and its unparser is derived unless unparsers have been given up.  A rule whose
root does not create a node loses what it parsed: then unparsers are given up, or, where they are
required, the pick at fault is an error.  Rules made for `dontSkip` wrappers build nothing of their
own. -/

/-- Notes that `producer` builds nodes of type `node`, and derives the unparser. -/
def record (g : Grammar) (node : NodeId) (producer : Parser) : EStateM Problem Session Unit :=
  fun s =>
    let produced := s.produced.push (node, producer)
    let (derivation, tokens) :=
      Derivation.attempt s.enabled (g.deriveNode node producer) s.tokens
    match derivation.result with
    | .ok (some unparser) =>
      .ok () { s with produced, tokens, derived := s.derived.push (node, unparser) }
    | .ok none => .ok () { s with produced, tokens }
    | .error problem => .error problem { s with produced, tokens }

/-- Notes a finding in the root of the rule called `rule`. -/
def note (g : Grammar) (rule : String) : Finding → EStateM Problem Session Unit
  | .builds node producer => record g node producer
  | .drops pick => do
    let s ← get
    if s.enabled && s.settings.rejectsLoss then
      throw (.topLevelLoss rule (g.span pick))

/-- Notes what a rule builds. -/
def compute (g : Grammar) (rule : RuleId) : Pass Unit := fun p =>
  let name := g.ruleName rule
  if (g.rule? rule).any (·.dontSkip) then
    .ok () p
  else
    match g.root? rule with
    | none => .error (.internal (.ruleUndefined name)) p
    | some root =>
      match (root.visit (note g name) true).run p.session with
      | .error problem session => .error problem { p with session }
      | .ok _ session =>
        if g.createsNode root then
          .ok () { p with session }
        else
          .ok () (({ p with session } : Progress).giveUp
            s!"'{name}' toplevel rule loses information.")

/-! ## Every node type has producers, and they agree

`check` warns of the concrete node types that nothing builds.  While unparsers are derived it then
compares the producers of each node type, in the order of declaration, and notes the one that stands
for it.  The first node type whose producers do not agree ends the comparison, and unparsers are
given up.

Producers are known by their numbers: rules may be recorded from one grammar and checked with
another over the same registries, and then the parsers of the latter count. -/

/-- Whether a node type needs a producer and has none. -/
def isUnused (s : Session) (g : Grammar) (node : NodeId) : Bool :=
  (s.producers node).isEmpty && g.nodes.isConcrete node && !g.nodes.isBaseList node

/-- The report of a node type that needs a producer and has none. -/
def unusedDiagnostic (g : Grammar) (node : NodeId) : Diagnostic where
  code := .unusedNodeType
  severity := .warning
  message := s!"{g.nodes.name node} has no parser, and is marked neither abstract nor synthetic"

/-- The queue with a warning for each of the node types that needs a producer and has none. -/
def warnUnused (s : Session) (g : Grammar) (q : DiagnosticQueue) : DiagnosticQueue :=
  g.nodes.ids.foldl
    (fun q node => (q.warnIf s.settings.warnings (.ofList [.unusedNodeType]) (s.isUnused g node)
      (unusedDiagnostic g node)).2) q

/-- The producers of a node type, as a grammar has them now. -/
def currentProducers (s : Session) (g : Grammar) (node : NodeId) : List Parser :=
  (s.producers node).map g.current

/-- The session with the canonical producers of the node types noted, as far as producers agree,
and the first node type whose producers do not. -/
def checkAgreement (g : Grammar) (s : Session) : List NodeId → Session × Option NodeId
  | [] => (s, none)
  | node :: nodes =>
    if g.agree (s.currentProducers g node) then
      match Grammar.canonical? (s.currentProducers g node) with
      | none => checkAgreement g s nodes
      | some canonical =>
        checkAgreement g { s with canonical := (node, canonical) :: s.canonical } nodes
    else
      (s, some node)

/-- Checks that node types have producers, and that these agree. -/
def check (g : Grammar) (p : Progress) : Progress :=
  let queue := p.session.warnUnused g p.queue
  if p.session.enabled then
    match p.session.checkAgreement g g.nodes.ids with
    | (session, none) => { session, queue }
    | (session, some node) =>
      ({ session, queue } : Progress).giveUp
        s!"Node {g.nodes.name node} is parsed in different incompatible ways."
  else
    { p with queue }

/-! ## One unparser for each node type

`finalize` combines the unparsers of each node type, in the order of declaration, and collects the
runs of the result.  It stops at the first node type whose unparsers cannot be combined, and keeps
what it has done.  If unparsers have been given up, all of them are dropped. -/

/-- The session without the unparsers of a node type that are not combined yet. -/
def dropOccurrences (s : Session) (node : NodeId) : Session :=
  { s with derived := s.derived.filter (·.1 != node) }

/-- The session with the combined unparser of a node type, and its runs. -/
def setFinal (s : Session) (node : NodeId) (unparser : NodeUnparser) : Session :=
  { s with
    final := (node, unparser) :: s.final
    runTable := s.runTable.addAll unparser.runs }

/-- Combines the unparsers of a node type, if it has any. -/
def finalizeNode (g : Grammar) (node : NodeId) : EStateM Problem Session Unit := fun s =>
  if (s.occurrences node).isEmpty then
    .ok () s
  else
    match (s.occurrences node).filter (!·.isNull) with
    | [] => .error (.internal (.onlyNull (g.nodes.name node))) (s.dropOccurrences node)
    | first :: others =>
      match others.foldlM (NodeUnparser.combine (s.lexicon g)) first with
      | .error problem => .error problem (s.dropOccurrences node)
      | .ok unparser => .ok () ((s.dropOccurrences node).setFinal node unparser)

/-- Combines the unparsers of every node type. -/
def finalize (g : Grammar) : EStateM Problem Session Unit := do
  let s ← get
  if s.enabled then
    g.nodes.ids.forM (finalizeNode g)
  else
    set { s with derived := #[], final := [] }

/-! ## The whole derivation -/

/-- Combines the unparsers of every node type, as a step of a pass. -/
def finalizePass (g : Grammar) : Pass Unit := fun p =>
  match (finalize g).run p.session with
  | .ok _ session => .ok () { p with session }
  | .error problem session => .error problem { p with session }

/-- All steps of a derivation. -/
def pass (g : Grammar) : Pass Unit := do
  g.ruleIds.forM (compute g)
  modify (check g)
  finalizePass g

end Session

/-- The session with the unparsers of a grammar, and the queue with what there was to report. -/
def Grammar.buildUnparsers (g : Grammar) (settings : Settings) (q : DiagnosticQueue) :
    Except ErrorsReported Session × DiagnosticQueue :=
  match (Session.pass g).run { session := { settings }, queue := q } with
  | .ok _ p => (.ok p.session, p.queue)
  | .error problem p =>
    let (reported, q) := p.queue.emitError problem.diagnostic
    (.error reported, q)

end Unparsing
