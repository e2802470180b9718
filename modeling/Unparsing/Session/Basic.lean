import Unparsing.Derivation.Basic
import Unparsing.Diagnostic.Queue
import Unparsing.Token.Run

/-!
# Session/Basic — the state of the derivation of a grammar's unparsers

What the derivation is asked to do are its `Settings`.  With unparsers `disabled`, node types are
still matched with the parsers that build them, but no unparser is derived and nothing is reported
about them.  Otherwise they are derived; a rule that drops what it parsed is an error if they are
`required`, and gives them up if they are wanted on a `bestEffort` basis.

A session notes which parsers build which node types, and, while unparsers are `enabled`, the
unparser of each.  Later the unparsers of a node type are combined into its final one, whose runs
are collected.  Both notes are kept in the order of encounter, for all node types together:

* `Session.producers` — the parsers that build a node type.
* `Session.occurrences` — the unparsers of a node type that are not combined yet.
-/

namespace Unparsing

/-! ## Settings -/

/-- Whether unparsers are asked for, and how strictly. -/
inductive Mode where
  | disabled
  | required
  | bestEffort
  deriving DecidableEq, Repr

instance : Inhabited Mode := ⟨.required⟩

/-- What the derivation is asked to do. -/
structure Settings where
  mode : Mode := .required
  /-- The categories of warnings to report. -/
  warnings : WarningSet := .all
  deriving DecidableEq, Repr, Inhabited

namespace Settings

/-- Whether unparsers are asked for. -/
def wantsUnparsers (s : Settings) : Bool := s.mode != .disabled

/-- Whether a rule that drops what it parsed is an error. -/
def rejectsLoss (s : Settings) : Bool := s.mode == .required

end Settings

/-! ## Sessions -/

/-- The state of the derivation of a grammar's unparsers. -/
structure Session where
  settings : Settings := {}
  /-- Whether unparsers are still being derived. -/
  enabled : Bool := settings.wantsUnparsers
  /-- The node types built so far, each with the parser that builds it. -/
  produced : Array (NodeId × Parser) := #[]
  /-- The unparsers derived so far and not combined yet. -/
  derived : Array (NodeId × NodeUnparser) := #[]
  /-- The parsers that stand for their node types, the latest first. -/
  canonical : List (NodeId × Parser) := []
  /-- The combined unparsers, the latest first. -/
  final : List (NodeId × NodeUnparser) := []
  tokens : TokenTable := {}
  /-- The runs of the combined unparsers. -/
  runTable : RunTable := .empty

namespace Session

instance : Inhabited Session := ⟨{}⟩

/-- The parsers that build nodes of a type, in the order in which they were met. -/
def producers (s : Session) (node : NodeId) : List Parser :=
  s.produced.toList.filterMap fun (n, p) => if n = node then some p else none

/-- The unparsers of a node type that are not combined yet, in the order of their parsers. -/
def occurrences (s : Session) (node : NodeId) : List NodeUnparser :=
  s.derived.toList.filterMap fun (n, u) => if n = node then some u else none

/-- The parser that stands for a node type. -/
def canonical? (s : Session) (node : NodeId) : Option Parser := s.canonical.lookup node

/-- The combined unparser of a node type. -/
def final? (s : Session) (node : NodeId) : Option NodeUnparser := s.final.lookup node

/-- The runs of the combined unparsers, each once, in order of first use. -/
abbrev runs (s : Session) : Array TokenRun := s.runTable.runs

/-- The place of a run among the runs of the combined unparsers. -/
def runIndex? (s : Session) (run : TokenRun) : Option Nat := s.runTable.index? run

/-- The registries that name the parts of a session's unparsers. -/
def lexicon (s : Session) (g : Grammar) : Lexicon := ⟨g.nodes, s.tokens⟩

/-- The combined unparsers with their node types, in the order of declaration. -/
def finals (s : Session) (g : Grammar) : List (NodeId × NodeUnparser) :=
  g.nodes.ids.filterMap fun node => (s.final? node).map (node, ·)

/-- The combined unparsers as lines of a listing. -/
def listing (s : Session) (g : Grammar) : String :=
  String.join ((s.finals g).map fun (_, u) => u.listing (s.lexicon g))

end Session

/-- A session and the queue that it reports to. -/
structure Progress where
  session : Session
  queue : DiagnosticQueue

/-- A step of a session that may report, and keeps its progress when it fails. -/
abbrev Pass := EStateM Problem Progress

namespace Progress

/-- No unparsers are derived from now on.  That is no error: the grammar is valid, but cannot be
unparsed automatically. -/
def giveUp (reason : String) (p : Progress) : Progress :=
  let settings := p.session.settings
  let message := reason ++ " This prevents the generation of an automatic unparser."
  { session := { p.session with enabled := false }
    queue := (p.queue.warnIf settings.warnings (.ofList [.badGrammar]) settings.wantsUnparsers
      { code := .badGrammar, severity := .warning, message }).2 }

/-- A session that gives unparsers up derives none any more. -/
@[simp] theorem enabled_giveUp (reason : String) (p : Progress) :
    (p.giveUp reason).session.enabled = false := rfl

end Progress

end Unparsing
