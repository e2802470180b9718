import Unparsing.Grammar.Parser
import Unparsing.Index
import Unparsing.Quoted

/-!
# Grammar/Basic — a language's registries, parsers and rules

A grammar holds the node types and token kinds of a language, the parsers declared over them, and
the named rules.  A parser is numbered when it is declared, and its span is kept beside it under
that number, so a span set later shows wherever the parser is used.

* `Grammar.add` — the one way in which parsers are declared; the others (`row`, `transform`, …)
  are its instances.  `transform` and `pick` declare the row of their items first.
* `Grammar.root?` — the parser that a rule stands for, if the rule is defined.
* `Grammar.describe` — a parser in one line, for reports.
-/

namespace Unparsing

/-- A declared parser and where it was declared. -/
structure Located where
  parser : Parser
  span : Span := .dummy

/-- A named rule. -/
structure Rule where
  name : String
  /-- The parser the rule stands for, once it is defined. -/
  root : Option Parser
  /-- Made for a `dontSkip` wrapper, not written by a user. -/
  dontSkip : Bool

/-- The registries of a language, its parsers and its rules. -/
structure Grammar where
  nodes : NodeTypes := {}
  kinds : TokenKinds := {}
  located : Array Located := #[]
  rules : Array Rule := #[]

namespace Grammar

instance : Inhabited Grammar := ⟨{}⟩

/-! ## Declaring parsers -/

/-- A new parser, made by `form` from its number. -/
def add (g : Grammar) (form : ParserId → Parser) : Parser × Grammar :=
  let p := form ⟨g.located.size⟩
  (p, { g with located := g.located.push { parser := p } })

/-- A row of items. -/
def row (g : Grammar) (items : List Parser) : Parser × Grammar := g.add (.row · items)

/-- A node built from items, whose row is declared first. -/
def transform (g : Grammar) (node : NodeId) (items : List Parser) : Parser × Grammar :=
  let (r, g) := g.row items
  g.add (.transform · node r.id items)

/-- One of several items, whose row is declared first. -/
def pick (g : Grammar) (items : List Parser) (index : Nat) : Parser × Grammar :=
  let (r, g) := g.row items
  g.add (.pick · r.id items index)

/-- A list of elements, with a separator between them if there is one. -/
def list (g : Grammar) (node : NodeId) (element : Parser) (separator : Option Parser) :
    Parser × Grammar :=
  g.add (.list · node element separator)

/-- An optional whose inner parser may be missing. -/
def opt (g : Grammar) (inner : Parser) : Parser × Grammar := g.add (.opt · inner false)

/-- An optional that reports a missing match and goes on as if it were there. -/
def optTolerant (g : Grammar) (inner : Parser) : Parser × Grammar := g.add (.opt · inner true)

/-- An optional that yields a node which tells whether its inner parser matched. -/
def optBool (g : Grammar) (inner : Parser) (alternatives : BoolAlternatives) : Parser × Grammar :=
  g.add (.optBool · inner alternatives)

/-- The first branch that matches. -/
def choice (g : Grammar) (branches : List Parser) : Parser × Grammar := g.add (.choice · branches)

/-- A reference to a rule. -/
def defer (g : Grammar) (rule : RuleId) : Parser × Grammar := g.add (.defer · rule)

/-- A token, with its text if its kind leaves that open. -/
def token (g : Grammar) (kind : KindId) (text : Option String) : Parser × Grammar :=
  g.add (.token · kind text)

/-- An absent node of a type. -/
def null (g : Grammar) (node : NodeId) : Parser × Grammar := g.add (.null · node)

/-- A parser whose result has to pass a check. -/
def predicate (g : Grammar) (inner : Parser) (property : String) : Parser × Grammar :=
  g.add (.predicate · inner property)

/-- An error node of a type, made up while recovering. -/
def skip (g : Grammar) (node : NodeId) : Parser × Grammar := g.add (.skip · node)

/-- A mark from which a row does not backtrack. -/
def noBacktrack (g : Grammar) : Parser × Grammar := g.add .noBacktrack

/-- A parser that recovery does not skip past. -/
def dontSkip (g : Grammar) (inner : Parser) : Parser × Grammar := g.add (.dontSkip · inner)

/-- A new parser has the next number. -/
@[simp] theorem located_add (g : Grammar) (form : ParserId → Parser) :
    (g.add form).2.located = g.located.push { parser := form ⟨g.located.size⟩ } := rfl

/-! ## Parsers and their spans -/

/-- The parser of a number. -/
def parser? (g : Grammar) (id : ParserId) : Option Parser := (g.located[id.raw]?).map (·.parser)

/-- The parser that carries the number of `p` now.  It is `p` itself in the grammar that declares
`p`; another grammar over the same registries may have given the number to another parser. -/
def current (g : Grammar) (p : Parser) : Parser := (g.parser? p.id).getD p

/-- The declared parsers, in order of declaration. -/
def parsers (g : Grammar) : List Parser := g.located.toList.map (·.parser)

/-- Where a parser was declared. -/
def span (g : Grammar) (p : Parser) : Span := ((g.located[p.id.raw]?).map (·.span)).getD .dummy

/-- The grammar with the span of one parser replaced. -/
def setSpan (g : Grammar) (id : ParserId) (span : Span) : Grammar :=
  { g with located := g.located.modify id.raw fun l => { l with span } }

/-- A parser that has its number in a grammar is the current one there. -/
theorem current_of_parser? {g : Grammar} {p : Parser} (h : g.parser? p.id = some p) :
    g.current p = p := by
  simp [current, h]

/-! ## Rules -/

/-- The rules, in order of declaration. -/
def ruleIds (g : Grammar) : List RuleId := Index.upTo g.rules.size

/-- The rule of a number. -/
def rule? (g : Grammar) (id : RuleId) : Option Rule := g.rules[id.raw]?

/-- A new rule, still to be defined. -/
def declareRule (g : Grammar) (name : String) : RuleId × Grammar :=
  (⟨g.rules.size⟩, { g with rules := g.rules.push ⟨name, none, false⟩ })

/-- The grammar with a rule standing for `root` from now on. -/
def defineRule (g : Grammar) (id : RuleId) (root : Parser) : Grammar :=
  { g with rules := g.rules.modify id.raw fun r => { r with root := some root } }

/-- A new rule that stands for `root`. -/
def addRule (g : Grammar) (name : String) (root : Parser) : RuleId × Grammar :=
  (⟨g.rules.size⟩, { g with rules := g.rules.push ⟨name, some root, false⟩ })

/-- A new rule made for a `dontSkip` wrapper. -/
def addDontSkipRule (g : Grammar) (name : String) (root : Parser) : RuleId × Grammar :=
  (⟨g.rules.size⟩, { g with rules := g.rules.push ⟨name, some root, true⟩ })

/-- The first rule of that name. -/
def findRule? (g : Grammar) (name : String) : Option RuleId :=
  (g.rules.findIdx? (·.name == name)).map Index.mk

/-- The parser that a rule stands for, if the rule is defined. -/
def root? (g : Grammar) (id : RuleId) : Option Parser := (g.rule? id).bind (·.root)

/-- A rule with a root is declared. -/
theorem mem_ruleIds_of_root? {g : Grammar} {id : RuleId} {root : Parser}
    (h : g.root? id = some root) : id ∈ g.ruleIds := by
  obtain ⟨_, found, -⟩ := Option.bind_eq_some_iff.mp h
  exact Index.mem_upTo.mpr (Array.getElem?_eq_some_iff.mp found).1

/-- The name of a rule, empty for a number that no rule has. -/
def ruleName (g : Grammar) (id : RuleId) : String := ((g.rule? id).map (·.name)).getD ""

/-- A grammar over the same registries, with neither parsers nor rules. -/
def fork (g : Grammar) : Grammar := { nodes := g.nodes, kinds := g.kinds }

/-! ## Descriptions -/

/-- A parser in one line, without its place. -/
def headline (g : Grammar) : Parser → String
  | .transform _ node .. => "Transform(" ++ g.nodes.name node ++ ")"
  | .list _ node .. => "List(" ++ g.nodes.name node ++ ")"
  | .null _ node => "Null(" ++ g.nodes.name node ++ ")"
  | .skip _ node => "Skip(" ++ g.nodes.name node ++ ")"
  | .pick _ _ _ index => "Pick[" ++ toString index ++ "]"
  | .defer _ rule => "Defer(" ++ g.ruleName rule ++ ")"
  | .predicate _ _ property => "Predicate(" ++ property ++ ")"
  | .token _ kind (some text) => "Token(" ++ g.kinds.name kind ++ " " ++ Quoted.quote text ++ ")"
  | .token _ kind none => "Token(" ++ g.kinds.name kind ++ ")"
  | .optBool _ _ alternatives => "Opt.as_bool(" ++ g.nodes.name alternatives.base ++ ")"
  | p => p.kind.name

/-- A parser in one line, with its place unless it has none. -/
def describe (g : Grammar) (p : Parser) : String :=
  if (g.span p).isDummy then
    g.headline p
  else
    g.headline p ++ " at " ++ (g.span p).text

end Grammar

end Unparsing
