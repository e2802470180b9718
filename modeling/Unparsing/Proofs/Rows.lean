import Unparsing.Proofs.Derivation.Row

/-!
# Proofs/Rows — a transform writes its row in order

The unparser derived from a transform has one field for each parser that the row keeps, in order,
and loses no run: those of the parsers thrown away stand where the parsers do, and those of the
nested `pick`s stand around their field (`Grammar.row_in_order`).
-/

namespace Unparsing

namespace Grammar

variable {g : Grammar} {t t' : TokenTable}

/-- **A row is written in its order.**  A transform of which an unparser is derived keeps as many
parsers as its node type has fields, and the first of them fills the first field, which is an
inherited one if there is any.  The runs before, between and after the fields are those of the
parsers thrown away there; without fields, the first run is that of the whole row, and there is no
other. -/
theorem row_in_order {node type : NodeId} {id rowId : ParserId} {items : List Parser}
    {v : NodeUnparser} (regular : g.nodes.isTokenNode node = false)
    (run : g.deriveNode node (.transform id type rowId items) t = .ok v t') :
    ∃ u : RegularUnparser, v = .regular u ∧ u.node = node ∧
      (items.filter (!·.discards)).length = (g.nodes.parseFields node).length ∧
      u.fields.map (·.field) = g.nodes.parseFields node ∧
      List.Forall₂ (g.FilledBy t' node) u.fields (items.filter (!·.discards)) ∧
      List.Forall₂ (g.RunOf t') (items.splitOnP (!·.discards)) u.rowRuns ∧
      u.inter.length = u.fields.length - 1 ∧ (u.fields = [] → u.post = []) := by
  obtain ⟨concrete, -, shaped, -⟩ := deriveNode_ok run
  obtain ⟨_, r, filled, width, rfl⟩ := fillRow_of_deriveNode concrete regular run
  have row := fillRow_filled filled (.refl t')
  have shaped : (RegularUnparser.ofRow node r.1 r.2).WellShaped g.nodes := shaped
  refine ⟨_, rfl, rfl, ?_, shaped.fields, row.filledBy width, ?_, shaped.inter, fun bare => ?_⟩
  · rw [← row.width, width, RegularUnparser.blank, List.length_map]
  · rw [RegularUnparser.rowRuns_ofRow]
    exact row.runs
  · have none : r.2 = [] := List.map_eq_nil_iff.mp bare
    rw [RegularUnparser.ofRow, none]
    rfl

end Grammar

/-! ## A call

A call has an object, which every member has, and an argument, which may be left out. -/

namespace Members

open Grammar

/-- The token `.`. -/
def dot : Parser := .token ⟨0⟩ ⟨1⟩ none
/-- The token `(`. -/
def opening : Parser := .token ⟨1⟩ ⟨2⟩ none
/-- The token `)`. -/
def closing : Parser := .token ⟨2⟩ ⟨3⟩ none
/-- The token `,`. -/
def comma : Parser := .token ⟨3⟩ ⟨4⟩ none
/-- A unit, which is written as nothing. -/
def unit : Parser := .transform ⟨5⟩ ⟨0⟩ ⟨4⟩ []
/-- A unit between a comma and a dot. -/
def ended : Parser := .pick ⟨7⟩ ⟨6⟩ [comma, unit, dot] 1
/-- The same between parentheses. -/
def enclosed : Parser := .pick ⟨10⟩ ⟨9⟩ [opening, .dontSkip ⟨8⟩ ended, closing] 1
/-- The same, or nothing. -/
def argument : Parser := .opt ⟨11⟩ enclosed false
/-- A row of one comma. -/
def commas : Parser := .row ⟨12⟩ [comma]
/-- A call: `(`, its object, `.`, `,`, its argument, and `)`. -/
def call : Parser := .transform ⟨14⟩ ⟨2⟩ ⟨13⟩ [opening, unit, dot, commas, argument, closing]

/-- Units, members, calls, and their tokens. -/
def grammar : Grammar where
  nodes := (({} : NodeTypes).declare "Unit" none {} |>.2.declare "Member" none {}
    |>.2.addField ⟨1⟩ "object" |>.2.declare "Call" (some ⟨1⟩) {} |>.2.addField ⟨2⟩ "argument").2
  kinds := (({} : TokenKinds).declareLiteral "Dot" "." |>.2.declareLiteral "Open" "("
    |>.2.declareLiteral "Close" ")" |>.2.declareLiteral "Comma" ",").2

/-- The object stands alone, the argument between the tokens of both picks. -/
def written : RegularUnparser where
  node := ⟨2⟩
  pre := [⟨0⟩]
  fields := [{ node := ⟨2⟩, field := ⟨0⟩, alwaysAbsent := false },
    { node := ⟨2⟩, field := ⟨1⟩, alwaysAbsent := false, pre := [⟨0⟩, ⟨2⟩], post := [⟨1⟩, ⟨3⟩] }]
  inter := [[⟨1⟩, ⟨2⟩]]
  post := [⟨3⟩]

/-- The table of all four tokens, in the order in which a call is written. -/
def table : TokenTable where
  tokens := #[⟨⟨⟨2⟩, none⟩, "("⟩, ⟨⟨⟨1⟩, none⟩, "."⟩, ⟨⟨⟨4⟩, none⟩, ","⟩, ⟨⟨⟨3⟩, none⟩, ")"⟩]

/-- The parenthesis, the dot with the comma, and the closing parenthesis are written around the
object and the argument of a call; the argument comes with tokens of its own. -/
theorem row_in_order_of_call : grammar.deriveNode ⟨2⟩ call {} = .ok (.regular written) table ∧
    [unit, argument].length = (grammar.nodes.parseFields ⟨2⟩).length ∧
    List.Forall₂ (grammar.FilledBy table ⟨2⟩) written.fields [unit, argument] ∧
    argument.picks = [enclosed, ended] ∧
    List.Forall₂ (grammar.RunOf table) [[opening], [dot, commas], [closing]] written.rowRuns := by
  have run : grammar.deriveNode ⟨2⟩ call {} = .ok (.regular written) table :=
    Derivation.attempt_eq_derived.mp (by decide +kernel)
  obtain ⟨_, same, -, width, -, filled, runs, -⟩ := row_in_order (by decide +kernel) run
  cases same
  exact ⟨run, width, filled, rfl, runs⟩

end Members

end Unparsing
