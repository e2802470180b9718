import Unparsing.Grammar.Parser

/-!
# Session/Survey — what a rule builds, and what it drops

A survey of a parser lists, from the outside in and from left to right, the node types that the
combinators inside it build, and the picks at its top that drop more than the end of the input.
References are not followed: every rule has a survey of its own.

* `Parser.survey` — the findings as a list.
* `Parser.visit` — an action run on each finding in turn (`visit_eq_forM_surveyUnder`).  The first
  failure ends the visit, and nothing behind it is looked at.
-/

namespace Unparsing

/-- Something a survey comes upon. -/
inductive Finding where
  /-- A combinator that builds nodes of a type. -/
  | builds (node : NodeId) (producer : Parser)
  /-- A pick at the top of a rule that drops what it parsed. -/
  | drops (pick : Parser)

namespace Parser

/-- Whether a row is one parser followed by the end of the input. -/
def endsInput : List Parser → Bool
  | [_, last] => last.isTermination
  | _ => false

/-- What is found at a parser itself.  It is at the `top` of its rule unless it is inside a
combinator that builds a node. -/
def findings (top : Bool) : Parser → List Finding
  | transform id node rowId items => [.builds node (transform id node rowId items)]
  | list id node element separator => [.builds node (list id node element separator)]
  | optBool id inner alternatives =>
    alternatives.toList.map (.builds · (optBool id inner alternatives))
  | pick id rowId items index =>
    if top && !endsInput items then [.drops (pick id rowId items index)] else []
  | row .. | opt .. | choice .. | defer .. | token .. | null .. | predicate .. | skip ..
  | noBacktrack .. | dontSkip .. => []

/-- Whether the parser builds nodes itself, so that what is inside it is not at the top. -/
def isProducer : Parser → Bool
  | transform .. | list .. | optBool .. => true
  | row .. | pick .. | opt .. | choice .. | defer .. | token .. | null .. | predicate .. | skip ..
  | noBacktrack .. | dontSkip .. => false

/-! ## The findings as a list -/

mutual

/-- The findings in a parser. -/
def surveyUnder (top : Bool) : Parser → List Finding
  | row _ items | choice _ items => surveyAll top items
  | transform id node rowId items =>
    (transform id node rowId items).findings top ++ surveyAll false items
  | list id node element none =>
    (list id node element none).findings top ++ element.surveyUnder false
  | list id node element (some separator) =>
    (list id node element (some separator)).findings top ++
      (element.surveyUnder false ++ separator.surveyUnder false)
  | optBool id inner alternatives =>
    (optBool id inner alternatives).findings top ++ inner.surveyUnder false
  | pick id rowId items index => (pick id rowId items index).findings top ++ surveyAll top items
  | opt _ inner _ | predicate _ inner _ | dontSkip _ inner => inner.surveyUnder top
  | defer .. | token .. | null .. | skip .. | noBacktrack .. => []

/-- Companion of `surveyUnder` on a list of parsers. -/
def surveyAll (top : Bool) : List Parser → List Finding
  | [] => []
  | p :: ps => p.surveyUnder top ++ surveyAll top ps

end

/-- The findings in the root of a rule. -/
def survey (root : Parser) : List Finding := root.surveyUnder true

/-- What is found in a list is what is found in each of its parsers. -/
@[simp] theorem surveyAll_eq_flatMap (top : Bool) (ps : List Parser) :
    surveyAll top ps = ps.flatMap (surveyUnder top) := by
  induction ps with
  | nil => rfl
  | cons p ps ih => rw [surveyAll, ih, List.flatMap_cons]

/-- A survey starts with what is found at the parser itself, and goes on with what is directly
inside it. -/
theorem surveyUnder_eq (top : Bool) (p : Parser) :
    p.surveyUnder top =
      p.findings top ++ p.children.flatMap (surveyUnder (top && !p.isProducer)) := by
  cases p with
  | list id node element separator =>
    cases separator <;> simp [surveyUnder, isProducer, children]
  | _ => simp [surveyUnder, findings, isProducer, children]

/-! ## The findings in turn -/

variable {ε σ : Type}

mutual

/-- Runs an action on each finding in a parser, until it fails. -/
def visit (f : Finding → EStateM ε σ Unit) (top : Bool) : Parser → EStateM ε σ Unit
  | row _ items | choice _ items => visitAll f top items
  | transform id node rowId items => do
    forM ((transform id node rowId items).findings top) f
    visitAll f false items
  | list id node element none => do
    forM ((list id node element none).findings top) f
    element.visit f false
  | list id node element (some separator) => do
    forM ((list id node element (some separator)).findings top) f
    element.visit f false
    separator.visit f false
  | optBool id inner alternatives => do
    forM ((optBool id inner alternatives).findings top) f
    inner.visit f false
  | pick id rowId items index => do
    forM ((pick id rowId items index).findings top) f
    visitAll f top items
  | opt _ inner _ | predicate _ inner _ | dontSkip _ inner => inner.visit f top
  | defer .. | token .. | null .. | skip .. | noBacktrack .. => pure ()

/-- Companion of `visit` on a list of parsers. -/
def visitAll (f : Finding → EStateM ε σ Unit) (top : Bool) : List Parser → EStateM ε σ Unit
  | [] => pure ()
  | p :: ps => do
    p.visit f top
    visitAll f top ps

end

/-- A visit runs the action on the findings of the survey. -/
theorem visit_eq_forM_surveyUnder (f : Finding → EStateM ε σ Unit) (top : Bool) (p : Parser) :
    p.visit f top = forM (p.surveyUnder top) f := by
  have all (top : Bool) (ps : List Parser)
      (ih : ∀ p ∈ ps, ∀ top, p.visit f top = forM (p.surveyUnder top) f) :
      visitAll f top ps = forM (surveyAll top ps) f := by
    induction ps with
    | nil => rfl
    | cons p ps ihps =>
      rw [visitAll, surveyAll, List.forM_append, ih p List.mem_cons_self,
        ihps fun q hq => ih q (List.mem_cons_of_mem p hq)]
  induction p using Parser.induction generalizing top with
  | row id items ih | choice id items ih => exact all top items ih
  | transform id node rowId items ih =>
    rw [visit, surveyUnder, List.forM_append, all false items ih]
  | pick id rowId items index ih =>
    rw [visit, surveyUnder, List.forM_append, all top items ih]
  | list id node element separator ih ihs =>
    cases separator with
    | none => rw [visit, surveyUnder, List.forM_append, ih]
    | some separator =>
      rw [visit, surveyUnder, List.forM_append, List.forM_append, ih, ihs separator rfl]
  | optBool id inner alternatives ih => rw [visit, surveyUnder, List.forM_append, ih]
  | opt id inner tolerant ih => exact ih top
  | predicate id inner property ih => exact ih top
  | dontSkip id inner ih => exact ih top
  | defer | token | null | skip | noBacktrack => rfl

end Parser

end Unparsing
