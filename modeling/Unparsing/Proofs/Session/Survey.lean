import Unparsing.Session.Survey

/-!
# Proofs/Session/Survey — a survey comes upon everything inside a parser

Everything on a path into a parser is found by a survey (`Parser.Path.mem_surveyUnder`), and what is
found to build nodes is a transform, a list or a boolean optional
(`Parser.isProducer_of_mem_surveyUnder`).
-/

namespace Unparsing

namespace Parser

variable {root p q : Parser} {above : List Parser} {top : Bool} {n : NodeId}

/-- A way from a parser into it: the parsers passed through, the innermost first. -/
inductive Path (root : Parser) : List Parser → Parser → Prop
  | here : Path root [] root
  | child {above : List Parser} {p q : Parser} :
      Path root above p → q ∈ p.children → Path root (p :: above) q

/-- **What is found under a parser is found under the root** of a path to it. -/
theorem Path.mem_surveyUnder (path : Path root above p) {f : Finding}
    (h : f ∈ p.surveyUnder (top && above.all (!·.isProducer))) : f ∈ root.surveyUnder top := by
  induction path with
  | here => simpa using h
  | @child above p q _ hq ih =>
    refine ih ?_
    rw [surveyUnder_eq, List.mem_append, List.mem_flatMap]
    refine .inr ⟨q, hq, ?_⟩
    rw [List.all_cons, Bool.and_comm (!p.isProducer), ← Bool.and_assoc] at h
    exact h

theorem findings_producer (h : .builds n q ∈ p.findings top) : q = p ∧ p.isProducer = true := by
  cases p with
  | transform | list =>
    cases List.mem_singleton.mp h
    exact ⟨rfl, rfl⟩
  | optBool =>
    obtain ⟨_, _, same⟩ := List.mem_map.mp h
    cases same
    exact ⟨rfl, rfl⟩
  | pick =>
    simp only [Parser.findings] at h
    split at h <;> simp at h
  | _ => cases h

/-- What a survey says of the parsers that build nodes, it says at these parsers: a property of what
is found there, kept on the way into parsers, holds of all that is found. -/
theorem of_mem_surveyUnder {P : Parser → Prop} (inside : ∀ p, P p → ∀ q ∈ p.children, P q)
    (hp : P p) (h : .builds n q ∈ p.surveyUnder top) :
    P q ∧ q.isProducer = true ∧ ∃ top, .builds n q ∈ q.findings top := by
  induction p using children_induction generalizing top with
  | step p ih =>
    rw [surveyUnder_eq, List.mem_append, List.mem_flatMap] at h
    obtain here | ⟨child, hchild, below⟩ := h
    · obtain ⟨rfl, producer⟩ := findings_producer here
      exact ⟨hp, producer, top, here⟩
    · exact ih child hchild (inside p hp child hchild) below

theorem isProducer_of_mem_surveyUnder (h : .builds n q ∈ p.surveyUnder top) :
    q.isProducer = true :=
  (of_mem_surveyUnder (P := fun _ => True) (fun _ _ _ _ => trivial) trivial h).2.1

end Parser

end Unparsing
