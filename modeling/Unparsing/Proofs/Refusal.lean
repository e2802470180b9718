import Unparsing.Proofs.Build
import Unparsing.Proofs.Grammar.Agreement
import Unparsing.Proofs.Unparser.Refusal

/-!
# Proofs/Refusal — after the check only tokens can disagree

The check compares the shapes of producers, and leaves the tokens to the combination of their
unparsers.  So once it has passed, unparsers are combined or refused for their tokens: that two of
them do not belong together, or that none of them is of a node, is ruled out
(`Session.finalize_of_checked`).
-/

namespace Unparsing

/-! ## The form of a derived unparser -/

namespace Grammar

variable {g : Grammar} {node : NodeId} {p : Parser} {u : NodeUnparser} {t t' : TokenTable}

/-- The form in which nodes of a type are written that are built by parsers of a kind. -/
def formOf (g : Grammar) (node : NodeId) (kind : ParserKind) : NodeForm :=
  if g.nodes.isTokenNode node then
    .tokenNode
  else if kind = .list then
    .list
  else
    .regular

/-- The form of a derived unparser shows in the kind of its producer. -/
theorem form_of_deriveNode (producer : p.isProducer = true)
    (run : g.deriveNode node p t = .ok u t') : u.form = g.formOf node p.kind := by
  obtain ⟨concrete, ⟨token, -, rfl⟩ | regular⟩ := deriveNode_cases run
  · rw [formOf, if_pos token]
    rfl
  rw [formOf, if_neg (by simp [regular])]
  cases p with
  | transform id type rowId items =>
    obtain ⟨_, _, -, -, rfl⟩ := fillRow_of_deriveNode concrete regular run
    rfl
  | list id type element separator =>
    cases separator with
    | none =>
      rw [deriveNode_list_none concrete regular] at run
      cases run
      rfl
    | some separator =>
      rw [deriveNode_list_some concrete regular] at run
      obtain ⟨_, _, -, run⟩ := estate_bind_eq_ok.mp run
      cases run
      rfl
  | optBool id inner alternatives =>
    rw [deriveNode_optBool concrete regular] at run
    split at run
    · obtain ⟨_, _, -, run⟩ := estate_bind_eq_ok.mp run
      cases run
      rfl
    · cases run
      rfl
  | _ => cases producer

end Grammar

/-! ## A grammar of greetings

Two rules build the same node type from words of one kind, which read differently. -/

namespace Greeting

open Grammar

/-- The word `hello`. -/
def hello : Parser := .token ⟨0⟩ ⟨1⟩ (some "hello")
/-- The word `goodbye`. -/
def goodbye : Parser := .token ⟨1⟩ ⟨1⟩ (some "goodbye")
/-- A greeting, written as `hello`. -/
def meeting : Parser := .transform ⟨3⟩ ⟨0⟩ ⟨2⟩ [hello]
/-- A greeting, written as `goodbye`. -/
def parting : Parser := .transform ⟨5⟩ ⟨0⟩ ⟨4⟩ [goodbye]

/-- The rules of both greetings. -/
def grammar : Grammar :=
  ({ nodes := (({} : NodeTypes).declare "Greeting" none {}).2
     kinds := (({} : TokenKinds).declarePattern "Word").2 } : Grammar)
    |>.token ⟨1⟩ (some "hello") |>.2.token ⟨1⟩ (some "goodbye")
    |>.2.transform ⟨0⟩ [hello] |>.2.transform ⟨0⟩ [goodbye]
    |>.2.addRule "meeting" meeting |>.2.addRule "parting" parting |>.2

/-- Both greetings are declared step by step. -/
theorem built : grammar.Built := by
  refine Built.empty.step (.nodes (.declare "Greeting" none {} nofun))
    |>.step (.kinds (.declarePattern "Word"))
    |>.step (.token ⟨1⟩ (some "hello") (TokenKinds.first_mem_ids (by decide) _))
    |>.step (.token ⟨1⟩ (some "goodbye") (TokenKinds.first_mem_ids (by decide) _))
    |>.step (.transform ⟨0⟩ [hello] ?_ ?_)
    |>.step (.transform ⟨0⟩ [goodbye] ?_ ?_)
    |>.step (.addRule "meeting" meeting ?_) |>.step (.addRule "parting" parting ?_)
  all_goals
    first
    | exact mem_parsers rfl
    | exact forall_mem_parsers rfl
    | exact Index.mem_upTo.mpr (by decide)

/-- The rules are recorded, and their producers agree in shape, but their unparsers cannot be
combined. -/
theorem checked : ∃ q, forM [⟨1⟩, ⟨0⟩, ⟨1⟩] (Session.compute grammar) (Session.start {} {}) =
      .ok () q ∧ (Session.check grammar q).session.enabled = true ∧
      ∀ s, Session.finalize grammar (Session.check grammar q).session ≠ .ok () s := by
  have computed : (((forM [⟨1⟩, ⟨0⟩, ⟨1⟩] (Session.compute grammar) >>= fun _ => get :
      Pass Progress).run' (Session.start {} {})).any fun q =>
        (Session.check grammar q).session.enabled &&
          ((Session.finalize grammar).run' (Session.check grammar q).session).isNone) = true := by
    decide +kernel
  obtain ⟨q, passed, computed⟩ := (Option.any_eq_true ..).mp computed
  obtain ⟨_, passed⟩ := estate_run'_eq_some.mp passed
  obtain ⟨⟨⟩, q, run, got⟩ := estate_bind_eq_ok.mp passed
  cases got
  rw [Bool.and_eq_true, Option.isNone_iff_eq_none] at computed
  refine ⟨q, run, computed.1, fun s done => ?_⟩
  have result := estate_run'_eq_some.mpr ⟨s, done⟩
  rw [computed.2] at result
  cases result

end Greeting

namespace Session

variable {g : Grammar} {settings : Settings} {queue : DiagnosticQueue} {rules : List RuleId}
variable {s : Session} {q : Progress} {n : NodeId}

/-! ## The theorem -/

/-- What builds nodes takes part in the comparison as it is. -/
theorem comparable_of_producers {ps : List Parser} (producers : ∀ p ∈ ps, p.isProducer = true) :
    Parser.comparable ps = ps := by
  have bare (p : Parser) (hp : p ∈ ps) : p.strip = p ∧ p.isNull = false := by
    have producer := producers p hp
    cases p with
    | transform | list | optBool => exact ⟨rfl, rfl⟩
    | _ => cases producer
  rw [Parser.comparable, List.map_congr_left fun p hp => (bare p hp).1, List.map_id',
    List.filter_eq_self]
  exact fun p hp => by simp [(bare p hp).2]

/-- Unparsers derived from producers that agree are of one form. -/
theorem Derives.form_eq {t : TokenTable} {ps : List Parser} {us : List NodeUnparser}
    (derived : Derives g t n ps us) (producers : ∀ p ∈ ps, p.isProducer = true)
    (agreed : g.agree ps = true) : ∃ form, ∀ u ∈ us, u.node = n ∧ u.form = form := by
  cases hps : ps with
  | nil =>
    subst hps
    cases derived
    exact ⟨.null, nofun⟩
  | cons first rest =>
    refine ⟨g.formOf n first.kind, fun u hu => ?_⟩
    obtain ⟨p, hp, runs⟩ := exists_mem_of_forall₂ derived.flip hu
    have hfirst : first ∈ ps := hps ▸ List.mem_cons_self
    have plain := comparable_of_producers producers
    have same : p.kind = first.kind :=
      Grammar.kind_eq_of_agree agreed (plain.symm ▸ hp) (plain.symm ▸ hfirst)
    refine ⟨(Grammar.deriveNode_ok runs).2.1, ?_⟩
    rw [Grammar.form_of_deriveNode (producers p hp) runs, same]

/-- **Once the check has passed, only tokens can be refused.**  Over the rules of a grammar, in any
order, the unparsers of all node types are combined, or those of one are refused because they
write different tokens, or separate a list differently. -/
theorem finalize_of_checked (built : g.Built)
    (run : forM rules (compute g) (start settings queue) = .ok () q)
    (enabled : (check g q).session.enabled = true) :
    (∃ s, finalize g (check g q).session = .ok () s) ∨
      ∃ problem s, finalize g (check g q).session = .error problem s ∧
        (problem.code = .inconsistentTokens ∨ problem.code = .inconsistentSeparator) := by
  obtain ⟨enabled₁, agreed⟩ := enabled_check.mp enabled
  obtain ⟨wanted, -, s₁, recorded, rfl⟩ := forM_compute_eq_ok.mp ⟨run, enabled₁⟩
  obtain ⟨known, -⟩ := recordAll_ok wanted (settled_start g settings queue) recorded
  obtain ⟨frame, -⟩ := check_session enabled
  generalize check g { start settings queue with session := s₁ } = reached at *
  have occurrences (n : NodeId) : reached.session.occurrences n = s₁.occurrences n := by
    rw [Session.occurrences, frame]
    rfl
  rw [finalize_of_enabled enabled]
  cases merged : forM g.nodes.ids (finalizeNode g) reached.session with
  | ok _ s => exact .inl ⟨s, rfl⟩
  | error problem s =>
    refine .inr ⟨problem, s, rfl, ?_⟩
    obtain ⟨n, hn, some, refused⟩ := forM_finalizeNode_error merged
    rw [occurrences] at some refused
    have produced (p : Parser) (hp : p ∈ s₁.producers n) : p.isProducer = true :=
      isProducer_of_produced known.produced hp
    have derived := known.settled.derives_occurrences n
    have real := derived.isNull_eq_false produced
    have all : (s₁.occurrences n).filter (!·.isNull) = s₁.occurrences n :=
      List.filter_eq_self.mpr fun u hu => by simp [real u hu]
    rw [all] at refused
    obtain none | ⟨first, others, occurred, refused⟩ := refused
    · exact absurd none some
    rw [occurrences, all] at occurred
    have current := currentProducers_eq_of_produced built.wellFormed known.produced n
    obtain ⟨form, same⟩ := derived.form_eq produced (current ▸ agreed n hn)
    have disagree := NodeUnparser.foldlM_combine_error (occurred ▸ derived.wellShaped)
      (occurred ▸ real) (occurred ▸ same) refused
    simpa [Problem.isDisagreement] using disagree

/-- The words of both greetings are found to be inconsistent. -/
theorem finalize_of_greetings : ∃ q problem s,
    forM [⟨1⟩, ⟨0⟩, ⟨1⟩] (compute Greeting.grammar) (start {} {}) = .ok () q ∧
    (check Greeting.grammar q).session.enabled = true ∧
    finalize Greeting.grammar (check Greeting.grammar q).session = .error problem s ∧
    (problem.code = .inconsistentTokens ∨ problem.code = .inconsistentSeparator) := by
  obtain ⟨q, run, enabled, refused⟩ := Greeting.checked
  obtain ⟨s, done⟩ | ⟨problem, s, failed, code⟩ := finalize_of_checked Greeting.built run enabled
  · cases refused s done
  · exact ⟨q, problem, s, run, enabled, failed, code⟩

end Session

end Unparsing
