import Unparsing.Proofs.Build
import Unparsing.Proofs.Derivation.Written

/-!
# Proofs/Loss — which tokens of a grammar are written again

Over a grammar that was declared step by step, take a token anywhere in a rule.  If no producer is
around it, it is the end of the input that the rule drops.  Otherwise the nodes of the nearest
producer write a token that reads alike, exactly if some producer of their type is said to write
one (`Session.Outcome.accounts_iff`).  The producer itself is, unless the token is hidden from
it:

* no list looks into its elements;
* two wrappers, one directly inside the other, keep what they hold to themselves.

`Nested.grammar` is a grammar in which a token is lost in this way.
-/

namespace Unparsing

namespace Parser

variable {root p q producer : Parser} {above : List Parser} {n : NodeId}

/-! ## On the way to a token -/

/-- The type of the nodes that a producer builds; of a boolean optional, when it matches. -/
def built? : Parser → Option NodeId
  | transform _ node .. | list _ node .. => some node
  | optBool _ _ alternatives => some alternatives.present
  | row .. | pick .. | opt .. | choice .. | defer .. | token .. | null .. | predicate .. | skip ..
  | noBacktrack .. | dontSkip .. => none

/-- Not a wrapper directly inside a wrapper. -/
def Single (inner outer : Parser) : Prop := ¬(inner.isDontSkip = true ∧ outer.isDontSkip = true)

/-- Whether the nearest producer around a parser looks at it, given the parsers around it, the
innermost first: none of these is wrapped twice, and a list only looks at its separator. -/
structure Noticed (above : List Parser) (p : Parser) : Prop where
  single : (p :: above.takeWhile (!·.isProducer)).IsChain Single
  separator : ∀ id node element separator,
    above.find? (·.isProducer) = some (list id node element separator) → separator = some p

/-- A producer is found as what builds its node type, wherever it stands. -/
theorem exists_built?_of_isProducer (h : p.isProducer = true) :
    ∃ n, p.built? = some n ∧ ∀ top, .builds n p ∈ p.findings top := by
  cases p with
  | transform id node => exact ⟨node, rfl, fun _ => List.mem_singleton_self _⟩
  | list id node => exact ⟨node, rfl, fun _ => List.mem_singleton_self _⟩
  | optBool id inner alternatives => exact ⟨alternatives.present, rfl, fun _ => List.mem_cons_self⟩
  | _ => cases h

/-- What a parser inside another exposes, the other exposes too, unless it builds nodes. -/
theorem exposed_subset_of_mem_children (h : q ∈ p.children) (inside : p.isProducer = false)
    (single : Single q p) : q.exposed ⊆ p.exposed := by
  cases p with
  | row id items | choice id items =>
    rw [exposed, exposedAll_eq_flatMap]
    exact fun x hx => List.mem_flatMap.mpr ⟨q, h, hx⟩
  | pick id rowId items index =>
    obtain rfl := List.mem_singleton.mp h
    exact List.Subset.refl _
  | opt id inner tolerant =>
    obtain rfl := List.mem_singleton.mp h
    exact List.Subset.refl _
  | predicate id inner property =>
    obtain rfl := List.mem_singleton.mp h
    exact List.Subset.refl _
  | dontSkip id inner =>
    obtain rfl := List.mem_singleton.mp h
    rw [exposed_dontSkip, if_neg fun wrapped => single ⟨wrapped, rfl⟩]
    exact List.Subset.refl _
  | transform | list | optBool => cases inside
  | defer | token | null | skip | noBacktrack => cases h

/-- What is exposed on the way into a producer reaches the part of the producer that holds it. -/
theorem Path.exposed_subset (path : Path root above p)
    (found : above.find? (·.isProducer) = some producer)
    (single : (p :: above.takeWhile (!·.isProducer)).IsChain Single) :
    ∃ q ∈ producer.children, p.exposed ⊆ q.exposed := by
  induction path with
  | here => cases found
  | @child above outer p _ hp ih =>
    cases inside : outer.isProducer with
    | true =>
      rw [List.find?_cons_of_pos inside] at found
      cases found
      exact ⟨p, hp, List.Subset.refl _⟩
    | false =>
      rw [List.find?_cons_of_neg (by simp [inside])] at found
      rw [List.takeWhile_cons_of_pos (by simp [inside]), List.isChain_cons_cons] at single
      obtain ⟨q, hq, sub⟩ := ih found single.2
      exact ⟨q, hq, List.Subset.trans (exposed_subset_of_mem_children hp inside single.1) sub⟩

/-- **A token that the nearest producer looks at** is one of those it writes. -/
theorem Path.mem_written (path : Path root above p) (token : p.isToken = true)
    (found : above.find? (·.isProducer) = some producer) (built : producer.built? = some n)
    (noticed : Noticed above p) : p ∈ producer.written n := by
  have self : p ∈ p.exposed := by
    cases p with
    | token => exact List.mem_singleton_self _
    | _ => cases token
  obtain ⟨q, hq, sub⟩ := path.exposed_subset found noticed.single
  cases producer with
  | transform id node rowId items =>
    obtain rfl := List.mem_singleton.mp hq
    simpa [exposed, written] using sub self
  | list id node element separator =>
    obtain rfl := noticed.separator _ _ _ _ found
    exact List.mem_singleton_self p
  | optBool id inner alternatives =>
    obtain rfl := List.mem_singleton.mp hq
    cases built
    rw [written, if_pos rfl]
    exact sub self
  | _ => cases built

/-! ## At the top of a rule -/

/-- What may stand, outside all producers, in a parser that creates a node: parsers that create it,
and a row in which the end of the input follows such a parser. -/
inductive Leads (ofRule : RuleId → Yield) : List Parser → Parser → Prop
  | creates {above : List Parser} {p : Parser} :
      p.createsNodeWith ofRule = true → Leads ofRule above p
  | row {id rowId : ParserId} {inner last : Parser} {index : Nat} {above : List Parser} :
      inner.createsNodeWith ofRule = true → last.isTermination = true →
      Leads ofRule (pick id rowId [inner, last] index :: above) (row rowId [inner, last])
  | last {id rowId : ParserId} {inner last : Parser} {index : Nat} {above : List Parser} :
      last.isTermination = true →
      Leads ofRule (.row rowId [inner, last] :: pick id rowId [inner, last] index :: above) last

variable {ofRule : RuleId → Yield}

/-- What leads to a parser that builds no node leads on to what is inside it. -/
theorem Leads.child (h : Leads ofRule above p) (inside : p.isProducer = false)
    (hq : q ∈ p.children) : Leads ofRule (p :: above) q := by
  cases h with
  | creates h =>
    cases p with
    | choice id branches =>
      rw [createsNodeWith, allCreateNodes_eq_all, List.all_eq_true] at h
      exact .creates (h q hq)
    | opt id inner tolerant =>
      obtain rfl := List.mem_singleton.mp hq
      exact .creates h
    | predicate id inner property =>
      obtain rfl := List.mem_singleton.mp hq
      exact .creates h
    | dontSkip id inner =>
      obtain rfl := List.mem_singleton.mp hq
      exact .creates h
    | pick id rowId items index =>
      obtain rfl := List.mem_singleton.mp hq
      match items, h with
      | [inner, ending], h =>
        rw [createsNodeWith, Bool.and_eq_true] at h
        exact .row h.2 h.1
    | transform | list | optBool => cases inside
    | defer | skip => cases hq
    | row | token | null | noBacktrack => cases h
  | row creates last =>
    simp only [children, List.mem_cons, List.not_mem_nil, or_false] at hq
    obtain rfl | rfl := hq
    · exact .creates creates
    · exact .last last
  | last last =>
    cases p with
    | token => cases hq
    | _ => cases last

/-- **Outside all producers** a parser that creates a node holds only what leads to it, and the end
of the input. -/
theorem Path.leads (path : Path root above p) (creates : root.createsNodeWith ofRule = true)
    (outside : above.find? (·.isProducer) = none) : Leads ofRule above p := by
  induction path with
  | here => exact .creates creates
  | @child above outer p _ hp ih =>
    rw [List.find?_eq_none, List.forall_mem_cons] at outside
    exact (ih (List.find?_eq_none.mpr outside.2)).child (by simpa using outside.1) hp

/-- Each parser on a path has a path of its own. -/
theorem Path.exists_of_mem (path : Path root above p) (hq : q ∈ above) :
    ∃ outer, Path root outer q := by
  induction path with
  | here => cases hq
  | @child above outer p path _ ih =>
    obtain rfl | hq := List.mem_cons.mp hq
    · exact ⟨above, path⟩
    · exact ih hq

end Parser

/-! ## The tokens of a node type -/

/-- What is written for the token that a parser matches, if its kind and its text fit. -/
def Grammar.wording? (g : Grammar) (p : Parser) : Option String :=
  p.identity?.bind fun identity => (g.kinds.wording identity).toOption

/-- The token of a parser has the text that the parser matches. -/
theorem TokenTable.Names.wording?_eq {g : Grammar} {t : TokenTable} {i : TokenId} {p : Parser}
    (ht : t.Faithful g.kinds) (h : t.Names i p) : g.wording? p = some (t.text i) := by
  obtain ⟨u, hi, hp⟩ := h
  rw [Grammar.wording?, hp, Option.bind_some, ht.wording u (mem_of_get? hi), text_of_get? hi]
  rfl

namespace Session

variable {g : Grammar} {settings : Settings} {queue : DiagnosticQueue} {s : Session}
variable {rules : List RuleId} {rule : RuleId} {root p producer : Parser} {above : List Parser}
variable {n : NodeId}

/-- A token is accounted for by the nodes of a type: they are written as their one token, or with a
token that reads like it. -/
def Accounts (g : Grammar) (s : Session) (n : NodeId) (p : Parser) : Prop :=
  g.nodes.isTokenNode n = true ∨
    ∃ u, s.final? n = some u ∧ ∃ i ∈ u.tokens, g.wording? p = some (s.tokens.text i)

/-- **The tokens of a combined unparser** are those that the producers of its type have written. -/
theorem Outcome.accounts_iff (h : Outcome g settings rules s) (hn : n ∈ g.nodes.ids)
    (produced : s.producers n ≠ []) :
    s.Accounts g n p ↔ g.nodes.isTokenNode n = true ∨
      ∃ q ∈ s.producers n, ∃ x ∈ q.written n, g.wording? x = g.wording? p := by
  refine or_congr_right' fun noToken => ?_
  have regular : g.nodes.isTokenNode n = false := by simpa using noToken
  obtain ⟨us, u, derived, final, -, shaped, covers, hides⟩ := h.final_eq hn produced
  have real := derived.isNull_eq_false fun p => isProducer_of_produced h.produced
  have shapes := derived.wellShaped
  have names {q : Parser} {d : NodeUnparser} (hq : q ∈ s.producers n)
      (run : g.deriveNode n q s.tokens = .ok d s.tokens) :=
    Grammar.deriveNode_names h.faithful regular (isProducer_of_produced h.produced hq) run
  constructor
  · rintro ⟨u', final', i, hi, reads⟩
    cases final.symm.trans final'
    have nonempty : us ≠ [] := by
      rintro rfl
      exact produced (List.forall₂_nil_right_iff.mp derived)
    obtain ⟨d, hd, j, hj, same⟩ :=
      NodeUnparser.exists_mem_tokens_of_covers nonempty shaped shapes real covers hides hi
    obtain ⟨q, hq, run⟩ := exists_mem_of_forall₂ derived.flip hd
    obtain ⟨x, hx, named⟩ := (names hq run).1 j hj
    exact ⟨q, hq, x, hx, by rw [reads, named.wording?_eq h.faithful, same]⟩
  · rintro ⟨q, hq, x, hx, same⟩
    obtain ⟨d, hd, run⟩ := exists_mem_of_forall₂ derived hq
    obtain ⟨j, hj, named⟩ := (names hq run).2 x hx
    obtain ⟨i, hi, alike⟩ := (covers d hd).exists_mem_tokens shaped (shapes d hd) hj
    exact ⟨u, final, i, hi, by rw [← same, named.wording?_eq h.faithful, alike]⟩

/-- What builds nodes on the way into a rule is one of their producers. -/
theorem Outcome.mem_producers_of_path (h : Outcome g settings g.ruleIds s)
    (user : (g.rule? rule).any (·.dontSkip) = false) (rooted : g.root? rule = some root)
    (path : Parser.Path root above producer)
    (builds : ∀ top, .builds n producer ∈ producer.findings top) :
    producer ∈ s.producers n := by
  have surveyed : .builds n producer ∈ root.survey := by
    refine path.mem_surveyUnder ?_
    rw [Parser.surveyUnder_eq]
    exact List.mem_append_left _ (builds _)
  rw [mem_producers, h.produced, List.mem_flatMap]
  exact ⟨rule, Grammar.mem_ruleIds_of_root? rooted,
    Grammar.mem_productions.mpr ⟨user, root, rooted, surveyed⟩⟩

/-! ## The theorem -/

/-- **No token is lost that its producer looks at.**  A token in a rule, outside all producers, is
the end of the input after the parser that the rule hands over.  Inside a producer it is accounted
for by the nodes that the nearest one builds, if this one looks at it; and in any case exactly if
their type is written as one token, or has some producer that writes a token reading alike. -/
theorem accounts_for_tokens (built : g.Built)
    (run : (g.buildUnparsers settings queue).1 = .ok s) (enabled : s.enabled = true)
    (user : (g.rule? rule).any (·.dontSkip) = false) (rooted : g.root? rule = some root)
    (path : Parser.Path root above p) (token : p.isToken = true) :
    (above.find? (·.isProducer) = none → p.isTermination = true ∧ ∃ id rowId inner index outer,
      above = .row rowId [inner, p] :: .pick id rowId [inner, p] index :: outer) ∧
    ∀ producer, above.find? (·.isProducer) = some producer →
      ∃ n, producer.built? = some n ∧ producer ∈ s.producers n ∧
        (Parser.Noticed above p → s.Accounts g n p) ∧
        (s.Accounts g n p ↔ g.nodes.isTokenNode n = true ∨
          ∃ q ∈ s.producers n, ∃ x ∈ q.written n, g.wording? x = g.wording? p) := by
  have wf := built.wellFormed
  have h := outcome_of_buildUnparsers run enabled
  constructor
  · intro outside
    obtain wrapper | ⟨_, rooted', creates, -⟩ := h.sound rule (Grammar.mem_ruleIds_of_root? rooted)
    · cases user.symm.trans wrapper
    · cases rooted.symm.trans rooted'
      cases path.leads creates outside with
      | creates handed =>
        cases p with
        | token => cases handed
        | _ => cases token
      | row => cases token
      | last ending => exact ⟨ending, _, _, _, _, _, rfl⟩
  · intro producer found
    obtain ⟨outer, around⟩ := path.exists_of_mem (List.mem_of_find?_eq_some found)
    obtain ⟨n, builds, finds⟩ := Parser.exists_built?_of_isProducer (List.find?_some found)
    have recorded := h.mem_producers_of_path user rooted around finds
    have exactly := h.accounts_iff (h.of_mem_producers wf recorded).2 (List.ne_nil_of_mem recorded)
      (p := p)
    refine ⟨n, builds, recorded, fun noticed => exactly.mpr (.inr ?_), exactly⟩
    exact ⟨producer, recorded, p, path.mem_written token found builds noticed, rfl⟩

/-- The dot of a chain stands in the combined unparser of a link. -/
theorem accounts_for_dot_of_chain : ∃ s, (Chain.grammar.buildUnparsers {} {}).1 = .ok s ∧
    s.enabled = true ∧ s.Accounts Chain.grammar ⟨0⟩ Chain.dot := by
  obtain ⟨s, run, enabled, -⟩ := Chain.generated
  have path : Parser.Path Chain.last [.row ⟨3⟩ [Chain.dot, Chain.stop], Chain.last] Chain.dot :=
    .child (.child .here (List.mem_singleton_self _)) List.mem_cons_self
  have noticed : Parser.Noticed [.row ⟨3⟩ [Chain.dot, Chain.stop], Chain.last] Chain.dot :=
    ⟨.cons_cons nofun (.singleton _), nofun⟩
  have user : (Chain.grammar.rule? ⟨1⟩).any (·.dontSkip) = false := by decide +kernel
  obtain ⟨n, builds, -, accounted, -⟩ :=
    (accounts_for_tokens Chain.built run enabled user rfl path rfl).2 Chain.last rfl
  cases builds
  exact ⟨s, run, enabled, accounted noticed⟩

end Session

/-! ## A token that is lost -/

namespace Nested

open Grammar

/-- The token `.`. -/
def dot : Parser := .token ⟨0⟩ ⟨1⟩ none
/-- A dot under one wrapper. -/
def wrapped : Parser := .dontSkip ⟨1⟩ dot
/-- A dot under two wrappers. -/
def rewrapped : Parser := .dontSkip ⟨2⟩ wrapped
/-- A unit of a dot under two wrappers. -/
def unit : Parser := .transform ⟨4⟩ ⟨0⟩ ⟨3⟩ [rewrapped]

/-- A node type without fields, written as a dot, which is wrapped twice. -/
def grammar : Grammar :=
  ({ nodes := (({} : NodeTypes).declare "Unit" none {}).2
     kinds := (({} : TokenKinds).declareLiteral "Dot" ".").2 } : Grammar)
    |>.token ⟨1⟩ none |>.2.dontSkip dot |>.2.dontSkip wrapped |>.2.transform ⟨0⟩ [rewrapped]
    |>.2.addRule "unit" unit |>.2

/-- The lost dot is declared step by step. -/
theorem built : grammar.Built := by
  refine Built.empty.step (.nodes (.declare "Unit" none {} nofun))
    |>.step (.kinds (.declareLiteral "Dot" "."))
    |>.step (.token ⟨1⟩ none (TokenKinds.first_mem_ids (by decide) _))
    |>.step (.dontSkip dot ?_) |>.step (.dontSkip wrapped ?_)
    |>.step (.transform ⟨0⟩ [rewrapped] ?_ ?_) |>.step (.addRule "unit" unit ?_)
  all_goals
    first
    | exact mem_parsers rfl
    | exact forall_mem_parsers rfl
    | exact Index.mem_upTo.mpr (by decide)

/-- The dot stands under both wrappers in the row of the unit. -/
theorem path_dot : Parser.Path unit [wrapped, rewrapped, .row ⟨3⟩ [rewrapped], unit] dot :=
  .child (.child (.child (.child .here (List.mem_singleton_self _)) (List.mem_singleton_self _))
    (List.mem_singleton_self _)) (List.mem_singleton_self _)

/-- **A token wrapped twice is lost**: unparsers are made, but none of the rule's tokens is in
them. -/
theorem dot_lost : grammar.Built ∧ ∃ s, (grammar.buildUnparsers {} {}).1 = .ok s ∧
    s.enabled = true ∧ (grammar.rule? ⟨0⟩).any (·.dontSkip) = false ∧
    grammar.root? ⟨0⟩ = some unit ∧
    Parser.Path unit [wrapped, rewrapped, .row ⟨3⟩ [rewrapped], unit] dot ∧
    [wrapped, rewrapped, .row ⟨3⟩ [rewrapped], unit].find? (·.isProducer) = some unit ∧
    unit.built? = some ⟨0⟩ ∧ (s.final? ⟨0⟩).isSome = true ∧ ¬s.Accounts grammar ⟨0⟩ dot := by
  have computed : (grammar.buildUnparsers {} {}).1.toOption.any (fun s => s.enabled &&
      (s.final? ⟨0⟩).any fun u => u.tokens.isEmpty) = true := by decide +kernel
  refine ⟨built, ?_⟩
  cases run : (grammar.buildUnparsers {} {}).1 with
  | error => simp [run, Except.toOption] at computed
  | ok s =>
    simp only [run, Except.toOption, Option.any_some, Bool.and_eq_true, Option.any_eq_true,
      List.isEmpty_iff] at computed
    obtain ⟨enabled, u, final, none⟩ := computed
    refine ⟨s, rfl, enabled, by decide +kernel, rfl, path_dot, rfl, rfl, by simp [final], ?_⟩
    have noToken : grammar.nodes.isTokenNode ⟨0⟩ = false := by decide +kernel
    rintro (token | ⟨u', final', i, hi, -⟩)
    · cases noToken.symm.trans token
    · cases final.symm.trans final'
      exact absurd (none ▸ hi) List.not_mem_nil

end Nested

end Unparsing
