import Unparsing.Proofs.Build
import Unparsing.Proofs.Grammar.Agreement
import Unparsing.Proofs.Token.Sorted
import Unparsing.Proofs.Unparser.Listing

/-!
# Proofs/Order — the order of the rules does not matter

Going over the rules of a grammar in another order numbers the tokens differently, and combines the
unparsers of a node type from another end.  But whether a production can be derived, whether
producers agree, and whether unparsers can be combined are questions about the rules as a set, and
what is written comes out the same (`Session.passOver_perm`).
-/

namespace Unparsing

namespace Session

open List (Perm)

variable {g : Grammar} {settings : Settings} {rules rules' : List RuleId} {s s' : Session}
variable {n : NodeId} {T : TokenTable} {p : Parser} {v : NodeUnparser}

/-- Sessions that note the same productions in other orders have the same producers. -/
theorem perm_producers (h : Perm s.produced.toList s'.produced.toList) (n : NodeId) :
    Perm (s.producers n) (s'.producers n) := h.filterMap _

/-- **The combined unparser of a node type covers what its producers derive from any table**, not
only from the one of its session. -/
theorem Outcome.covers_anywhere (h : Outcome g settings rules s) (hn : n ∈ g.nodes.ids)
    (some : s.producers n ≠ []) :
    ∃ u, s.final? n = Option.some u ∧ u.isNull = false ∧ u.WellShaped g.nodes ∧
      ∀ T, T.Faithful g.kinds → ∀ p ∈ s.producers n, ∀ v, g.deriveNode n p T = .ok v T →
        u.Covers (s.tokens.SameText T) v := by
  obtain ⟨us, u, derived, final, real, shaped, covers, -⟩ := h.final_eq hn some
  refine ⟨u, final, real, shaped, fun T hT p hp v run => ?_⟩
  obtain ⟨d, hd, here⟩ := exists_mem_of_forall₂ derived hp
  obtain ⟨v', T', run', -, alike⟩ :=
    (Grammar.oblivious_deriveNode n p).transfer h.faithful hT here
  cases run.symm.trans run'
  have same : d.Covers (s.tokens.SameText T) v :=
    (alike.mono fun _ _ token => token.text_eq).covers
  exact (covers d hd).trans same

/-- **What one session combines covers what another, with the same producers, combines.** -/
theorem Outcome.combines_elsewhere (h : Outcome g settings rules s) (hn : n ∈ g.nodes.ids)
    (perm : Perm s'.produced.toList s.produced.toList) (faithful : s'.tokens.Faithful g.kinds)
    {us : List NodeUnparser} (derived : Derives g s'.tokens n (s'.producers n) us)
    (nonempty : us ≠ []) :
    ∃ u c, s.final? n = some u ∧ u.isNull = false ∧ u.WellShaped g.nodes ∧
      NodeUnparser.Combines (s'.lexicon g) us c ∧ u.Covers (s.tokens.SameText s'.tokens) c := by
  have same := perm_producers perm n
  have some : s.producers n ≠ [] := by
    intro none
    rw [none] at same
    rw [same.eq_nil] at derived
    exact nonempty (List.forall₂_nil_left_iff.mp derived)
  obtain ⟨u, final, real, shaped, covers⟩ := h.covers_anywhere hn some
  have bound : ∀ v ∈ us, u.Covers (s.tokens.SameText (s'.lexicon g).tokens) v := fun v hv => by
    obtain ⟨p, hp, run⟩ := exists_mem_of_forall₂ derived.flip hv
    exact covers s'.tokens faithful p (same.mem_iff.mp hp) v run
  obtain ⟨first, others, rfl⟩ := List.exists_cons_of_ne_nil nonempty
  obtain ⟨c, combined, cover⟩ := NodeUnparser.foldlM_combine_of_bound bound
  exact ⟨u, c, final, real, shaped, ⟨first, others, rfl, combined⟩, cover⟩

/-- A node type that is not declared, or that nothing builds, has no unparser. -/
theorem Outcome.final_eq_none (h : Outcome g settings rules s)
    (out : n ∉ g.nodes.ids ∨ s.producers n = []) : s.final? n = none := by
  obtain ⟨us, derived, -, absent⟩ := h.derives n
  refine absent (out.imp_right fun none => ?_)
  rw [none] at derived
  exact List.forall₂_nil_left_iff.mp derived

/-- The same rules in another order make the same productions. -/
theorem Outcome.perm_produced (h : Outcome g settings rules s) (h' : Outcome g settings rules' s')
    (perm : Perm rules rules') : Perm s.produced.toList s'.produced.toList := by
  rw [h.produced, h'.produced]
  exact perm.flatMap_right _

/-- **Two derivations over the same rules combine to the same unparsers**, but for the numbers of
their tokens. -/
theorem Outcome.final_alike (h : Outcome g settings rules s) (h' : Outcome g settings rules' s')
    (perm : Perm rules rules') (n : NodeId) :
    Option.Rel (NodeUnparser.Alike (s.tokens.SameText s'.tokens)) (s.final? n) (s'.final? n) := by
  have produced := h.perm_produced h' perm
  have same := perm_producers produced n
  by_cases out : n ∉ g.nodes.ids ∨ s.producers n = []
  · rw [h.final_eq_none out, h'.final_eq_none (out.imp_right fun none => (none ▸ same).nil_eq.symm)]
    exact .none
  · obtain ⟨hn, some⟩ := not_or.mp out
    rw [not_not] at hn
    obtain ⟨us, derived, found, -⟩ := h.derives n
    obtain ⟨us', derived', found', -⟩ := h'.derives n
    have nonempty : us ≠ [] := by
      rintro rfl
      exact some (List.forall₂_nil_right_iff.mp derived)
    have nonempty' : us' ≠ [] := by
      rintro rfl
      rw [List.forall₂_nil_right_iff.mp derived'] at same
      exact some same.eq_nil
    obtain ⟨u, combined, final⟩ := found hn nonempty
    obtain ⟨u', combined', final'⟩ := found' hn nonempty'
    obtain ⟨v, c', hv, -, shaped, hc', cover⟩ :=
      h.combines_elsewhere hn produced.symm h'.faithful derived' nonempty'
    obtain ⟨v', c, hv', real', shaped', hc, cover'⟩ :=
      h'.combines_elsewhere hn produced h.faithful derived nonempty
    cases final.symm.trans hv
    cases final'.symm.trans hv'
    rw [hc'.unique combined'] at cover
    rw [hc.unique combined] at cover'
    rw [final, final']
    exact .some (NodeUnparser.alike_of_covers shaped shaped' real' cover cover')

/-! ## What can be seen of a session -/

/-- Sessions whose combined unparsers are alike have one listing. -/
theorem listing_eq (h : ∀ n, Option.Rel (NodeUnparser.Alike (s.tokens.SameText s'.tokens))
    (s.final? n) (s'.final? n)) : s.listing g = s'.listing g := by
  have lines (s : Session) : (s.finals g).map (fun x => x.2.listing (s.lexicon g)) =
      g.nodes.ids.filterMap fun n => (s.final? n).map fun u => u.listing (s.lexicon g) := by
    rw [finals, List.map_filterMap]
    simp only [Option.map_map, Function.comp_def]
  have same : g.nodes.ids.filterMap (fun n => (s.final? n).map fun u => u.listing (s.lexicon g)) =
      g.nodes.ids.filterMap fun n => (s'.final? n).map fun u => u.listing (s'.lexicon g) := by
    refine List.filterMap_congr fun n _ => ?_
    have rel := h n
    generalize s.final? n = u at rel ⊢
    generalize s'.final? n = u' at rel ⊢
    cases rel with
    | some alike => exact congrArg some (NodeUnparser.listing_eq alike)
    | none => rw [Option.map_none, Option.map_none]
  rw [listing, listing]
  exact congrArg String.join ((lines s).trans (same.trans (lines s').symm))

/-- Unparsers that are alike hide the same fields. -/
theorem hides_eq {ρ : TokenId → TokenId → Prop} {u u' : NodeUnparser} (h : u.Alike ρ u') (i : Nat) :
    u.hides i = u'.hides i := by
  cases h with
  | @regular a b h =>
    have rel := optionRel_getElem? h.fields i
    simp only [NodeUnparser.hides]
    generalize a.fields[i]? = f at rel ⊢
    generalize b.fields[i]? = f' at rel ⊢
    cases rel with
    | some alike => exact alike.alwaysAbsent
    | none => rfl
  | list | tokenNode | null => rfl

/-- **The order of the rules does not matter.**  If the derivation goes through over rules in one
order, with unparsers still derived at its end, it does so in any other; the same node types have
unparsers, the listings of unparsers and tokens are the same, and so are the fields left out. -/
theorem passOver_perm {queue queue' : DiagnosticQueue} {q : Progress} (perm : Perm rules rules')
    (run : passOver g rules (start settings queue) = .ok () q)
    (enabled : q.session.enabled = true) :
    ∃ q', passOver g rules' (start settings queue') = .ok () q' ∧ q'.session.enabled = true ∧
      (∀ n, (q.session.final? n).isSome = (q'.session.final? n).isSome) ∧
      q.session.listing g = q'.session.listing g ∧
      q.session.tokens.listing = q'.session.tokens.listing ∧
      ∀ n u u', q.session.final? n = some u → q'.session.final? n = some u' →
        ∀ i, u.hides i = u'.hides i := by
  have h := outcome_of_passOver run enabled
  have productions : Perm (rules.flatMap g.productions) (rules'.flatMap g.productions) :=
    perm.flatMap_right _
  have produced (s' : Session) (all : s'.produced.toList = rules'.flatMap g.productions) :
      Perm s'.produced.toList q.session.produced.toList := by
    rw [all, h.produced]
    exact productions.symm
  have agreed (s' : Session) (all : s'.produced.toList = rules'.flatMap g.productions) :
      ∀ n ∈ g.nodes.ids, g.agree (s'.currentProducers g n) = true := fun n hn => by
    have same := (perm_producers (produced s' all) n).map g.current
    exact (Grammar.agreeAt_perm same).trans (h.agreed n hn)
  have combines (s' : Session) (all : s'.produced.toList = rules'.flatMap g.productions)
      (faithful : s'.tokens.Faithful g.kinds) (n : NodeId) (hn : n ∈ g.nodes.ids)
      (us : List NodeUnparser) (derived : Derives g s'.tokens n (s'.producers n) us)
      (nonempty : us ≠ []) : ∃ u, NodeUnparser.Combines (s'.lexicon g) us u := by
    obtain ⟨-, c, -, -, -, combined, -⟩ :=
      h.combines_elsewhere hn (produced s' all) faithful derived nonempty
    exact ⟨c, combined⟩
  obtain ⟨q', run', enabled'⟩ := passOver_of_sound queue' h.wanted
    (fun rule hr => h.sound rule (perm.mem_iff.mpr hr))
    (fun a ha => h.derivable a (productions.mem_iff.mpr ha)) agreed combines
  have h' := outcome_of_passOver run' enabled'
  have alike := h.final_alike h' perm
  refine ⟨q', run', enabled', fun n => isSome_eq_of_optionRel (alike n), listing_eq alike, ?_,
    fun n u u' hu hu' => ?_⟩
  · refine TokenTable.listing_eq h.faithful h'.faithful fun v => ?_
    rw [h.tokens, h'.tokens]
    simp only [productions.mem_iff]
  · have rel := alike n
    rw [hu, hu'] at rel
    cases rel with
    | some alike => exact hides_eq alike

/-- Chains have one listing, whichever of their rules is recorded first. -/
theorem listing_of_chain_reordered : ∃ q q',
    passOver Chain.grammar [⟨0⟩, ⟨1⟩] (start {} {}) = .ok () q ∧ q.session.enabled = true ∧
      passOver Chain.grammar [⟨1⟩, ⟨0⟩] (start {} {}) = .ok () q' ∧
      q.session.listing Chain.grammar = q'.session.listing Chain.grammar := by
  obtain ⟨s, run, enabled, -⟩ := Chain.generated
  obtain ⟨queue, run⟩ := buildUnparsers_eq_ok.mp run
  have inOrder : Chain.grammar.ruleIds = [⟨0⟩, ⟨1⟩] := rfl
  rw [inOrder] at run
  obtain ⟨q', run', -, -, same, -⟩ :=
    passOver_perm (List.Perm.swap ⟨1⟩ ⟨0⟩ []) run enabled
  exact ⟨_, q', run, enabled, run', same⟩

end Session

end Unparsing
