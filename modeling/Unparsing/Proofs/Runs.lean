import Unparsing.Proofs.Build
import Unparsing.Proofs.Derivation.Written

/-!
# Proofs/Runs — the runs of a session are those of its combined unparsers

The runs that a session ends with are read off its combined unparsers: those of the first node type
come first, and none stands twice (`Session.runs_of_finals`).  Each is found at its place, and its
tokens are in the table.
-/

namespace Unparsing

namespace Session

variable {g : Grammar} {settings : Settings} {queue : DiagnosticQueue} {rules : List RuleId}
variable {s : Session} {n : NodeId}

/-- Only a declared node type has a combined unparser. -/
theorem Outcome.mem_ids_of_final (h : Outcome g settings rules s) {u : NodeUnparser}
    (final : s.final? n = some u) : n ∈ g.nodes.ids := by
  obtain ⟨us, -, -, absent⟩ := h.derives n
  by_contra out
  cases final.symm.trans (absent (.inl out))

/-- Each run of a combined unparser is one of an unparser that was derived from a producer. -/
theorem Outcome.exists_mem_runs (h : Outcome g settings rules s) {u : NodeUnparser}
    (final : s.final? n = some u) {r : TokenRun} (hr : r ∈ u.runs) :
    ∃ p ∈ s.producers n, ∃ d, g.deriveNode n p s.tokens = .ok d s.tokens ∧ r ∈ d.runs := by
  obtain ⟨us, derived, found, absent⟩ := h.derives n
  have some : us ≠ [] := by
    intro none
    cases final.symm.trans (absent (.inr none))
  obtain ⟨u', ⟨first, others, rfl, combined⟩, final'⟩ := found (h.mem_ids_of_final final) some
  cases final.symm.trans final'
  have real := derived.isNull_eq_false fun p => isProducer_of_produced h.produced
  obtain ⟨d, hd, hr⟩ := NodeUnparser.mem_runs_of_foldlM_combine derived.wellShaped real combined hr
  obtain ⟨p, hp, run⟩ := exists_mem_of_forall₂ derived.flip hd
  exact ⟨p, hp, d, run, hr⟩

/-- The runs of a combined unparser are made of tokens in the table. -/
theorem Outcome.isSome_get? (h : Outcome g settings rules s) {u : NodeUnparser}
    (final : s.final? n = some u) {r : TokenRun} (hr : r ∈ u.runs) {i : TokenId} (hi : i ∈ r) :
    (s.tokens.get? i).isSome = true := by
  obtain ⟨p, hp, d, run, hr⟩ := h.exists_mem_runs final hr
  refine Grammar.isSome_get?_of_deriveNode h.faithful run ?_
  cases d with
  | regular => exact List.mem_flatten.mpr ⟨r, hr, hi⟩
  | list | tokenNode | null => cases hr

/-- A combined unparser is among the combined unparsers of its session. -/
theorem Outcome.mem_finals (h : Outcome g settings rules s) {u : NodeUnparser}
    (final : s.final? n = some u) : (n, u) ∈ s.finals g :=
  List.mem_filterMap.mpr ⟨n, h.mem_ids_of_final final, by rw [final, Option.map_some]⟩

/-- The runs of the combined unparsers, in the order in which node types are declared. -/
theorem flatMap_runs_finals (g : Grammar) (s : Session) :
    (s.finals g).flatMap (fun (_, u) => u.runs) =
      (g.nodes.ids.filterMap s.final?).flatMap NodeUnparser.runs := by
  have unparsers : (s.finals g).map Prod.snd = g.nodes.ids.filterMap s.final? := by
    simp [finals, List.map_filterMap, Function.comp_def]
  rw [← unparsers, List.flatMap_map]

/-- The runs in front, between and behind, and those around fields are runs of the unparser. -/
theorem Outcome.mem_runs (h : Outcome g settings rules s) {u : RegularUnparser}
    (final : s.final? n = some (.regular u)) {r : TokenRun}
    (place : r = u.pre ∨ r ∈ u.inter ∨ r = u.post ∨ ∃ f ∈ u.fields, r = f.pre ∨ r = f.post) :
    r ∈ (NodeUnparser.regular u).runs := by
  have some := h.producers_ne_nil final
  obtain ⟨us, u', -, final', -, shaped, -⟩ := h.final_eq (h.mem_ids_of_final final) some
  cases final.symm.trans final'
  have shaped : u.WellShaped g.nodes := shaped
  refine shaped.mem_runs.mpr ?_
  obtain pre | inter | post | field := place
  · exact .inl pre
  · exact .inr (.inr (.inl (.inr inter)))
  · exact .inr (.inr (.inr post))
  · exact .inr (.inl field)

/-- The runs of a session in the order of its combined unparsers, without their repetitions. -/
theorem toList_runs (run : (g.buildUnparsers settings queue).1 = .ok s)
    (enabled : s.enabled = true) :
    s.runs.toList = ((s.finals g).flatMap fun (_, u) => u.runs).eraseDups := by
  obtain ⟨queue', passed⟩ := buildUnparsers_eq_ok.mp run
  have collected : s.runTable = _ := runTable_of_passOver passed enabled
  rw [flatMap_runs_finals, ← RunTable.toList_runs_addAll, runs, collected]

/-- **The runs of a session** are those of its combined unparsers in the order of declaration, the
first of equal ones.  A run is found just at the place where it stands, so every run that a combined
unparser writes is found, and it is made of tokens in the table. -/
theorem runs_of_finals (run : (g.buildUnparsers settings queue).1 = .ok s)
    (enabled : s.enabled = true) :
    s.runs.toList = ((s.finals g).flatMap fun (_, u) => u.runs).eraseDups ∧
    s.runs.toList.Nodup ∧
    (∀ r i, s.runIndex? r = some i ↔ s.runs[i]? = some r) ∧
    (∀ r, s.runIndex? r = none ↔ r ∉ s.runs.toList) ∧
    ∀ n u, s.final? n = some (.regular u) → ∀ r,
      (r = u.pre ∨ r ∈ u.inter ∨ r = u.post ∨ ∃ f ∈ u.fields, r = f.pre ∨ r = f.post) →
      (∃ i, s.runIndex? r = some i) ∧ ∀ i ∈ r, (s.tokens.get? i).isSome = true := by
  have h := outcome_of_buildUnparsers run enabled
  have listed := toList_runs run enabled
  refine ⟨listed, RunTable.nodup_runs _, fun r i => RunTable.index?_eq_some,
    fun r => RunTable.index?_eq_none, fun n u final r place => ?_⟩
  have hr := h.mem_runs final place
  refine ⟨?_, fun i hi => h.isSome_get? final hr hi⟩
  have held : r ∈ s.runs.toList := by
    rw [listed, List.mem_eraseDups, List.mem_flatMap]
    exact ⟨(n, .regular u), h.mem_finals final, hr⟩
  obtain ⟨i, at_i⟩ := List.mem_iff_getElem?.mp held
  exact ⟨i, RunTable.index?_eq_some.mpr (by rwa [Array.getElem?_toList] at at_i)⟩

/-- The runs of the session of chains are those of its combined unparsers, each of them once. -/
theorem runs_of_chain : ∃ s, (Chain.grammar.buildUnparsers {} {}).1 = .ok s ∧ s.enabled = true ∧
    s.runs.toList = ((s.finals Chain.grammar).flatMap fun (_, u) => u.runs).eraseDups := by
  obtain ⟨s, run, enabled, -⟩ := Chain.generated
  exact ⟨s, run, enabled, (runs_of_finals run enabled).1⟩

end Session

end Unparsing
