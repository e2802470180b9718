import Unparsing.Proofs.Derivation.Shape
import Unparsing.Proofs.Token.RunTable
import Unparsing.Build

/-!
# Proofs/Session/Merging — the unparsers of each node type are combined on their own

Combining the unparsers of one node type touches neither those of another nor the table, so a pass
over node types goes through if it does for each of them alone
(`Session.forM_finalizeNode_of_merges`), and finds for each what it would find alone
(`Session.forM_finalizeNode_ok`).  What it adds to the combined unparsers, it adds to the runs in
the same order, also where it fails (`Session.adds_forM_finalizeNode`).
-/

namespace Unparsing

namespace Session

variable {g : Grammar} {s s' s'' : Session} {node n : NodeId} {nodes : List NodeId}
variable {u : NodeUnparser}

/-- The unparsers of a node type, those of absent nodes aside, combine to `u`. -/
def Merges (g : Grammar) (s : Session) (node : NodeId) (u : NodeUnparser) : Prop :=
  ∃ first others, (s.occurrences node).filter (!·.isNull) = first :: others ∧
    others.foldlM (NodeUnparser.combine (s.lexicon g)) first = .ok u

/-- The unparsers of a node type, those of absent nodes aside, are not combined, for this reason. -/
def Refuses (g : Grammar) (s : Session) (node : NodeId) (problem : Problem) : Prop :=
  ∃ first others, (s.occurrences node).filter (!·.isNull) = first :: others ∧
    others.foldlM (NodeUnparser.combine (s.lexicon g)) first = .error problem

theorem occurrences_dropOccurrences (s : Session) (node n : NodeId) :
    (s.dropOccurrences node).occurrences n = if n = node then [] else s.occurrences n := by
  simp only [occurrences, dropOccurrences, Array.toList_filter, List.filterMap_filter]
  split
  next same =>
    subst same
    refine List.filterMap_eq_nil_iff.mpr fun a _ => ?_
    by_cases h : a.1 = n <;> simp [h]
  next other =>
    refine List.filterMap_congr fun a _ => ?_
    by_cases h : a.1 = n
    · simp [h, other]
    · simp [h]

theorem final?_setFinal (s : Session) (node : NodeId) (u : NodeUnparser) (n : NodeId) :
    (s.setFinal node u).final? n = if n = node then some u else s.final? n := by
  rw [final?, setFinal, List.lookup_cons]
  split <;> simp_all [final?]

theorem finalizeNode_eq_ok :
    finalizeNode g node s = .ok () s' ↔
      s.occurrences node = [] ∧ s' = s ∨
        s.occurrences node ≠ [] ∧
          ∃ u, Merges g s node u ∧ s' = (s.dropOccurrences node).setFinal node u := by
  unfold finalizeNode Merges
  split
  next none =>
    rw [List.isEmpty_iff] at none
    simp [none, eq_comm]
  next some =>
    rw [List.isEmpty_iff] at some
    simp only [some, false_and, false_or, ne_eq, not_false_eq_true, true_and]
    split
    next nothing => simp [nothing]
    next first others real =>
      simp only [real, List.cons.injEq]
      constructor
      · intro run
        split at run
        · cases run
        next unparser combined =>
          cases run
          exact ⟨unparser, ⟨first, others, ⟨rfl, rfl⟩, combined⟩, rfl⟩
      · rintro ⟨unparser, ⟨_, _, ⟨rfl, rfl⟩, combined⟩, rfl⟩
        rw [combined]

/-- What a pass over node types does. -/
structure Merged (g : Grammar) (nodes : List NodeId) (s s' : Session) : Prop where
  frame : s' = { s with derived := s'.derived, final := s'.final, runTable := s'.runTable }
  occurrences (n : NodeId) : s'.occurrences n = if n ∈ nodes then [] else s.occurrences n
  found (n : NodeId) : n ∈ nodes → s.occurrences n ≠ [] →
    ∃ u, Merges g s n u ∧ s'.final? n = some u
  kept (n : NodeId) : n ∉ nodes ∨ s.occurrences n = [] → s'.final? n = s.final? n

/-- Combining the unparsers of one node type does not show in another. -/
theorem merges_setFinal (other : n ≠ node) {v : NodeUnparser} :
    Merges g ((s.dropOccurrences node).setFinal node u) n v ↔ Merges g s n v := by
  have same : ((s.dropOccurrences node).setFinal node u).occurrences n = s.occurrences n :=
    (occurrences_dropOccurrences s node n).trans (if_neg other)
  unfold Merges
  rw [same]
  exact Iff.rfl

/-- **A pass over node types** combines the unparsers of each. -/
theorem forM_finalizeNode_ok (run : forM nodes (finalizeNode g) s = .ok () s') :
    Merged g nodes s s' := by
  induction nodes generalizing s with
  | nil =>
    cases run
    exact ⟨rfl, fun _ => rfl, nofun, fun _ _ => rfl⟩
  | cons node nodes ih =>
    obtain ⟨⟨⟩, middle, first, rest⟩ := estate_bind_eq_ok.mp run
    have tail := ih rest
    obtain ⟨none, rfl⟩ | ⟨some, u, merges, rfl⟩ := finalizeNode_eq_ok.mp first
    · refine ⟨tail.frame, fun n => ?_, fun n hn some => ?_, fun n h => ?_⟩
      · rw [tail.occurrences]
        by_cases same : n = node
        · subst same
          simp [none]
        · simp [same]
      · obtain rfl | hn := List.mem_cons.mp hn
        · exact absurd none some
        · exact tail.found n hn some
      · exact tail.kept n (h.imp_left fun out => mt (List.mem_cons_of_mem node) out)
    · have dropped (n : NodeId) : ((s.dropOccurrences node).setFinal node u).occurrences n =
          if n = node then [] else s.occurrences n := occurrences_dropOccurrences s node n
      have set (n : NodeId) : ((s.dropOccurrences node).setFinal node u).final? n =
          if n = node then Option.some u else s.final? n := final?_setFinal _ node u n
      refine ⟨by rw [tail.frame]; rfl, fun n => ?_, fun n hn some => ?_, fun n h => ?_⟩
      · rw [tail.occurrences, dropped]
        by_cases same : n = node
        · simp [same]
        · simp [same]
      · by_cases same : n = node
        · subst same
          refine ⟨u, merges, ?_⟩
          rw [tail.kept n (.inr (by rw [dropped, if_pos rfl])), set, if_pos rfl]
        · have hn := List.mem_of_ne_of_mem same hn
          obtain ⟨v, merges, final⟩ := tail.found n hn (by rwa [dropped, if_neg same])
          exact ⟨v, (merges_setFinal same).mp merges, final⟩
      · have same : n ≠ node := by
          rintro rfl
          exact h.elim (fun out => out List.mem_cons_self) some
        rw [tail.kept n, set, if_neg same]
        rw [dropped, if_neg same]
        exact h.imp_left fun out => mt (List.mem_cons_of_mem node) out

/-- **A pass over node types goes through** if it does for each of them alone. -/
theorem forM_finalizeNode_of_merges
    (h : ∀ n ∈ nodes, s.occurrences n ≠ [] → ∃ u, Merges g s n u) :
    ∃ s', forM nodes (finalizeNode g) s = .ok () s' := by
  induction nodes generalizing s with
  | nil => exact ⟨s, rfl⟩
  | cons node nodes ih =>
    rw [List.forall_mem_cons] at h
    by_cases none : s.occurrences node = []
    · obtain ⟨s', rest⟩ := ih h.2
      exact ⟨s', estate_bind_eq_ok.mpr ⟨(), s, finalizeNode_eq_ok.mpr (.inl ⟨none, rfl⟩), rest⟩⟩
    · obtain ⟨u, merges⟩ := h.1 none
      have first := finalizeNode_eq_ok.mpr (.inr ⟨none, u, merges, rfl⟩)
      obtain ⟨s', rest⟩ := ih (s := (s.dropOccurrences node).setFinal node u) fun n hn some => by
        have dropped : ((s.dropOccurrences node).setFinal node u).occurrences n =
            if n = node then [] else s.occurrences n := occurrences_dropOccurrences s node n
        have other : n ≠ node := by
          rintro rfl
          exact some (dropped.trans (if_pos rfl))
        rw [dropped, if_neg other] at some
        obtain ⟨v, merges⟩ := h.2 n hn some
        exact ⟨v, (merges_setFinal other).mpr merges⟩
      exact ⟨s', estate_bind_eq_ok.mpr ⟨(), _, first, rest⟩⟩

/-! ## A pass that fails -/

variable {problem : Problem}

/-- The reasons for which the unparsers of a node type are not combined.  They are dropped then. -/
theorem finalizeNode_error (run : finalizeNode g node s = .error problem s') :
    s' = s.dropOccurrences node ∧ s.occurrences node ≠ [] ∧
      ((s.occurrences node).filter (!·.isNull) = [] ∨ Refuses g s node problem) := by
  unfold finalizeNode at run
  split at run
  · cases run
  next some =>
  rw [List.isEmpty_iff] at some
  split at run
  next absent =>
    cases run
    exact ⟨rfl, some, .inl absent⟩
  next first others real =>
  split at run
  next refused =>
    cases run
    exact ⟨rfl, some, .inr ⟨first, others, real, refused⟩⟩
  · cases run

/-- **A pass over node types that fails** does so at one that fails on its own. -/
theorem forM_finalizeNode_error (run : forM nodes (finalizeNode g) s = .error problem s') :
    ∃ n ∈ nodes, s.occurrences n ≠ [] ∧ ((s.occurrences n).filter (!·.isNull) = [] ∨
      Refuses g s n problem) := by
  induction nodes generalizing s with
  | nil => cases run
  | cons node nodes ih =>
    obtain first | ⟨⟨⟩, middle, first, rest⟩ := estate_bind_eq_error.mp run
    · exact ⟨node, List.mem_cons_self, (finalizeNode_error first).2⟩
    obtain ⟨n, hn, some, refused⟩ := ih rest
    refine ⟨n, List.mem_cons_of_mem node hn, ?_⟩
    obtain ⟨-, rfl⟩ | ⟨-, u, -, rfl⟩ := finalizeNode_eq_ok.mp first
    · exact ⟨some, refused⟩
    · have dropped : ((s.dropOccurrences node).setFinal node u).occurrences n =
          if n = node then [] else s.occurrences n := occurrences_dropOccurrences s node n
      have other : n ≠ node := by
        rintro rfl
        exact some (dropped.trans (if_pos rfl))
      rw [if_neg other] at dropped
      rw [Refuses, dropped] at refused
      exact ⟨dropped ▸ some, refused⟩

/-! ## What a pass adds -/

/-- What a pass over node types adds to a session: combined unparsers of some of them, and the runs
of these, in order. -/
structure Adds (nodes : List NodeId) (new : NodeId → Option NodeUnparser) (s s' : Session) :
    Prop where
  within (n : NodeId) : n ∉ nodes → new n = none
  final? (n : NodeId) : s'.final? n = (new n).or (s.final? n)
  runTable : s'.runTable = s.runTable.addAll ((nodes.filterMap new).flatMap NodeUnparser.runs)

theorem Adds.nothing (nodes : List NodeId) (final : s'.final = s.final)
    (runTable : s'.runTable = s.runTable) : Adds nodes (fun _ => none) s s' where
  within _ _ := rfl
  final? n := by rw [Session.final?, final, Option.none_or, Session.final?]
  runTable := by simp [runTable, RunTable.addAll]

theorem Adds.cons {one more : NodeId → Option NodeUnparser} (new : node ∉ nodes)
    (first : Adds [node] one s s') (rest : Adds nodes more s' s'') :
    Adds (node :: nodes) (fun n => (more n).or (one n)) s s'' where
  within n hn := by
    rw [List.mem_cons, not_or] at hn
    rw [rest.within n hn.2, first.within n (by simpa using hn.1), Option.none_or]
  final? n := by rw [rest.final?, first.final?, Option.or_assoc]
  runTable := by
    have here : (more node).or (one node) = one node := by rw [rest.within node new, Option.none_or]
    have later : nodes.filterMap (fun n => (more n).or (one n)) = nodes.filterMap more :=
      List.filterMap_congr fun n hn => by
        have other : n ≠ node := fun same => new (same ▸ hn)
        rw [first.within n (by simpa using other), Option.or_none]
    have split : (node :: nodes).filterMap (fun n => (more n).or (one n)) =
        [node].filterMap one ++ nodes.filterMap more := by
      rw [List.filterMap_cons, List.filterMap_cons, here, later]
      cases one node <;> rfl
    rw [rest.runTable, first.runTable, split, List.flatMap_append, RunTable.addAll_append]

/-- One step of a pass combines the unparsers of its node type, or leaves all combined ones as they
were. -/
theorem adds_finalizeNode (g : Grammar) (node : NodeId) (s : Session) :
    ∃ new, Adds [node] new s (stateAfter (finalizeNode g node) s) := by
  cases run : finalizeNode g node s with
  | error problem s' =>
    obtain ⟨rfl, -⟩ := finalizeNode_error run
    rw [stateAfter_of_error run]
    exact ⟨_, .nothing [node] rfl rfl⟩
  | ok _ s' =>
    rw [stateAfter_of_ok run]
    obtain ⟨-, rfl⟩ | ⟨-, u, -, rfl⟩ := finalizeNode_eq_ok.mp run
    · exact ⟨_, .nothing [node] rfl rfl⟩
    · refine ⟨fun n => if n = node then some u else none, fun n hn => ?_, fun n => ?_, ?_⟩
      · exact if_neg fun same => hn (List.mem_singleton.mpr same)
      · refine (final?_setFinal _ node u n).trans ?_
        by_cases same : n = node
        · rw [if_pos same, if_pos same, Option.some_or]
        · rw [if_neg same, if_neg same, Option.none_or]
          rfl
      · simp [setFinal, dropOccurrences]

/-- **What a pass over node types adds**, each of them passed once, also where it fails. -/
theorem adds_forM_finalizeNode (g : Grammar) (nodup : nodes.Nodup) (s : Session) :
    ∃ new, Adds nodes new s (stateAfter (forM nodes (finalizeNode g)) s) := by
  induction nodes generalizing s with
  | nil => exact ⟨_, .nothing [] rfl rfl⟩
  | cons node nodes ih =>
    rw [List.nodup_cons] at nodup
    obtain ⟨one, first⟩ := adds_finalizeNode g node s
    change ∃ new, Adds (node :: nodes) new s
      (stateAfter (finalizeNode g node >>= fun _ => forM nodes (finalizeNode g)) s)
    rw [stateAfter_bind]
    cases run : finalizeNode g node s with
    | ok _ middle =>
      rw [stateAfter_of_ok run] at first
      obtain ⟨more, rest⟩ := ih nodup.2 middle
      exact ⟨_, first.cons nodup.1 rest⟩
    | error problem middle =>
      rw [stateAfter_of_error run] at first
      exact ⟨_, first.cons nodup.1 (.nothing nodes rfl rfl)⟩

/-! ## All node types -/

theorem nodup_ids (ns : NodeTypes) : ns.ids.Nodup :=
  List.nodup_range.map fun _ _ same => congrArg Index.raw same

theorem finalize_eq (g : Grammar) (s : Session) :
    finalize g s = if s.enabled then forM g.nodes.ids (finalizeNode g) s
      else .ok () { s with derived := #[], final := [] } := by
  change (if s.enabled then _ else _ : EStateM Problem Session Unit) s = _
  split <;> rfl

/-- Without unparsers nothing is combined. -/
theorem finalize_of_disabled (disabled : s.enabled = false) :
    finalize g s = .ok () { s with derived := #[], final := [] } := by
  rw [finalize_eq, disabled, if_neg Bool.false_ne_true]

theorem finalize_of_enabled (enabled : s.enabled = true) :
    finalize g s = forM g.nodes.ids (finalizeNode g) s := by
  rw [finalize_eq, if_pos enabled]

end Session

end Unparsing
