import Unparsing.Proofs.Session.Consistency
import Unparsing.Proofs.Session.Merging

/-!
# Proofs/Session/Settings — the steps of a session that do not ask for its settings

A session carries its settings along.  Recording a production, comparing producers and combining
unparsers do not look at them, so with other settings the same happens, also where it fails
(`Session.record_mapSettings`, `Session.checkAgreement_mapSettings`,
`Session.finalize_mapSettings`).
-/

namespace Unparsing

/-! ## Computations from translated states -/

section Translation

variable {ε σ α β : Type} {f : σ → σ} {x : EStateM ε σ α} {k : α → EStateM ε σ β} {s : σ}

/-- The result of a computation, its state translated. -/
def mapState (f : σ → σ) : EStateM.Result ε σ α → EStateM.Result ε σ α
  | .ok a s => .ok a (f s)
  | .error e s => .error e (f s)

/-- A sequence does the same from a translated state if both parts do. -/
theorem bind_mapState (first : x (f s) = mapState f (x s))
    (rest : ∀ a s', x s = .ok a s' → k a (f s') = mapState f (k a s')) :
    (x >>= k) (f s) = mapState f ((x >>= k) s) := by
  simp only [bind, EStateM.bind, first]
  cases run : x s with
  | ok a s' => exact rest a s' run
  | error e s' => rfl

/-- **A loop does the same from a translated state** if every step does, as long as an invariant
holds that every step keeps. -/
theorem forM_mapState (I : σ → Prop) {step : α → EStateM ε σ Unit}
    (keeps : ∀ a s, I s → I (stateAfter (step a) s))
    (same : ∀ a s, I s → step a (f s) = mapState f (step a s)) (as : List α) (hs : I s) :
    forM as step (f s) = mapState f (forM as step s) := by
  induction as generalizing s with
  | nil => rfl
  | cons a as ih =>
    refine bind_mapState (k := fun _ => forM as step) (same a s hs) fun _ s' run => ?_
    exact ih (stateAfter_of_ok run ▸ keeps a s hs)

end Translation

namespace Session

/-- The session with its settings changed. -/
def mapSettings (s : Session) (f : Settings → Settings) : Session :=
  { s with settings := f s.settings }

variable {g : Grammar} (f : Settings → Settings)

theorem record_mapSettings (node : NodeId) (p : Parser) (s : Session) :
    record g node p (s.mapSettings f) = mapState (·.mapSettings f) (record g node p s) := by
  simp only [record, mapSettings]
  generalize Derivation.attempt s.enabled (g.deriveNode node p) s.tokens = attempted
  obtain ⟨derivation, tokens⟩ := attempted
  cases derivation.result with
  | ok unparser => cases unparser <;> rfl
  | error problem => rfl

theorem checkAgreement_mapSettings (s : Session) (nodes : List NodeId) :
    checkAgreement g (s.mapSettings f) nodes =
      ((checkAgreement g s nodes).1.mapSettings f, (checkAgreement g s nodes).2) := by
  induction nodes generalizing s with
  | nil => rfl
  | cons node nodes ih =>
    have current : (s.mapSettings f).currentProducers g node = s.currentProducers g node := rfl
    rw [checkAgreement, checkAgreement, current]
    split
    · split
      · exact ih s
      next canonical _ => exact ih { s with canonical := (node, canonical) :: s.canonical }
    · rfl

theorem finalizeNode_mapSettings (node : NodeId) (s : Session) :
    finalizeNode g node (s.mapSettings f) =
      mapState (·.mapSettings f) (finalizeNode g node s) := by
  have occurrences : (s.mapSettings f).occurrences node = s.occurrences node := rfl
  have lexicon : (s.mapSettings f).lexicon g = s.lexicon g := rfl
  simp only [finalizeNode, occurrences, lexicon]
  split
  · rfl
  cases (s.occurrences node).filter (!·.isNull) with
  | nil => rfl
  | cons first others =>
    dsimp only
    cases others.foldlM (NodeUnparser.combine (s.lexicon g)) first <;> rfl

theorem finalize_mapSettings (s : Session) :
    finalize g (s.mapSettings f) = mapState (·.mapSettings f) (finalize g s) := by
  rw [finalize_eq, finalize_eq]
  change (if s.enabled then _ else _) = _
  split
  · exact forM_mapState (fun _ => True) (fun _ _ _ => trivial)
      (fun node s _ => finalizeNode_mapSettings f node s) _ trivial
  · rfl

end Session

end Unparsing
