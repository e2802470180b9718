import Unparsing.Proofs.Build
import Unparsing.Proofs.Session.Mode

/-!
# Proofs/Mode — required unparsers and unparsers on a best-effort basis

The two modes that want unparsers differ in one thing: a rule that drops what it parsed is an error
in the first, and gives unparsers up in the second.  Otherwise they end alike, with the same session
and the same reports (`Session.required_vs_bestEffort`).
-/

namespace Unparsing

/-- What makes a rule sound does not depend on the settings: a root that creates a node drops
nothing. -/
theorem Grammar.Sound.anywhere {g : Grammar} {settings : Settings} {rule : RuleId}
    (h : g.Sound settings rule) (settings' : Settings) : g.Sound settings' rule :=
  h.imp_right fun ⟨root, rooted, creates, _⟩ =>
    ⟨root, rooted, creates, fun _ _ => drops_notMem_survey creates⟩

/-! ## A grammar with a loss -/

namespace Lossy

open Grammar

/-- The token `.`. -/
def dot : Parser := .token ⟨0⟩ ⟨1⟩ none
/-- A unit, written as a dot. -/
def unit : Parser := .transform ⟨2⟩ ⟨0⟩ ⟨1⟩ [dot]
/-- A unit with a dot behind it, which is dropped. -/
def dotted : Parser := .pick ⟨4⟩ ⟨3⟩ [unit, dot] 0

/-- A node type without fields, written as a dot, and a rule that drops another dot behind it. -/
def grammar : Grammar :=
  ({ nodes := (({} : NodeTypes).declare "Unit" none {}).2
     kinds := (({} : TokenKinds).declareLiteral "Dot" ".").2 } : Grammar)
    |>.token ⟨1⟩ none |>.2.transform ⟨0⟩ [dot] |>.2.pick [unit, dot] 0
    |>.2.addRule "dotted" dotted |>.2

/-- Where unparsers are required, the dropped dot is an error. -/
theorem loses : ∃ q', Session.compute grammar ⟨0⟩ (Session.start ⟨.required, .all⟩ {}) =
    .error (.topLevelLoss "dotted" .dummy) q' :=
  ⟨_, rfl⟩

/-- Where unparsers are wanted on a best-effort basis, the derivation goes through. -/
theorem generated : ∃ s, (grammar.buildUnparsers ⟨.bestEffort, .all⟩ {}).1 = .ok s := by
  obtain ⟨s, run⟩ := eq_ok_of_isSome (r := grammar.buildUnparsers ⟨.bestEffort, .all⟩ {})
    (by decide +kernel)
  exact ⟨s, congrArg Prod.fst run⟩

end Lossy

/-! ## The theorem -/

namespace Session

/-- **The two modes that want unparsers differ in losses only.**  What ends well where unparsers are
required does so on a best-effort basis, with the same session and the same reports; and conversely,
if unparsers are not given up.  A rule whose loss is an error has a root that does not create a
node, so on a best-effort basis unparsers are given up, unless there is an error. -/
theorem required_vs_bestEffort (g : Grammar) (warnings : WarningSet) (queue : DiagnosticQueue) :
    (∀ s queue', g.buildUnparsers ⟨.required, warnings⟩ queue = (.ok s, queue') →
      g.buildUnparsers ⟨.bestEffort, warnings⟩ queue = (.ok (s.inMode .bestEffort), queue')) ∧
    (∀ s queue', g.buildUnparsers ⟨.bestEffort, warnings⟩ queue = (.ok s, queue') →
      s.enabled = true →
      g.buildUnparsers ⟨.required, warnings⟩ queue = (.ok (s.inMode .required), queue')) ∧
    ∀ rule q name span q', q.session.enabled = true → q.session.settings.mode = .required →
      compute g rule q = .error (.topLevelLoss name span) q' →
      (∃ root, g.root? rule = some root ∧ g.createsNode root = false) ∧
      ∀ s, (g.buildUnparsers ⟨.bestEffort, warnings⟩ queue).1 = .ok s → s.enabled = false := by
  refine ⟨fun s queue' run => ?_, fun s queue' run enabled => ?_,
    fun rule q name span q' _ _ run => ?_⟩
  · rw [buildUnparsers_eq] at run ⊢
    exact passOver_inMode .bestEffort rfl nofun nofun run
  · rw [buildUnparsers_eq] at run ⊢
    have sound := (outcome_of_passOver run enabled).sound
    exact passOver_inMode .required rfl nofun
      (fun _ rule hrule => (sound rule hrule).anywhere _) run
  · obtain ⟨user, root, rooted, loses⟩ := createsNode_of_compute_eq_loss run
    refine ⟨⟨root, rooted, loses⟩, fun s run => ?_⟩
    by_contra enabled
    have h := outcome_of_buildUnparsers run (by simpa using enabled)
    obtain passed | ⟨_, rooted', creates, -⟩ := h.sound rule (Grammar.mem_ruleIds_of_root? rooted)
    · cases user.symm.trans passed
    · cases rooted.symm.trans rooted'
      cases loses.symm.trans creates

/-- The dropped dot is an error in one mode, and in the other gives unparsers up. -/
theorem required_vs_bestEffort_of_dotted : ∃ q' s,
    compute Lossy.grammar ⟨0⟩ (start ⟨.required, .all⟩ {}) =
      .error (.topLevelLoss "dotted" .dummy) q' ∧
    (Lossy.grammar.buildUnparsers ⟨.bestEffort, .all⟩ {}).1 = .ok s ∧ s.enabled = false := by
  obtain ⟨q', loss⟩ := Lossy.loses
  obtain ⟨s, run⟩ := Lossy.generated
  exact ⟨q', s, loss, run,
    ((required_vs_bestEffort Lossy.grammar .all {}).2.2 _ _ _ _ _ rfl rfl loss).2 s run⟩

end Session

end Unparsing
