import Unparsing.Token.Run

/-!
# Proofs/Token/Congruence — runs that are written alike

Two runs are equivalent if the same texts are written for them, one by one, so equivalence is
equality seen through the texts.  It is an equivalence relation, and it goes with putting runs
together: equivalent runs may be exchanged in a longer one, and a longer one that is split at the
same place on both sides has equivalent parts (`TokenRun.equivalent_append_iff`).

What is rendered tells less.  Where the texts of one run run into each other, another run may look
the same and be of another length.
-/

namespace Unparsing

namespace TokenRun

variable {t : TokenTable} {a a' b b' c : TokenRun} {x y : TokenId} {role : String}

theorem equivalence_equivalent (t : TokenTable) :
    Equivalence fun a b : TokenRun => equivalent t a b = true where
  refl _ := equivalent_iff_map_text_eq.mpr rfl
  symm h := equivalent_iff_map_text_eq.mpr (equivalent_iff_map_text_eq.mp h).symm
  trans h h' := equivalent_iff_map_text_eq.mpr
    ((equivalent_iff_map_text_eq.mp h).trans (equivalent_iff_map_text_eq.mp h'))

theorem length_eq_of_equivalent (h : equivalent t a b = true) : a.length = b.length := by
  simpa using congrArg List.length (equivalent_iff_map_text_eq.mp h)

/-- **Runs split at one place** are equivalent just if their parts are. -/
theorem equivalent_append_iff (place : a.length = a'.length) :
    equivalent t (a ++ b) (a' ++ b') = true ↔
      equivalent t a a' = true ∧ equivalent t b b' = true := by
  simp only [equivalent_iff_map_text_eq, List.map_append]
  constructor
  · exact fun whole => List.append_inj whole (by simpa using place)
  · rintro ⟨left, right⟩
    rw [left, right]

/-- **Equivalent runs may be exchanged** in a longer one. -/
theorem equivalent_append (left : equivalent t a a' = true) (right : equivalent t b b' = true) :
    equivalent t (a ++ b) (a' ++ b') = true :=
  (equivalent_append_iff (length_eq_of_equivalent left)).mpr ⟨left, right⟩

theorem equivalent_singleton :
    equivalent t [x] [y] = t.equivalent (some x) (some y) := by
  simp [TokenTable.equivalent]

/-- The same is written for equivalent runs. -/
theorem render_eq_of_equivalent (h : equivalent t a b = true) : render t a = render t b := by
  rw [render, equivalent_iff_map_text_eq.mp h, render]

/-! ## The check -/

theorem checkEquivalent_eq_ok_iff :
    checkEquivalent t role a b = .ok () ↔ equivalent t a b = true := by
  rw [checkEquivalent]
  split <;> simp_all

/-- Two runs that are not equivalent are refused, each as it is written. -/
theorem checkEquivalent_eq_error_iff {problem : Problem} :
    checkEquivalent t role a b = .error problem ↔
      equivalent t a b = false ∧
        problem = .inconsistentTokens role (render t a) (render t b) := by
  rw [checkEquivalent]
  split
  next same => simp [same]
  next differ =>
    rw [Bool.not_eq_true] at differ
    simp only [differ, Except.error.injEq, true_and]
    exact eq_comm

/-! ## All laws together -/

/-- **Equivalence of runs is a congruence.**  It is kept by a token put at the end and by putting
runs together, told of the parts by the whole, and equivalent runs have one length and are rendered
alike.  Two runs pass the check just if they are equivalent, and are reported as rendered otherwise.
Runs themselves are put together associatively, and the empty run adds nothing. -/
theorem equivalent_congruence (t : TokenTable) :
    (Equivalence fun a b : TokenRun => equivalent t a b = true) ∧
    (∀ (a b : TokenRun) (x y : TokenId), equivalent t a b = true →
      t.equivalent (some x) (some y) = true → equivalent t (a ++ [x]) (b ++ [y]) = true) ∧
    (∀ a a' b b' : TokenRun, equivalent t a a' = true → equivalent t b b' = true →
      equivalent t (a ++ b) (a' ++ b') = true) ∧
    (∀ a a' b b' : TokenRun, a.length = a'.length → equivalent t (a ++ b) (a' ++ b') = true →
      equivalent t a a' = true ∧ equivalent t b b' = true) ∧
    (∀ a b : TokenRun, equivalent t a b = true →
      a.length = b.length ∧ render t a = render t b) ∧
    (∀ (role : String) (a b : TokenRun),
      (checkEquivalent t role a b = .ok () ↔ equivalent t a b = true) ∧
      ∀ problem, checkEquivalent t role a b = .error problem ↔
        equivalent t a b = false ∧
          problem = .inconsistentTokens role (render t a) (render t b)) ∧
    ∀ a b c : TokenRun, a ++ b ++ c = a ++ (b ++ c) ∧ [] ++ a = a ∧ a ++ [] = a ∧
      (a ++ b).length = a.length + b.length := by
  refine ⟨equivalence_equivalent t, fun a b x y run token => ?_, fun _ _ _ _ => equivalent_append,
    fun _ _ _ _ place => (equivalent_append_iff place).mp, fun a b h => ?_, fun role a b => ?_,
    fun a b c => ?_⟩
  · exact equivalent_append run (equivalent_singleton.trans token)
  · exact ⟨length_eq_of_equivalent h, render_eq_of_equivalent h⟩
  · exact ⟨checkEquivalent_eq_ok_iff, fun _ => checkEquivalent_eq_error_iff⟩
  · exact ⟨List.append_assoc a b c, List.nil_append a, List.append_nil a, List.length_append⟩

end TokenRun

/-! ## Commas

A comma between arguments and one between statements are of different kinds, and written alike. -/

namespace Commas

open TokenRun

/-- Two commas of different kinds, a semicolon, and one token that is written like a comma and a
semicolon. -/
def table : TokenTable where
  tokens := #[⟨⟨⟨1⟩, none⟩, ","⟩, ⟨⟨⟨2⟩, none⟩, ","⟩, ⟨⟨⟨3⟩, none⟩, ";"⟩,
    ⟨⟨⟨4⟩, some ", ;"⟩, ", ;"⟩]

/-- The comma between arguments. -/
def comma : TokenId := ⟨0⟩
/-- The comma between statements. -/
def other : TokenId := ⟨1⟩
/-- The semicolon. -/
def semicolon : TokenId := ⟨2⟩
/-- The token that is written like a comma and a semicolon. -/
def both : TokenId := ⟨3⟩

/-- One comma may stand for the other before a semicolon, and after it; a run with the semicolon in
its place is refused. -/
theorem equivalent_congruence_of_commas :
    (equivalent table [comma] [other] = true ∧
      equivalent table ([comma] ++ [semicolon]) ([other] ++ [semicolon]) = true ∧
      equivalent table ([semicolon] ++ [comma]) ([semicolon] ++ [other]) = true) ∧
    (equivalent table ([semicolon] ++ [comma]) ([semicolon] ++ [other]) = true ∧
      equivalent table [comma] [other] = true) ∧
    checkEquivalent table "separators" [comma] [semicolon] =
      .error (.inconsistentTokens "separators" "," ";") := by
  obtain ⟨equiv, push, append, split, -, check, -⟩ := equivalent_congruence table
  have commas : equivalent table [comma] [other] = true := by decide +kernel
  have tokens : table.equivalent (some comma) (some other) = true := by decide +kernel
  have after := push [semicolon] [semicolon] comma other (equiv.refl _) tokens
  refine ⟨⟨commas, append _ _ _ _ commas (equiv.refl _), after⟩,
    ⟨after, (split [semicolon] [semicolon] _ _ rfl after).2⟩, ?_⟩
  exact ((check "separators" [comma] [semicolon]).2 _).mpr ⟨by decide +kernel, by decide +kernel⟩

/-- A token that is written like a comma and a semicolon is rendered as they are. -/
example : render table [both] = render table [comma, semicolon] ∧
    equivalent table [both] [comma, semicolon] = false := by
  decide +kernel

end Commas

end Unparsing
