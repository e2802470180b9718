import Unparsing.Proofs.Unparser.Laws

/-!
# Proofs/Combining — the occurrences of a node type combine in any order

On the occurrences of one node type, combining is a partial commutative monoid up to the numbers of
tokens: an absent node is the unit, and neither the grouping nor the order of the occurrences
decides whether they can be combined (`NodeUnparser.combine_laws`).  Another grouping makes the very
same unparser; another order may choose other tokens that are written alike.
-/

namespace Unparsing

namespace NodeUnparser

variable {lex : Lexicon} {t : TokenTable} {node : NodeId} {a b c u v : NodeUnparser}

/-- An occurrence of the node type, with one run between any two fields, and no tokens around a
field that is always absent. -/
structure Occurrence (node : NodeId) (u : NodeUnparser) : Prop where
  node : u.node = node
  tidy : u.Tidy

/-- Both fail, or both make an unparser of the same form, with the same fields always absent, and
written alike. -/
def Concur (t : TokenTable) (x y : Except Problem NodeUnparser) : Prop :=
  Option.Rel (Alike (t.SameText t)) x.toOption y.toOption

/-- What combining results in, if it does. -/
theorem toOption_eq_some {x : Except Problem NodeUnparser} : x.toOption = some u ↔ x = .ok u := by
  cases x <;> simp [Except.toOption]

/-- Outcomes concur if they succeed under one condition, and make unparsers that are alike. -/
theorem concur_of_ok {x y : Except Problem NodeUnparser} {P Q : Prop}
    (hx : ∀ w, x = .ok w ↔ P ∧ w = u) (hy : ∀ w, y = .ok w ↔ Q ∧ w = v) (same : P ↔ Q)
    (alike : P → u.Alike (t.SameText t) v) : Concur t x y := by
  cases x with
  | ok w =>
    obtain ⟨hP, rfl⟩ := (hx w).mp rfl
    rw [(hy v).mpr ⟨same.mp hP, rfl⟩]
    exact .some (alike hP)
  | error =>
    cases y with
    | ok w => cases (hx u).mpr ⟨same.mpr ((hy w).mp rfl).1, rfl⟩
    | error => exact .none

/-- An absent node of the same type, in the second place, makes no difference. -/
theorem combine_null_of_node (h : u.node = node) : u.combine lex (null node) = .ok u := by
  cases u with
  | null _ =>
    cases h
    exact combine_null_left lex _ _
  | regular | list | tokenNode => exact combine_null_right lex node rfl

/-- Combining an occurrence with itself makes no difference. -/
theorem combine_self (tidy : u.Tidy) : u.combine lex u = .ok u :=
  (combine_eq_ok tidy).mpr ⟨.refl lex.tokens u, (merge_self u).symm⟩

/-- Two occurrences of a node type combine to a third. -/
theorem Occurrence.combine (ha : a.Occurrence node) (hb : b.Occurrence node)
    (h : a.combine lex b = .ok c) : c.Occurrence node := by
  obtain ⟨compatible, rfl⟩ := (combine_eq_ok ha.tidy).mp h
  exact ⟨compatible.node_merge ha.node hb.node, ha.tidy.merge hb.tidy compatible⟩

/-- **How three occurrences are grouped** makes no difference. -/
theorem combine_assoc (c : NodeUnparser) (ha : a.Tidy) (hb : b.Tidy) :
    (a.combine lex b >>= (·.combine lex c)).toOption =
      (b.combine lex c >>= a.combine lex).toOption := by
  ext u
  simp only [toOption_eq_some, except_bind_eq_ok, combine_eq_ok ha, combine_eq_ok hb]
  constructor
  · rintro ⟨_, ⟨hab, rfl⟩, run⟩
    obtain ⟨left, rfl⟩ := (combine_eq_ok (ha.merge hb hab)).mp run
    obtain ⟨hac, hbc⟩ := (compatible_merge hab).mp left
    have right := (compatible_merge hbc).mpr ⟨hab.symm, hac.symm⟩
    exact ⟨_, ⟨hbc, rfl⟩, right.symm, merge_assoc hab hbc⟩
  · rintro ⟨_, ⟨hbc, rfl⟩, right, rfl⟩
    obtain ⟨hba, hca⟩ := (compatible_merge hbc).mp right.symm
    have hab := hba.symm
    have left := (compatible_merge hab).mpr ⟨hca.symm, hbc⟩
    have combined := combine_of_compatible left
    exact ⟨_, ⟨hab, rfl⟩, combined.trans (congrArg Except.ok (merge_assoc hab hbc))⟩

/-- **Which of two occurrences comes first** makes no difference but for the numbers of tokens. -/
theorem combine_comm (ha : a.Occurrence node) (hb : b.Occurrence node) :
    Concur lex.tokens (a.combine lex b) (b.combine lex a) :=
  concur_of_ok (fun _ => combine_eq_ok ha.tidy) (fun _ => combine_eq_ok hb.tidy)
    ⟨.symm, .symm⟩ fun h => merge_comm h (ha.node.trans hb.node.symm) ha.tidy hb.tidy

/-- **The order of occurrences** makes no difference but for the numbers of tokens. -/
theorem foldlM_combine_perm {first first' : NodeUnparser} {others others' : List NodeUnparser}
    (perm : (first :: others).Perm (first' :: others'))
    (h : ∀ u ∈ first :: others, u.Occurrence node) :
    Concur lex.tokens (others.foldlM (combine lex) first)
      (others'.foldlM (combine lex) first') := by
  have tidy : ∀ u ∈ first :: others, u.Tidy := fun u hu => (h u hu).tidy
  refine concur_of_ok (fun _ => foldlM_combine_eq_ok tidy)
    (fun _ => foldlM_combine_eq_ok fun u hu => tidy u (perm.mem_iff.mpr hu))
    (perm.pairwise_iff Compatible.symm) fun compatible => ?_
  -- The first occurrences differ, so the merging begins with an absent node on both sides.
  have nodes : ∀ u ∈ null node :: first :: others, u.node = node :=
    List.forall_mem_cons.mpr ⟨rfl, fun u hu => (h u hu).node⟩
  have tidy' : ∀ u ∈ null node :: first :: others, u.Tidy :=
    List.forall_mem_cons.mpr ⟨trivial, tidy⟩
  have compatible' : (null node :: first :: others).Pairwise (Compatible lex.tokens) :=
    List.pairwise_cons.mpr ⟨fun u _ => .nullLeft node u, compatible⟩
  have merged := foldl_merge_perm perm nodes tidy' compatible'
  rwa [List.foldl_cons, List.foldl_cons, merge_null_left, merge_null_left] at merged

/-- **Combining is a partial commutative monoid up to the numbers of tokens** on the occurrences of
a node type.  An absent node is its unit, an occurrence combined with itself is unchanged, and what
two make is an occurrence again.  The grouping does not matter at all.  Two exchanged, or several in
another order, fail together or make unparsers written alike. -/
theorem combine_laws (lex : Lexicon) (node : NodeId) :
    (∀ u, Occurrence node u → (null node).combine lex u = .ok u ∧
      u.combine lex (null node) = .ok u ∧ u.combine lex u = .ok u) ∧
    (∀ a b c, Occurrence node a → Occurrence node b → a.combine lex b = .ok c →
      Occurrence node c) ∧
    (∀ a b c, Occurrence node a → Occurrence node b → Occurrence node c →
      (a.combine lex b >>= (·.combine lex c)).toOption =
        (b.combine lex c >>= a.combine lex).toOption) ∧
    (∀ a b, Occurrence node a → Occurrence node b →
      Concur lex.tokens (a.combine lex b) (b.combine lex a)) ∧
    ∀ first others first' others', (∀ u ∈ first :: others, Occurrence node u) →
      (first :: others).Perm (first' :: others') →
      Concur lex.tokens (others.foldlM (combine lex) first)
        (others'.foldlM (combine lex) first') := by
  refine ⟨fun u hu => ⟨combine_null_left lex node u, ?_, combine_self hu.tidy⟩, ?_, ?_, ?_, ?_⟩
  · exact combine_null_of_node hu.node
  · exact fun _ _ _ ha hb => ha.combine hb
  · exact fun _ _ c ha hb _ => combine_assoc c ha.tidy hb.tidy
  · exact fun _ _ ha hb => combine_comm ha hb
  · exact fun _ _ _ _ h perm => foldlM_combine_perm perm h

end NodeUnparser

/-! ## Pairs

Two dots of different kinds are written alike.  One occurrence of a pair has no right part, and
another has no left part. -/

namespace Pairs

open NodeUnparser

/-- Pairs and their parts, and three tokens.  The first two of these are written alike. -/
def lexicon : Lexicon where
  nodes := (({} : NodeTypes).declare "Pair" none {} |>.2.addField ⟨0⟩ "left"
    |>.2.addField ⟨0⟩ "right").2
  tokens := { tokens := #[⟨⟨⟨1⟩, none⟩, "."⟩, ⟨⟨⟨2⟩, none⟩, "."⟩, ⟨⟨⟨3⟩, none⟩, ","⟩] }

/-- A pair with a comma between its parts.  A part is absent, or has a token before it. -/
def pair (pre : TokenRun) (left right : Option TokenId) : NodeUnparser :=
  let part (field : FieldId) (before : Option TokenId) : FieldUnparser :=
    { node := ⟨0⟩, field, alwaysAbsent := before.isNone, pre := before.toList }
  .regular
    { node := ⟨0⟩, pre, fields := [part ⟨0⟩ left, part ⟨1⟩ right], inter := [[⟨2⟩]], post := [] }

/-- A dot, then the left part. -/
def leftOnly : NodeUnparser := pair [⟨0⟩] (some ⟨0⟩) none
/-- A dot of the other kind, then the right part. -/
def rightOnly : NodeUnparser := pair [⟨1⟩] none (some ⟨1⟩)
/-- A pair that is not there. -/
def absent : NodeUnparser := .null ⟨0⟩
/-- A pair without a dot and without parts. -/
def undotted : NodeUnparser := pair [] none none

/-- Pairs of all forms are occurrences of one node type. -/
theorem occurrence_pair (pre : TokenRun) (left right : Option TokenId) :
    (pair pre left right).Occurrence ⟨0⟩ where
  node := rfl
  tidy := ⟨rfl, by cases left <;> cases right <;> simp [FieldUnparser.Bare]⟩

/-- Both parts are shown after each order, with the dot of the first occurrence before the pair.  A
pair without the dot is refused in each order. -/
theorem combine_laws_of_pairs :
    (([rightOnly, absent].foldlM (combine lexicon) leftOnly).toOption =
      some (pair [⟨0⟩] (some ⟨0⟩) (some ⟨1⟩)) ∧
    ([absent, leftOnly].foldlM (combine lexicon) rightOnly).toOption =
      some (pair [⟨1⟩] (some ⟨0⟩) (some ⟨1⟩)) ∧
    Concur lexicon.tokens ([rightOnly, absent].foldlM (combine lexicon) leftOnly)
      ([absent, leftOnly].foldlM (combine lexicon) rightOnly)) ∧
    ([rightOnly, undotted].foldlM (combine lexicon) leftOnly).toOption = none ∧
    Concur lexicon.tokens ([rightOnly, undotted].foldlM (combine lexicon) leftOnly)
      ([leftOnly, rightOnly].foldlM (combine lexicon) undotted) := by
  obtain ⟨-, -, -, -, reordered⟩ := combine_laws lexicon ⟨0⟩
  refine ⟨⟨by decide +kernel, by decide +kernel, reordered _ _ _ _ ?_ ?_⟩, by decide +kernel,
    reordered _ _ _ _ ?_ ?_⟩
  · simp only [List.forall_mem_cons]
    exact ⟨occurrence_pair .., occurrence_pair .., ⟨rfl, trivial⟩, nofun⟩
  · decide
  · simp only [List.forall_mem_cons]
    exact ⟨occurrence_pair .., occurrence_pair .., occurrence_pair .., nofun⟩
  · decide

end Pairs

end Unparsing
