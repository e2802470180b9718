import Mathlib.Data.List.Nodup
import Unparsing.Token.Table

/-!
# Proofs/Token/Table — a table numbers identities, once each and for good

A table that interning has filled is *faithful* to the token kinds: it holds every identity once,
with the wording that the kinds give it.  So a number and an identity determine each other.
Interning only adds at the end: an older table is a beginning of a newer one (`TokenTable.Extends`).

* `TokenTable.Faithful.intern_of_ok`, `TokenTable.Faithful.intern_of_error` — how interning ends.
-/

namespace Unparsing

namespace TokenTable

variable {ks : TokenKinds} {t t' t'' : TokenTable} {i j : TokenId} {u v : TokenUnparser}

/-- A table as interning fills it: no identity twice, each with the wording of its kind. -/
structure Faithful (ks : TokenKinds) (t : TokenTable) : Prop where
  nodup : (t.tokens.toList.map (·.toTokenIdentity)).Nodup
  wording : ∀ u ∈ t.tokens.toList, ks.wording u.toTokenIdentity = .ok u.text

/-- The first table is a beginning of the second. -/
def Extends (t t' : TokenTable) : Prop := t.tokens.toList <+: t'.tokens.toList

/-- Every token of the first table is one of the second, in any place. -/
instance : HasSubset TokenTable := ⟨fun t t' => ∀ ⦃u⦄, u ∈ t.tokens.toList → u ∈ t'.tokens.toList⟩

theorem faithful_empty (ks : TokenKinds) : Faithful ks {} := ⟨List.nodup_nil, by simp⟩

/-! ## Numbers and tokens -/

theorem get?_eq_getElem? (t : TokenTable) (i : TokenId) : t.get? i = t.tokens.toList[i.raw]? := by
  simp [get?]

theorem mem_of_get? (h : t.get? i = some u) : u ∈ t.tokens.toList :=
  List.mem_of_getElem? ((get?_eq_getElem? t i).symm.trans h)

theorem text_of_get? (h : t.get? i = some u) : t.text i = u.text := by simp [text, h]

/-- A number is determined by the identity that it names. -/
theorem Faithful.eq_of_get? (h : t.Faithful ks) (hi : t.get? i = some u) (hj : t.get? j = some v)
    (same : u.toTokenIdentity = v.toTokenIdentity) : i = j := by
  have key : ∀ {k : TokenId} {w : TokenUnparser}, t.get? k = some w →
      (t.tokens.toList.map (·.toTokenIdentity))[k.raw]? = some w.toTokenIdentity := by
    intro k w hk
    rw [List.getElem?_map, ← get?_eq_getElem?, hk]
    rfl
  have hlt := (List.getElem?_eq_some_iff.mp (key hi)).1
  have raw := (List.getElem?_inj hlt h.nodup).mp ((key hi).trans (same ▸ (key hj).symm))
  cases i
  cases j
  exact congrArg Index.mk raw

/-! ## Growth -/

theorem Extends.refl (t : TokenTable) : t.Extends t := List.prefix_refl _

theorem Extends.trans (h : t.Extends t') (h' : t'.Extends t'') : t.Extends t'' :=
  List.IsPrefix.trans h h'

/-- A token keeps its number in a longer table. -/
theorem Extends.get? (h : t.Extends t') (hi : t.get? i = some u) : t'.get? i = some u := by
  obtain ⟨added, happ⟩ := h
  rw [get?_eq_getElem?] at hi ⊢
  rw [← happ, List.getElem?_append_left (List.getElem?_eq_some_iff.mp hi).1, hi]

theorem Extends.subset (h : t.Extends t') : t ⊆ t' := fun _ hu => List.IsPrefix.subset h hu

/-! ## Interning -/

/-- The number found for an identity is that of a token with this identity. -/
theorem find?_eq_some {x : TokenIdentity} (h : t.find? x = some i) :
    ∃ u, t.get? i = some u ∧ u.toTokenIdentity = x := by
  rw [find?, Option.map_eq_some_iff] at h
  obtain ⟨n, hn, rfl⟩ := h
  obtain ⟨hlt, hx, _⟩ := Array.findIdx?_eq_some_iff_getElem.mp hn
  exact ⟨t.tokens[n], by simp [get?, hlt], by simpa using hx⟩

/-- An identity that is not found is that of no token. -/
theorem find?_eq_none {x : TokenIdentity} (h : t.find? x = none) :
    ∀ u ∈ t.tokens.toList, u.toTokenIdentity ≠ x := by
  intro u hu
  rw [find?, Option.map_eq_none_iff, Array.findIdx?_eq_none_iff] at h
  simpa using h u (Array.mem_toList_iff.mp hu)

/-- The table with a token at its end. -/
def push (t : TokenTable) (u : TokenUnparser) : TokenTable := ⟨t.tokens.push u⟩

theorem toList_tokens_push (t : TokenTable) (u : TokenUnparser) :
    (t.push u).tokens.toList = t.tokens.toList ++ [u] := Array.toList_push

theorem extends_push (t : TokenTable) (u : TokenUnparser) : t.Extends (t.push u) :=
  ⟨[u], (toList_tokens_push t u).symm⟩

/-- A token added at the end has the table's size for its number. -/
theorem get?_push_size (t : TokenTable) (u : TokenUnparser) :
    (t.push u).get? ⟨t.size⟩ = some u := by
  simp [get?, push, size]

/-- A table stays faithful with one more token of a new identity and the right text. -/
theorem Faithful.push (h : t.Faithful ks) (new : ∀ v ∈ t.tokens.toList,
    v.toTokenIdentity ≠ u.toTokenIdentity) (wording : ks.wording u.toTokenIdentity = .ok u.text) :
    (t.push u).Faithful ks where
  nodup := by
    rw [toList_tokens_push, List.map_append, List.nodup_append]
    refine ⟨h.nodup, by simp, ?_⟩
    intro x hx y hy
    obtain ⟨v, hv, rfl⟩ := List.mem_map.mp hx
    obtain rfl := List.mem_singleton.mp hy
    exact new v hv
  wording := by
    intro v hv
    rw [toList_tokens_push, List.mem_append, List.mem_singleton] at hv
    obtain hv | rfl := hv
    · exact h.wording v hv
    · exact wording

/-- **Interning that fails** leaves the table as it was. -/
theorem eq_of_intern_error {x : TokenIdentity} {problem : Problem}
    (run : intern ks x t = .error problem t') : t' = t := by
  unfold intern at run
  split at run
  · cases run
  · split at run
    · cases run
    · cases run
      rfl

/-- **Interning an identity that has a wording** finds its number, or adds it at the end. -/
theorem Faithful.intern_of_ok {x : TokenIdentity} {text : String} (h : t.Faithful ks)
    (hw : ks.wording x = .ok text) :
    ∃ i t', intern ks x t = .ok i t' ∧ t.Extends t' ∧ t'.Faithful ks ∧
      t'.get? i = some { x with text } ∧
      ∀ u ∈ t'.tokens.toList, u ∈ t.tokens.toList ∨ u = { x with text } := by
  cases hf : t.find? x with
  | some i =>
    obtain ⟨u, hu, rfl⟩ := find?_eq_some hf
    have htext : u.text = text := Except.ok.inj ((h.wording u (mem_of_get? hu)).symm.trans hw)
    exact ⟨i, t, intern_of_find? hf, .refl t, h, by rw [hu, ← htext], fun _ => .inl⟩
  | none =>
    refine ⟨⟨t.size⟩, t.push { x with text }, ?_, extends_push t _, h.push (find?_eq_none hf) hw,
      get?_push_size t _, fun u hu => ?_⟩
    · simp [intern, hf, hw, TokenTable.push]
    · simpa [toList_tokens_push] using hu

/-- **Interning an identity without a wording** fails on every table, and leaves it as it was. -/
theorem Faithful.intern_of_error {x : TokenIdentity} {fault : Fault} (h : t.Faithful ks)
    (hw : ks.wording x = .error fault) : intern ks x t = .error (.internal fault) t := by
  have unknown : t.find? x = none := by
    cases hf : t.find? x with
    | none => rfl
    | some i =>
      obtain ⟨u, hu, rfl⟩ := find?_eq_some hf
      exact absurd (hw.symm.trans (h.wording u (mem_of_get? hu))) (by simp)
  simp [intern, unknown, hw]

end TokenTable

end Unparsing
