import Mathlib.Data.String.Basic
import Unparsing.Proofs.Derivation.Stepwise
import Unparsing.Proofs.Token.Sorted

/-!
# Proofs/Token/Requests — tables filled in different orders are sorted alike

A table is filled by requests for tokens, one after the other.  It holds the identities of those
that were granted (`TokenTable.Faithful.mem_identities_serve`), numbered as they came; the requests
refused leave no trace.  The sorted table is free of that history: its tokens stand strictly in the
order of what is written, and which tokens they are depends on the identities granted only
(`TokenTable.sorted_of_requests`).
-/

namespace Unparsing

/-! ## The order of what is written -/

/-- **Strictly before in a sorted table**: by what is written, then by kind, then by the texts of
their own, of which none comes first. -/
def TokenUnparser.Before (a b : TokenUnparser) : Prop :=
  a.text < b.text ∨ a.text = b.text ∧
    (a.kind.raw < b.kind.raw ∨ a.kind.raw = b.kind.raw ∧ a.matchText < b.matchText)

/-- Of two tokens in order that differ, the first is strictly before the second. -/
theorem TokenUnparser.before_of_le {a b : TokenUnparser} (le : a.le b = true) (differ : a ≠ b) :
    a.Before b := by
  have strict : order a b = .lt := by
    have level : order a b ≠ .eq := fun eq => differ <| le_antisymm le <| by
      have swap : order b a = (order a b).swap := Std.OrientedCmp.eq_swap
      change (order b a).isLE = true
      rw [swap, eq]
      rfl
    have notAfter : (order a b).isLE = true := le
    generalize order a b = o at notAfter level
    cases o with
    | lt => rfl
    | eq => exact absurd rfl level
    | gt => cases notAfter
  have texts {v w : Option String} (h : compare v w = .lt) : v < w := by
    cases v <;> cases w
    · cases h
    · trivial
    · cases h
    · exact Option.some_lt_some.mpr (compare_lt_iff_lt.mp h)
  rw [order, compareLex, Ordering.then_eq_lt, compareLex, Ordering.then_eq_lt] at strict
  obtain text | ⟨text, kind | ⟨kind, own⟩⟩ := strict
  · exact .inl (compare_lt_iff_lt.mp text)
  · exact .inr ⟨compare_eq_iff_eq.mp text, .inl (compare_lt_iff_lt.mp kind)⟩
  · exact .inr ⟨compare_eq_iff_eq.mp text, .inr ⟨compare_eq_iff_eq.mp kind, texts own⟩⟩

/-! ## Requests -/

/-- A request for a token of a kind, with a text if the kind leaves it open. -/
structure TokenRequest where
  kind : KindId
  text : Option String := none

/-- The identity asked for. -/
def TokenRequest.identity (r : TokenRequest) : TokenIdentity := .of r.kind r.text

namespace TokenTable

variable {ks : TokenKinds} {t t' : TokenTable} {x : TokenIdentity}

/-- The identities that a table holds, in the order of their numbers. -/
def identities (t : TokenTable) : List TokenIdentity := t.tokens.toList.map (·.toTokenIdentity)

/-- The table after requests, one after the other, whether they are granted or not. -/
def serve (ks : TokenKinds) (t : TokenTable) : List TokenRequest → TokenTable
  | [] => t
  | r :: rs => serve ks (stateAfter (intern ks r.identity) t) rs

/-- The identities of the requests that are granted. -/
def granted (ks : TokenKinds) (t : TokenTable) : List TokenRequest → List TokenIdentity
  | [] => []
  | r :: rs =>
    match intern ks r.identity t with
    | .ok _ t' => r.identity :: granted ks t' rs
    | .error _ t' => granted ks t' rs

theorem Faithful.serve (h : t.Faithful ks) (rs : List TokenRequest) :
    (serve ks t rs).Faithful ks := by
  induction rs generalizing t with
  | nil => exact h
  | cons r rs ih => exact ih ((Interning.Stepwise.intern r.kind r.text).faithful h)

/-- An identity that is granted is in the table then, beside those that were. -/
theorem Faithful.mem_identities_intern {i : TokenId} (h : t.Faithful ks) {y : TokenIdentity}
    (run : intern ks x t = .ok i t') : y ∈ t'.identities ↔ y = x ∨ y ∈ t.identities := by
  cases hw : ks.wording x with
  | error fault => cases run.symm.trans (h.intern_of_error hw)
  | ok text =>
    obtain ⟨_, _, run', grown, -, found, fresh⟩ := h.intern_of_ok hw
    cases run.symm.trans run'
    simp only [identities, List.mem_map]
    constructor
    · rintro ⟨u, hu, rfl⟩
      obtain old | rfl := fresh u hu
      · exact .inr ⟨u, old, rfl⟩
      · exact .inl rfl
    · rintro (rfl | ⟨u, hu, rfl⟩)
      · exact ⟨_, mem_of_get? found, rfl⟩
      · exact ⟨u, grown.subset hu, rfl⟩

/-- **A table holds the identities that were granted**, beside those that it had. -/
theorem Faithful.mem_identities_serve (h : t.Faithful ks) (rs : List TokenRequest) :
    x ∈ (TokenTable.serve ks t rs).identities ↔ x ∈ granted ks t rs ∨ x ∈ t.identities := by
  induction rs generalizing t with
  | nil => simp [TokenTable.serve, granted]
  | cons r rs ih =>
    have step : (stateAfter (intern ks r.identity) t).Faithful ks :=
      (Interning.Stepwise.intern r.kind r.text).faithful h
    rw [TokenTable.serve, ih step, granted]
    cases run : intern ks r.identity t with
    | ok i t' =>
      rw [stateAfter_of_ok run, h.mem_identities_intern run, List.mem_cons, or_left_comm, or_assoc]
    | error e t' => rw [stateAfter_of_error run, eq_of_intern_error run]

/-- Tables of the same identities hold the same tokens: kinds tell what is written. -/
theorem Faithful.mem_tokens_of_identities (h : t.Faithful ks) (h' : t'.Faithful ks)
    (sub : ∀ x ∈ t.identities, x ∈ t'.identities) {u : TokenUnparser} (hu : u ∈ t.tokens.toList) :
    u ∈ t'.tokens.toList := by
  obtain ⟨v, hv, same⟩ := List.mem_map.mp (sub _ (List.mem_map_of_mem hu))
  have wording := h'.wording v hv
  rw [same, h.wording u hu] at wording
  obtain ⟨identity, text⟩ := u
  obtain ⟨identity', text'⟩ := v
  cases same
  cases wording
  exact hv

/-! ## The sorted table -/

/-- **The sorted table is strictly increasing**: no two tokens of a table are level. -/
theorem Faithful.pairwise_before (h : t.Faithful ks) :
    (t.tokens.toList.mergeSort TokenUnparser.le).Pairwise TokenUnparser.Before := by
  have nodup : (t.tokens.toList.mergeSort TokenUnparser.le).Nodup :=
    (List.mergeSort_perm _ _).nodup_iff.mpr h.nodup.of_map
  exact ((TokenUnparser.pairwise_mergeSort _).and nodup).imp fun ⟨le, differ⟩ =>
    TokenUnparser.before_of_le le differ

/-- **A table filled by requests, sorted**, has all its numbers, each naming a token strictly before
that of the next.  The tokens and their order depend on which identities were granted, and on
nothing else. -/
theorem sorted_of_requests (ks : TokenKinds) (rs : List TokenRequest) :
    (serve ks {} rs).sorted.Perm (serve ks {} rs).ids ∧
    (serve ks {} rs).sorted.Pairwise (fun i j => ∃ a b, (serve ks {} rs).get? i = some a ∧
      (serve ks {} rs).get? j = some b ∧ a.Before b) ∧
    ∀ rs', (∀ x, x ∈ granted ks {} rs ↔ x ∈ granted ks {} rs') →
      (serve ks {} rs).sorted.map (serve ks {} rs).get? =
        (serve ks {} rs').sorted.map (serve ks {} rs').get? := by
  have faithful (rs : List TokenRequest) := (faithful_empty ks).serve rs
  have held (rs : List TokenRequest) (x : TokenIdentity) :
      x ∈ (serve ks {} rs).identities ↔ x ∈ granted ks {} rs := by
    rw [(faithful_empty ks).mem_identities_serve rs]
    exact or_iff_left List.not_mem_nil
  refine ⟨List.mergeSort_perm _ _, ?_, fun rs' same => ?_⟩
  · have named : ((serve ks {} rs).sorted.map (serve ks {} rs).get?).Pairwise
        fun a b => ∃ u v, a = some u ∧ b = some v ∧ u.Before v := by
      rw [map_get?_sorted, List.pairwise_map]
      exact (faithful rs).pairwise_before.imp fun before => ⟨_, _, rfl, rfl, before⟩
    exact List.pairwise_map.mp named
  · rw [map_get?_sorted, map_get?_sorted, mergeSort_tokens_eq (faithful rs) (faithful rs')]
    refine fun u => ⟨?_, ?_⟩
    · refine (faithful rs).mem_tokens_of_identities (faithful rs') fun x hx => ?_
      rwa [held, ← same, ← held]
    · refine (faithful rs').mem_tokens_of_identities (faithful rs) fun x hx => ?_
      rwa [held, same, ← held]

end TokenTable

/-! ## Plus signs

A plus sign is a token of its own kind, or a name.  It is asked for in two orders, among requests
that are refused. -/

namespace PlusSigns

open TokenTable

/-- The kind of plus signs, which have their text from it. -/
def plus : KindId := ⟨1⟩
/-- The kind of words, whose text varies. -/
def word : KindId := ⟨2⟩

/-- Plus signs and words. -/
def kinds : TokenKinds := (({} : TokenKinds).declareLiteral "Plus" "+" |>.2.declarePattern "Word").2

/-- A word that reads `+` is asked for before the plus sign. -/
def early : List TokenRequest := [⟨word, some "+"⟩, ⟨plus, none⟩, ⟨word, none⟩, ⟨plus, some ""⟩]
/-- The plus sign is asked for before a word that reads `+`. -/
def late : List TokenRequest := [⟨plus, none⟩, ⟨plus, some "+"⟩, ⟨word, some "+"⟩]

/-- The tables number the two plus signs differently, and sort them alike. -/
theorem sorted_of_requests_early :
    (∀ x, x ∈ granted kinds {} early ↔ x ∈ granted kinds {} late) ∧
    (serve kinds {} early).get? ⟨0⟩ = some ⟨⟨word, some "+"⟩, "+"⟩ ∧
    (serve kinds {} late).get? ⟨0⟩ = some ⟨⟨plus, none⟩, "+"⟩ ∧
    (serve kinds {} early).sorted.map (serve kinds {} early).get? =
      (serve kinds {} late).sorted.map (serve kinds {} late).get? := by
  have first : granted kinds {} early = [⟨word, some "+"⟩, ⟨plus, none⟩, ⟨plus, none⟩] := by
    decide +kernel
  have second : granted kinds {} late = [⟨plus, none⟩, ⟨word, some "+"⟩] := by decide +kernel
  have same (x : TokenIdentity) : x ∈ granted kinds {} early ↔ x ∈ granted kinds {} late := by
    rw [first, second]
    simp [or_comm]
  exact ⟨same, by decide +kernel, by decide +kernel,
    (sorted_of_requests kinds early).2.2 late same⟩

end PlusSigns

end Unparsing
