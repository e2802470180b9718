import Mathlib.Data.List.Induction
import Mathlib.Logic.Basic
import Unparsing.Proofs.Token.Requests

/-!
# Proofs/Token/Numbering — numbers of tokens are given once and for good

However a table is filled, it gives the numbers 0, 1, 2, … in order, each identity has one number,
and a number keeps its token whatever is asked for later (`TokenTable.numbering_of_requests`).
Whether a request is granted depends on its kind and its text alone, also where the table answers
without looking at them; one that is refused changes nothing.

A table need not be searched for an identity.  An index beside it, to which every new token is
added, leads to the same numbers (`IndexedTable.InStep`).
-/

namespace Unparsing

/-- **One of two texts, not both**: the literal of the kind, or a text of its own that is not
empty. -/
def TokenRequest.Determined (ks : TokenKinds) (r : TokenRequest) : Prop :=
  Xor ((ks.literal? r.kind).isSome = true) (∃ text, r.text = some text ∧ text ≠ "")

namespace TokenTable

variable {ks : TokenKinds} {t t' t'' : TokenTable} {x : TokenIdentity} {r r' : TokenRequest}
  {i j : TokenId} {text : String}

/-! ## One request -/

theorem wording_eq_ok : ks.wording x = .ok text ↔
    ks.literal? x.kind = some text ∧ x.matchText = none ∨
      ks.literal? x.kind = none ∧ x.matchText = some text := by
  unfold TokenKinds.wording
  cases ks.literal? x.kind <;> cases x.matchText <;> simp

theorem matchText_identity :
    r.identity.matchText = some text ↔ r.text = some text ∧ text ≠ "" := by
  simp [TokenRequest.identity, TokenIdentity.of, Option.filter_eq_some_iff]

/-- A request has a wording if exactly one of its two texts is there. -/
theorem determined_iff : r.Determined ks ↔ ∃ text, ks.wording r.identity = .ok text := by
  simp only [TokenRequest.Determined, ← matchText_identity, wording_eq_ok, exists_or]
  change Xor ((ks.literal? r.identity.kind).isSome = true) _ ↔ _
  cases ks.literal? r.identity.kind <;> cases r.identity.matchText <;> simp [Xor]

/-- What is written for a request is the literal, if there is one, and the text asked for
otherwise. -/
theorem text_of_wording (h : ks.wording r.identity = .ok text) :
    (ks.literal? r.kind).or r.text = some text := by
  obtain ⟨literal, -⟩ | ⟨none, own⟩ := wording_eq_ok.mp h
  · exact (congrArg (·.or r.text) literal).trans rfl
  · exact (congrArg (·.or r.text) none).trans (matchText_identity.mp own).1

/-- **A request that is granted** is answered with a number that the table has, or with the next
one. -/
theorem intern_cases (run : intern ks x t = .ok i t') :
    (i ∈ t.ids ∧ t' = t) ∨ (i = ⟨t.size⟩ ∧ t'.size = t.size + 1) := by
  unfold intern at run
  split at run
  next found =>
    cases run
    obtain ⟨u, named, -⟩ := find?_eq_some found
    rw [get?_eq_getElem?] at named
    exact .inl ⟨Index.mem_upTo.mpr (List.getElem?_eq_some_iff.mp named).1, rfl⟩
  next =>
    split at run
    · cases run
      exact .inr ⟨rfl, Array.size_push _⟩
    · cases run

/-- A table grants what has a wording, and the number that it gives names the token. -/
theorem Faithful.intern_eq_ok (h : t.Faithful ks) (run : intern ks x t = .ok i t') :
    ∃ text, ks.wording x = .ok text ∧ t'.get? i = some { x with text } := by
  cases worded : ks.wording x with
  | ok text =>
    obtain ⟨_, _, run', -, -, named, -⟩ := h.intern_of_ok worded
    cases run.symm.trans run'
    exact ⟨text, rfl, named⟩
  | error fault => cases run.symm.trans (h.intern_of_error worded)

theorem Faithful.granted_iff (h : t.Faithful ks) :
    (∃ i t', intern ks r.identity t = .ok i t') ↔ r.Determined ks := by
  rw [determined_iff]
  constructor
  · rintro ⟨i, t', run⟩
    obtain ⟨text, worded, -⟩ := h.intern_eq_ok run
    exact ⟨text, worded⟩
  · rintro ⟨text, worded⟩
    obtain ⟨i, t', run, -⟩ := h.intern_of_ok worded
    exact ⟨i, t', run⟩

/-! ## Many requests -/

theorem serve_append (ks : TokenKinds) (t : TokenTable) (rs rs' : List TokenRequest) :
    serve ks t (rs ++ rs') = serve ks (serve ks t rs) rs' := by
  induction rs generalizing t with
  | nil => rfl
  | cons r rs ih => exact ih _

theorem serve_grows (ks : TokenKinds) (t : TokenTable) (rs : List TokenRequest) :
    t.Extends (serve ks t rs) := by
  induction rs generalizing t with
  | nil => exact .refl t
  | cons r rs ih => exact (intern_grows ks r.identity t).trans (ih _)

/-- The numbers with which requests are answered, in order; those refused have none. -/
def numbers (ks : TokenKinds) (t : TokenTable) : List TokenRequest → List TokenId
  | [] => []
  | r :: rs =>
    match intern ks r.identity t with
    | .ok i t' => i :: numbers ks t' rs
    | .error _ t' => numbers ks t' rs

theorem numbers_append (ks : TokenKinds) (t : TokenTable) (rs rs' : List TokenRequest) :
    numbers ks t (rs ++ rs') = numbers ks t rs ++ numbers ks (serve ks t rs) rs' := by
  induction rs generalizing t with
  | nil => rfl
  | cons r rs ih =>
    rw [List.cons_append, numbers, numbers, serve]
    cases run : intern ks r.identity t with
    | ok i t' =>
      dsimp only
      rw [ih, stateAfter_of_ok run, List.cons_append]
    | error e t' =>
      dsimp only
      rw [ih, stateAfter_of_error run]

theorem ids_of_size (h : t'.size = t.size + 1) : t'.ids = t.ids ++ [⟨t.size⟩] := by
  simp [ids, Index.upTo, h, List.range_succ]

/-- **The numbers are given in order**: without repetitions, they are 0, 1, 2, …, as many as there
are tokens. -/
theorem eraseDups_numbers (ks : TokenKinds) (rs : List TokenRequest) :
    (numbers ks {} rs).eraseDups = (serve ks {} rs).ids := by
  induction rs using List.reverseRecOn with
  | nil => rfl
  | append_singleton rs r ih =>
    have known (i : TokenId) : i ∈ numbers ks {} rs ↔ i ∈ (serve ks {} rs).ids := by
      rw [← ih, List.mem_eraseDups]
    rw [numbers_append, serve_append, List.eraseDups_append, ih, numbers, serve, serve]
    cases run : intern ks r.identity (serve ks {} rs) with
    | ok i t' =>
      dsimp only
      rw [stateAfter_of_ok run, numbers]
      obtain ⟨old, rfl⟩ | ⟨rfl, size⟩ := intern_cases run
      · simp [List.removeAll, (known i).mpr old]
      · have new : (⟨(serve ks {} rs).size⟩ : TokenId) ∉ numbers ks {} rs := by
          rw [known]
          simp [ids]
        rw [ids_of_size size]
        simp [List.removeAll, new, List.eraseDups_cons]
    | error e t' =>
      dsimp only
      rw [stateAfter_of_error run, eq_of_intern_error run]
      exact List.append_nil _

/-- **A number that was given** names the identity asked for, with what is written for it, then and
later. -/
theorem Faithful.number_of_intern (h : t.Faithful ks) (run : intern ks r.identity t = .ok i t')
    (later : List TokenRequest) : ∃ u, (TokenTable.serve ks t' later).get? i = some u ∧
      u.toTokenIdentity = r.identity ∧ (ks.literal? r.kind).or r.text = some u.text := by
  obtain ⟨text, worded, named⟩ := h.intern_eq_ok run
  exact ⟨_, (serve_grows ks t' later).get? named, rfl, text_of_wording worded⟩

/-- A number that was given is given again just to the same kind with the same text, an empty text
counting as none. -/
theorem eq_iff_of_intern (run : intern ks r.identity t = .ok i t') {later : List TokenRequest}
    (again : intern ks r'.identity (serve ks t' later) = .ok j t'') :
    i = j ↔ r.kind = r'.kind ∧ r.text.filter (· != "") = r'.text.filter (· != "") := by
  have grown : t'.Extends t'' := by
    rw [← stateAfter_of_ok again]
    exact (serve_grows ks t' later).trans (intern_grows ks r'.identity _)
  have first : t''.find? r.identity = some i := find?_mono grown (find?_of_intern run)
  have second : t''.find? r'.identity = some j := find?_of_intern again
  have same : i = j ↔ r.identity = r'.identity := by
    constructor
    · rintro rfl
      obtain ⟨u, named, identity⟩ := find?_eq_some first
      obtain ⟨v, named', identity'⟩ := find?_eq_some second
      rw [← identity, ← identity', Option.some_inj.mp (named.symm.trans named')]
    · intro same
      rw [same] at first
      exact Option.some_inj.mp (first.symm.trans second)
  simpa [TokenRequest.identity, TokenIdentity.of] using same

/-- A search finds a number just if it names the identity. -/
theorem Faithful.find?_eq_some_iff (h : t.Faithful ks) :
    t.find? x = some i ↔ ∃ u, t.get? i = some u ∧ u.toTokenIdentity = x := by
  constructor
  · exact find?_eq_some
  · rintro ⟨u, named, rfl⟩
    cases found : t.find? u.toTokenIdentity with
    | none => exact absurd rfl (find?_eq_none found u (mem_of_get? named))
    | some j =>
      obtain ⟨v, named', same⟩ := find?_eq_some found
      rw [h.eq_of_get? named named' same.symm]

end TokenTable

/-! ## An index beside the table -/

/-- A table, and an index of the numbers that its identities have. -/
structure IndexedTable where
  table : TokenTable := {}
  index : List (TokenIdentity × TokenId) := []

namespace IndexedTable

variable {ks : TokenKinds} {s s' : IndexedTable} {x : TokenIdentity} {e : Problem}

/-- The number of an identity, looked up in the index.  If it is new, it is added to the table and
to the index. -/
def intern (ks : TokenKinds) (x : TokenIdentity) : EStateM Problem IndexedTable TokenId := fun s =>
  match s.index.lookup x with
  | some i => .ok i s
  | none =>
    match ks.wording x with
    | .ok text =>
      .ok ⟨s.table.size⟩ ⟨s.table.push { x with text }, (x, ⟨s.table.size⟩) :: s.index⟩
    | .error fault => .error (.internal fault) s

/-- The table and its index after requests, one after the other. -/
def serve (ks : TokenKinds) (s : IndexedTable) : List TokenRequest → IndexedTable
  | [] => s
  | r :: rs => serve ks (stateAfter (intern ks r.identity) s) rs

/-- What is left of an answer without the index. -/
def answer : EStateM.Result Problem IndexedTable TokenId → EStateM.Result Problem TokenTable TokenId
  | .ok i s => .ok i s.table
  | .error e s => .error e s.table

/-- An index in step with its table: what is looked up in it is what a search of the table finds. -/
def InStep (s : IndexedTable) : Prop := ∀ x, s.index.lookup x = s.table.find? x

theorem inStep_empty : InStep {} := fun x => by simp [TokenTable.find?]

/-- A new token at the end of the table comes first in the index. -/
theorem InStep.push (h : s.InStep) (new : s.table.find? x = none) (text : String) :
    InStep ⟨s.table.push { x with text }, (x, ⟨s.table.size⟩) :: s.index⟩ := by
  intro y
  rw [TokenTable.find?_push, List.lookup_cons, h y]
  by_cases same : y = x
  · subst same
    simp [new]
  · simp [beq_false_of_ne same, Ne.symm same]

/-- **Interning by an index in step** is interning by a search of the table. -/
theorem InStep.answer_intern (h : s.InStep) (ks : TokenKinds) (x : TokenIdentity) :
    answer (intern ks x s) = TokenTable.intern ks x s.table := by
  rw [intern, TokenTable.intern, h x]
  cases s.table.find? x with
  | some i => rfl
  | none => cases ks.wording x <;> rfl

/-- **Interning keeps the index in step**, also when it fails. -/
theorem InStep.intern (h : s.InStep) (ks : TokenKinds) (x : TokenIdentity) :
    (stateAfter (intern ks x) s).InStep := by
  rw [stateAfter, IndexedTable.intern]
  cases found : s.index.lookup x with
  | some i => exact h
  | none =>
    cases ks.wording x with
    | ok text => exact h.push ((h x).symm.trans found) text
    | error fault => exact h

theorem eq_of_intern_error (run : intern ks x s = .error e s') : s' = s := by
  unfold intern at run
  split at run
  · cases run
  · split at run
    · cases run
    · cases run
      rfl

theorem table_stateAfter (h : s.InStep) :
    (stateAfter (intern ks x) s).table = stateAfter (TokenTable.intern ks x) s.table := by
  rw [stateAfter, stateAfter, ← h.answer_intern]
  cases intern ks x s <;> rfl

/-- Whatever is asked for, the index stays in step, and the table is the one without an index. -/
theorem InStep.serve (h : s.InStep) (ks : TokenKinds) (rs : List TokenRequest) :
    (serve ks s rs).InStep ∧ (serve ks s rs).table = TokenTable.serve ks s.table rs := by
  induction rs generalizing s with
  | nil => exact ⟨h, rfl⟩
  | cons r rs ih =>
    obtain ⟨step, table⟩ := ih (h.intern ks r.identity)
    exact ⟨step, by rw [IndexedTable.serve, table, table_stateAfter h, TokenTable.serve]⟩

end IndexedTable

namespace TokenTable

/-- **A table numbers tokens once and for good.**  The numbers given are 0, 1, 2, …, each for the
first time in its place.  After any requests, a further one is granted just if its kind has a
literal or it comes with a text, not both; one that is refused leaves the table as it was, and one
that is granted has a number that names the kind, the text of its own and what is written for it
from then on, and that is given again to the same kind with the same text only.  An index beside the
table finds for an identity the number that names it. -/
theorem numbering_of_requests (ks : TokenKinds) (rs : List TokenRequest) :
    (numbers ks {} rs).eraseDups = (serve ks {} rs).ids ∧
    (∀ r : TokenRequest,
      ((∃ i t', intern ks r.identity (serve ks {} rs) = .ok i t') ↔ r.Determined ks) ∧
      (∀ e t', intern ks r.identity (serve ks {} rs) = .error e t' → t' = serve ks {} rs) ∧
      ∀ i t', intern ks r.identity (serve ks {} rs) = .ok i t' → ∀ later : List TokenRequest,
        (∃ u, (serve ks t' later).get? i = some u ∧ u.toTokenIdentity = r.identity ∧
          (ks.literal? r.kind).or r.text = some u.text) ∧
        ∀ (r' : TokenRequest) j t'', intern ks r'.identity (serve ks t' later) = .ok j t'' →
          (i = j ↔ r.kind = r'.kind ∧ r.text.filter (· != "") = r'.text.filter (· != ""))) ∧
    (IndexedTable.serve ks {} rs).table = serve ks {} rs ∧
    ∀ x,
      IndexedTable.answer (IndexedTable.intern ks x (IndexedTable.serve ks {} rs)) =
        intern ks x (serve ks {} rs) ∧
      (∀ e s', IndexedTable.intern ks x (IndexedTable.serve ks {} rs) = .error e s' →
        s' = IndexedTable.serve ks {} rs) ∧
      ∀ i, (IndexedTable.serve ks {} rs).index.lookup x = some i ↔
        ∃ u, (serve ks {} rs).get? i = some u ∧ u.toTokenIdentity = x := by
  have faithful : (serve ks {} rs).Faithful ks := (faithful_empty ks).serve rs
  obtain ⟨step, table⟩ := IndexedTable.inStep_empty.serve ks rs
  refine ⟨eraseDups_numbers ks rs, fun r => ⟨faithful.granted_iff, ?_, ?_⟩, table,
    fun x => ⟨?_, ?_, ?_⟩⟩
  · exact fun e t' refused => eq_of_intern_error refused
  · exact fun i t' run later => ⟨faithful.number_of_intern run later,
      fun r' j t'' again => eq_iff_of_intern run again⟩
  · rw [step.answer_intern, table]
  · exact fun e s' refused => IndexedTable.eq_of_intern_error refused
  · intro i
    rw [step x, table, faithful.find?_eq_some_iff]

end TokenTable

namespace PlusSigns

open TokenTable

/-- Of the two plus signs, the word came first.  A plus of its own kind keeps the second number
through later requests, and has none with a text. -/
theorem numbering_of_requests_early :
    numbers kinds {} early = [⟨0⟩, ⟨1⟩, ⟨1⟩] ∧
    (numbers kinds {} early).eraseDups = (serve kinds {} early).ids ∧
    intern kinds (TokenRequest.identity ⟨plus, some ""⟩) (serve kinds {} early) =
      .ok ⟨1⟩ (serve kinds {} early) ∧
    (∃ u, (serve kinds (serve kinds {} early) late).get? ⟨1⟩ = some u ∧
      u.toTokenIdentity = ⟨plus, none⟩ ∧ some "+" = some u.text) ∧
    ¬ ∃ i t', intern kinds (TokenRequest.identity ⟨plus, some "+"⟩) (serve kinds {} early) =
      .ok i t' := by
  obtain ⟨order, request, -⟩ := numbering_of_requests kinds early
  have literal : kinds.literal? plus = some "+" := by decide +kernel
  have again : intern kinds (TokenRequest.identity ⟨plus, some ""⟩) (serve kinds {} early) =
      .ok ⟨1⟩ (serve kinds {} early) := intern_of_find? (by decide +kernel)
  refine ⟨by decide +kernel, order, again, ?_, ?_⟩
  · obtain ⟨u, named, identity, text⟩ := ((request _).2.2 _ _ again late).1
    exact ⟨u, named, identity, by simpa [literal] using text⟩
  · rw [(request ⟨plus, some "+"⟩).1]
    rintro (⟨-, textless⟩ | ⟨-, open'⟩)
    · exact textless ⟨"+", rfl, by decide⟩
    · exact open' (by rw [literal]; rfl)

end PlusSigns

end Unparsing
