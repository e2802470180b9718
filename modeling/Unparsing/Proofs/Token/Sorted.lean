import Unparsing.Proofs.Token.Table

/-!
# Proofs/Token/Sorted — the listing of a table tells its tokens, not their numbers

The order of what is written is total, and tokens that are level in it are the same
(`TokenUnparser.le_antisymm`).  So sorted tokens stand in the only order they can, and two tables
of the same tokens have the same listing (`TokenTable.listing_eq`).
-/

namespace Unparsing

open Std

namespace TokenUnparser

variable {a b c : TokenUnparser}

/-- The order of what is written, as a comparison. -/
abbrev order : TokenUnparser → TokenUnparser → Ordering :=
  compareLex (compareOn fun u : TokenUnparser => u.text)
    (compareLex (compareOn fun u => u.kind.raw) (compareOn fun u => u.matchText))

theorem le_trans (hab : a.le b = true) (hbc : b.le c = true) : a.le c = true :=
  (TransCmp.isLE_trans : (order a b).isLE → (order b c).isLE → (order a c).isLE) hab hbc

theorem le_total (a b : TokenUnparser) : (a.le b || b.le a) = true := by
  have swap : order b a = (order a b).swap := OrientedCmp.eq_swap
  have left : a.le b = (order a b).isLE := rfl
  have right : b.le a = (order b a).isLE := rfl
  rw [left, right, swap]
  cases order a b <;> rfl

/-- Tokens that are level in the order of what is written are the same. -/
theorem le_antisymm (hab : a.le b = true) (hba : b.le a = true) : a = b := by
  have level : order a b = .eq := OrientedCmp.isLE_antisymm hab hba
  rw [order, compareLex_eq_eq, compareLex_eq_eq] at level
  obtain ⟨text, kind, matchText⟩ := level
  obtain ⟨⟨⟨i⟩, m⟩, w⟩ := a
  obtain ⟨⟨⟨j⟩, m'⟩, w'⟩ := b
  obtain rfl : w = w' := LawfulEqOrd.eq_of_compare text
  obtain rfl : i = j := LawfulEqOrd.eq_of_compare kind
  obtain rfl : m = m' := LawfulEqOrd.eq_of_compare matchText
  rfl

theorem pairwise_mergeSort (us : List TokenUnparser) :
    (us.mergeSort le).Pairwise fun a b => a.le b = true :=
  @List.pairwise_mergeSort _ le (fun _ _ _ => le_trans) le_total us

end TokenUnparser

namespace TokenTable

variable {ks : TokenKinds} {t t' : TokenTable}

/-- The order of the sorted table on what the numbers name. -/
def leOption : Option TokenUnparser → Option TokenUnparser → Bool
  | some a, some b => a.le b
  | _, _ => true

theorem map_get?_ids (t : TokenTable) : t.ids.map t.get? = t.tokens.toList.map some := by
  refine List.ext_getElem (by simp [ids, size]) fun i hi hi' => ?_
  simp [ids, Index.upTo, get?]

/-- The sorted numbers name the tokens in their order. -/
theorem map_get?_sorted (t : TokenTable) :
    t.sorted.map t.get? = (t.tokens.toList.mergeSort TokenUnparser.le).map some := by
  have numbers : t.sorted.map t.get? = (t.ids.map t.get?).mergeSort leOption :=
    List.map_mergeSort fun _ _ _ _ => rfl
  have tokens : (t.tokens.toList.mergeSort TokenUnparser.le).map some =
      (t.tokens.toList.map some).mergeSort leOption :=
    List.map_mergeSort fun _ _ _ _ => rfl
  rw [numbers, map_get?_ids, tokens]

theorem listing_eq_join (t : TokenTable) :
    t.listing =
      String.join ((t.tokens.toList.mergeSort TokenUnparser.le).map fun u => u.text ++ "\n") := by
  have words : t.sorted.map (fun id => t.text id ++ "\n") =
      (t.sorted.map t.get?).map fun u => (u.map (·.text)).getD "" ++ "\n" := by
    rw [List.map_map]
    rfl
  rw [listing, words, map_get?_sorted, List.map_map]
  rfl

/-- Tables of the same tokens are sorted alike. -/
theorem mergeSort_tokens_eq (h : t.Faithful ks) (h' : t'.Faithful ks)
    (same : ∀ u, u ∈ t.tokens.toList ↔ u ∈ t'.tokens.toList) :
    t.tokens.toList.mergeSort TokenUnparser.le = t'.tokens.toList.mergeSort TokenUnparser.le := by
  have perm : t.tokens.toList.Perm t'.tokens.toList :=
    (List.perm_ext_iff_of_nodup h.nodup.of_map h'.nodup.of_map).mpr same
  have order : (t.tokens.toList.mergeSort TokenUnparser.le).Perm
      (t'.tokens.toList.mergeSort TokenUnparser.le) :=
    (List.mergeSort_perm _ _).trans (perm.trans (List.mergeSort_perm _ _).symm)
  exact List.Perm.eq_of_pairwise (fun _ _ _ _ => TokenUnparser.le_antisymm)
    (TokenUnparser.pairwise_mergeSort _) (TokenUnparser.pairwise_mergeSort _) order

/-- **Tables of the same tokens have the same listing.** -/
theorem listing_eq (h : t.Faithful ks) (h' : t'.Faithful ks)
    (same : ∀ u, u ∈ t.tokens.toList ↔ u ∈ t'.tokens.toList) : t.listing = t'.listing := by
  rw [listing_eq_join, listing_eq_join, mergeSort_tokens_eq h h' same]

end TokenTable

end Unparsing
