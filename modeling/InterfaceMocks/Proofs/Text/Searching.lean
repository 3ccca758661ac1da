import InterfaceMocks.Proofs.Text.Replacement
import Mathlib.Data.String.Basic

/-!
The search for a placeholder always succeeds. It ends at the first candidate that does not occur in
the source, after at most one candidate more than the source has characters, and so before the numbers
of 32 bits run out. In a source of moderate size it ends before a number has more than five digits, and
the placeholder is as wide as the text it stands for.
-/

namespace InterfaceMocks.Placeholder

open InterfaceMocks.Text

/-! Widths. -/

theorem length_le_utf8ByteSize (text : String) : text.length ≤ text.utf8ByteSize := by
  rw [← String.length_toList, ← String.ofList_toList (s := text), String.utf8ByteSize_ofList,
    String.toList_ofList]
  induction text.toList with
  | nil => simp
  | cons c rest ih =>
      have := c.utf8Size_pos
      rw [String.utf8Len_cons, List.length_cons]
      omega

theorem length_fiveDigits {n : Nat} (small : n < 100000) : (fiveDigits n).length = 5 := by
  have digits : (Nat.toDigits 10 n).length ≤ 5 :=
    (Nat.length_toDigits_le_iff (by decide) (by decide)).2 small
  rw [fiveDigits, String.length_ofList, List.length_append, List.length_replicate]
  omega

/-- Candidates whose number has at most five digits are as wide as the text they stand for. -/
theorem length_candidate {n : Nat} (small : n ≤ 100000) :
    (candidate n).length = TypeExpr.unrecognisedText.length := by
  cases n with
  | zero => decide
  | succ n =>
      rw [candidate, numbered, String.length_append, String.length_append,
        length_fiveDigits (by omega)]
      decide

theorem utf8Size_of_isPlain {c : Char} (plain : isPlain c) : c.utf8Size = 1 := by
  have small := UInt32.lt_iff_toNat_lt.1 (isPlain_small plain)
  rw [Char.utf8Size_eq_one_iff, UInt32.le_iff_toNat_le]
  exact Nat.le_of_lt_succ small

/-- A candidate has as many bytes as characters. -/
theorem utf8ByteSize_candidate (n : Nat) : (candidate n).utf8ByteSize = (candidate n).length := by
  have each (c : Char) (member : c ∈ (candidate n).toList) : c.utf8Size = 1 :=
    utf8Size_of_isPlain (candidate_plain member)
  rw [← String.length_toList, ← String.ofList_toList (s := candidate n),
    String.utf8ByteSize_ofList, String.toList_ofList]
  revert each
  induction (candidate n).toList with
  | nil => simp
  | cons c rest ih =>
      intro each
      have later := ih fun d member => each d (List.mem_cons_of_mem _ member)
      rw [String.utf8Len_cons, List.length_cons, each c List.mem_cons_self, later]

/-- The numbers of candidates that the source has no place for are never reached. -/
theorem candidate_number {n limit : Nat} (small : n ≤ limit) :
    candidate n = preferred ∨ ∃ k < limit, candidate n = numbered k := by
  cases n with
  | zero => exact .inl rfl
  | succ n => exact .inr ⟨n, by omega, rfl⟩

/-- However many candidates there are to look at, the search ends at the first that does not occur in
the source, which is among the first `source.length + 1` and has a number of 32 bits. It is an
identifier, and as wide as the text it stands for where the source is not very long. -/
theorem search_succeeds (source : String) (short : source.utf8ByteSize < 2 ^ 32) :
    ∃ n ≤ source.length,
      (∀ m < n, contains source (candidate m) = true)
        ∧ contains source (candidate n) = false
        ∧ (∀ count, n < count → search source 0 count = some (candidate n))
        ∧ (candidate n = preferred ∨ ∃ k < 2 ^ 32, candidate n = numbered k)
        ∧ choose source = candidate n
        ∧ Identifier.isIdentifier (choose source) = true
        ∧ (source.utf8ByteSize ≤ 100000 →
          (choose source).length = TypeExpr.unrecognisedText.length
            ∧ (choose source).utf8ByteSize = TypeExpr.unrecognisedText.utf8ByteSize) := by
  obtain ⟨n, small, free, occur⟩ := first_free source
  have bytes := length_le_utf8ByteSize source
  have found (count : Nat) (enough : n < count) : search source 0 count = some (candidate n) :=
    search_eq_some (fun m _ less => occur m less) free (Nat.zero_le n) (by omega)
  have chosen : choose source = candidate n := by
    simp [choose, found (source.length + 1) (by omega)]
  refine ⟨n, small, occur, free, found, candidate_number (by omega), chosen, ?_, fun moderate => ?_⟩
  · rw [chosen]
    exact candidate_isIdentifier n
  · have width := length_candidate (n := n) (by omega)
    rw [chosen, utf8ByteSize_candidate, width]
    exact ⟨rfl, by decide⟩

/-- A source that has the usual placeholder in it, so that the search goes on to the first number. -/
theorem search_succeeds_taken :
    ∃ n ≤ "type _unrecognised_ int".length,
      (∀ m < n, contains "type _unrecognised_ int" (candidate m) = true)
        ∧ contains "type _unrecognised_ int" (candidate n) = false
        ∧ choose "type _unrecognised_ int" = candidate n
        ∧ candidate n = "_unrecog00000_" := by
  obtain ⟨n, small, occur, free, -, -, chosen, -⟩ :=
    search_succeeds "type _unrecognised_ int" (by decide)
  exact ⟨n, small, occur, free, chosen, chosen ▸ by decide⟩

end InterfaceMocks.Placeholder
