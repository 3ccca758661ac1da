import Mathlib.Data.Char
import Mathlib.Data.String.Basic

/-!
Texts are ordered as their bytes are: the order of characters is that of their encodings, of which none
starts another.
-/

namespace InterfaceMocks.Text

def bytes (text : String) : List UInt8 := text.toUTF8.data.toList

theorem bytes_eq (text : String) : bytes text = text.toList.flatMap String.utf8EncodeChar := by
  conv_lhs => rw [← String.ofList_toList (s := text)]
  rw [bytes, String.toUTF8_eq_toByteArray, String.toByteArray_ofList, List.utf8Encode,
    List.data_toByteArray]

theorem encode_lt {c d : Char} (less : c < d) (cs ds : List UInt8) :
    String.utf8EncodeChar c ++ cs < String.utf8EncodeChar d ++ ds := by
  have below : c.val.toNat < d.val.toNat := less
  have most : d.val.toNat < 0x110000 := by
    rcases d.valid with low | high
    · exact low.trans (by decide)
    · exact high.2
  have digits (n : Nat) : n / 64 / 64 = n / 4096 ∧ n / 4096 / 64 = n / 262144 := by
    simp [Nat.div_div_eq_div_mul]
  have lower := digits c.val.toNat
  have upper := digits d.val.toNat
  simp only [String.utf8EncodeChar]
  -- the first byte tells how many there are, and more of them mean a later character
  split_ifs <;>
    simp only [List.cons_append, List.cons_lt_cons_iff, UInt8.lt_iff_toNat_lt, ← UInt8.toNat_inj,
      UInt8.toNat_ofNat'] <;>
    simp (disch := omega) only [Nat.mod_eq_of_lt] <;>
    omega

theorem encode_ne_nil (c : Char) : String.utf8EncodeChar c ≠ [] := by
  simp only [String.utf8EncodeChar]
  split_ifs <;> simp

theorem bytes_lt_of_lt {first second : String} (less : first < second) :
    bytes first < bytes second := by
  rw [bytes_eq, bytes_eq]
  have chars : first.toList < second.toList := String.lt_iff_toList_lt.1 less
  generalize first.toList = cs at chars
  generalize second.toList = ds at chars
  induction cs generalizing ds with
  | nil =>
      cases ds with
      | nil => exact absurd chars (by simp)
      | cons d ds =>
          obtain ⟨byte, more, first⟩ := List.exists_cons_of_ne_nil (encode_ne_nil d)
          rw [List.flatMap_nil, List.flatMap_cons, first, List.cons_append]
          exact List.nil_lt_cons byte _
  | cons c cs ih =>
      cases ds with
      | nil => exact absurd chars (by simp)
      | cons d ds =>
          rw [List.flatMap_cons, List.flatMap_cons]
          rcases List.cons_lt_cons_iff.1 chars with less | ⟨rfl, rest⟩
          · exact encode_lt less _ _
          · exact List.append_left_lt (ih ds rest)

/-- The order of texts is the order of their bytes. -/
theorem bytes_lt_iff {first second : String} : bytes first < bytes second ↔ first < second := by
  constructor
  · intro less
    rcases lt_trichotomy first second with before | rfl | after
    · exact before
    · exact absurd less (List.lt_irrefl _)
    · exact absurd (List.lt_trans less (bytes_lt_of_lt after)) (List.lt_irrefl _)
  · exact bytes_lt_of_lt

end InterfaceMocks.Text
