import Mathlib.Data.List.Basic
import Mathlib.Tactic.SplitIfs
import Phrasebook.Number.Instances

/-! The order of texts by their bytes.

The code of a character is a leading byte, which grows with the number of bytes behind it,
and then six bits of the character in each of these. So the codes of two characters are
ordered as the characters, whatever follows them, and so are the bytes of two texts.
-/

set_option autoImplicit false

namespace Phrasebook.Text

def bytes (text : String) : List UInt8 := text.toUTF8.data.toList

theorem bytes_eq_flatMap (text : String) :
    bytes text = text.toList.flatMap String.utf8EncodeChar := by
  rw [bytes, String.toUTF8_eq_toByteArray, ← String.utf8Encode_toList, List.utf8Encode,
    List.toList_data_toByteArray]

/-- How many bytes follow the leading one in the code of a number. -/
def followers (number : Nat) : Nat :=
  if number ≤ 127 then 0 else if number ≤ 2047 then 1 else if number ≤ 65535 then 2 else 3

def leading (number : Nat) : Nat :=
  if number ≤ 127 then number
  else if number ≤ 2047 then number / 64 % 32 + 192
  else if number ≤ 65535 then number / 64 ^ 2 % 16 + 224
  else number / 64 ^ 3 % 8 + 240

/-- The last bytes of a code, each with six bits of the number. -/
def following : (count : Nat) → Nat → List UInt8
  | 0, _ => []
  | count + 1, number => UInt8.ofNat (number / 64 ^ count % 64 + 128) :: following count number

theorem utf8EncodeChar_eq (character : Char) :
    String.utf8EncodeChar character =
      UInt8.ofNat (leading character.toNat) ::
        following (followers character.toNat) character.toNat := by
  simp only [String.utf8EncodeChar, leading, followers, Char.toNat]
  split_ifs <;> simp [following]

theorem cons_append_lt_of_lt {first second : Nat} (less : first < second) (small : second < 256)
    (rest others : List UInt8) :
    UInt8.ofNat first :: rest < UInt8.ofNat second :: others := by
  rw [List.cons_lt_cons_iff, UInt8.lt_iff_toNat_lt, UInt8.toNat_ofNat_of_lt' (Nat.lt_trans less small),
    UInt8.toNat_ofNat_of_lt' small]
  exact .inl less

/-- Numbers that differ in the six bits of some following byte are told apart by the first
such byte. -/
theorem following_append_lt {count first second : Nat} (less : first < second)
    (same : first / 64 ^ count = second / 64 ^ count) (rest others : List UInt8) :
    following count first ++ rest < following count second ++ others := by
  induction count with
  | zero =>
    simp at same
    omega
  | succ count ih =>
    rw [Nat.pow_succ, ← Nat.div_div_eq_div_mul, ← Nat.div_div_eq_div_mul] at same
    have grows : first / 64 ^ count ≤ second / 64 ^ count := Nat.div_le_div_right (Nat.le_of_lt less)
    simp only [following, List.cons_append]
    by_cases equal : first / 64 ^ count = second / 64 ^ count
    · rw [equal]
      exact List.cons_lt_cons_iff.2 (.inr ⟨rfl, ih equal⟩)
    · exact cons_append_lt_of_lt (by omega) (by omega) _ _

theorem leading_lt_or {first second : Nat} (less : first < second) (bounded : second < 1114112) :
    leading first < leading second ∨
      leading first = leading second ∧ followers first = followers second ∧
        first / 64 ^ followers second = second / 64 ^ followers second := by
  unfold leading followers
  split_ifs <;> simp <;> omega

theorem leading_lt {number : Nat} (bounded : number < 1114112) : leading number < 256 := by
  unfold leading
  split_ifs <;> omega

theorem utf8EncodeChar_append_lt {first second : Char} (less : first < second)
    (rest others : List UInt8) :
    String.utf8EncodeChar first ++ rest < String.utf8EncodeChar second ++ others := by
  have below : first.toNat < second.toNat := less
  have bounded : second.toNat < 1114112 := 
    second.valid.elim (Nat.lt_trans · (by decide)) And.right
  rw [utf8EncodeChar_eq, utf8EncodeChar_eq, List.cons_append, List.cons_append]
  rcases leading_lt_or below bounded with lead | ⟨lead, count, same⟩
  · exact cons_append_lt_of_lt lead (leading_lt bounded) _ _
  · rw [lead, count]
    exact List.cons_lt_cons_iff.2 (.inr ⟨rfl, following_append_lt below same _ _⟩)

theorem flatMap_utf8EncodeChar_lt {first second : List Char} (less : first < second) :
    first.flatMap String.utf8EncodeChar < second.flatMap String.utf8EncodeChar := by
  induction less with
  | @nil character rest =>
    obtain ⟨byte, others, code⟩ :=
      List.exists_cons_of_ne_nil (String.utf8EncodeChar_ne_nil (c := character))
    rw [List.flatMap_cons, code]
    exact List.nil_lt_cons _ _
  | cons _ ih => exact List.append_left_lt ih
  | rel less => exact utf8EncodeChar_append_lt less _ _

/-- A smaller text has smaller bytes. -/
theorem bytes_lt_of_lt {first second : String} (less : first < second) :
    bytes first < bytes second := by
  rw [bytes_eq_flatMap, bytes_eq_flatMap]
  exact flatMap_utf8EncodeChar_lt (String.lt_iff.1 less)

end Phrasebook.Text
