import Phrasebook.Number.Text
import Phrasebook.Proofs.Number.IntegerText
import Phrasebook.Proofs.Number.Positional

/-! Displayed numbers read as decimals.

A positional numeral reads as the decimal that it was written for, with all of its digits in
the coefficient. A displayed number is such a numeral with a minus sign in front of it if the
number is negative, so it reads as the sign of the number and the decimal of its magnitude.
-/

set_option autoImplicit false

namespace Phrasebook

open Numeral

namespace Decimal

variable (decimal : Decimal)

/-- The same magnitude with every digit of its positional numeral in the coefficient. -/
def written : Decimal := ⟨decimal.shifted, -decimal.places⟩

@[simp] theorem places_written : decimal.written.places = decimal.places := by
  rw [written, places, Int.neg_neg, Int.toNat_natCast]

@[simp] theorem shifted_written : decimal.written.shifted = decimal.shifted := by
  simp [written, shifted]

theorem exists_positional_eq_cons :
    ∃ first rest, decimal.positional = first :: rest ∧ first.isDigit = true := by
  have isDigits := ofNat_isDigits decimal.whole
  obtain ⟨first, rest, shape⟩ := List.exists_cons_of_ne_nil isDigits.1
  rw [positional, shape, List.cons_append]
  rw [shape] at isDigits
  exact ⟨first, _, rfl, isDigits.2 first List.mem_cons_self⟩

end Decimal

namespace Numeric

theorem read_signed (negative : Bool) {first : Char} (digit : first.isDigit = true)
    (rest : List Char) :
    read (Binary64.signed negative (first :: rest)) =
      (readMagnitude (first :: rest)).map (.decimal negative) := by
  cases negative with
  | true => exact readUnsigned_of_isDigit true digit rest
  | false => exact (read_of_isDigit digit rest).trans (readUnsigned_of_isDigit false digit rest)

theorem readMagnitude_positional (decimal : Decimal) :
    readMagnitude decimal.positional = some decimal.written := by
  have nonempty := (ofNat_isDigits decimal.whole).1
  have front : decimal.positional.takeWhile Char.isDigit = ofNat decimal.whole :=
    decimal.wholeDigits_positional
  have behind : decimal.positional.dropWhile Char.isDigit =
      if decimal.places = 0 then [] else '.' :: padded decimal.places decimal.fraction :=
    Text.dropWhile_append (ofNat_isDigits decimal.whole).2 decimal.startsOutside_behind_whole
  have total := decimal.whole_fraction
  have less := decimal.fraction_lt
  simp only [readMagnitude, front, behind, Decimal.written, ← total]
  by_cases none : decimal.places = 0
  · rw [none, Nat.pow_zero, Nat.lt_one_iff] at less
    simp [none, nonempty, less]
  · have all := allDigits_padded decimal.places decimal.fraction
    have length := length_padded (Nat.pos_of_ne_zero none) less
    simp [none, nonempty, List.takeWhile_eq_self_iff.2 all, List.dropWhile_eq_nil_iff.2 all,
      value_append, value_padded, length]

end Numeric

namespace Binary64

/-- A displayed number reads as its sign and the decimal of its magnitude. -/
theorem numeric_read_display (negative : Bool) (ordinal : Fin BinaryFormat.double.limit) :
    Numeric.read (finite negative ordinal).display.toList =
      some (.decimal negative (displayed ordinal).written) := by
  obtain ⟨first, rest, shape, digit⟩ := (displayed ordinal).exists_positional_eq_cons
  have shown : (finite negative ordinal).display.toList =
      signed negative (displayed ordinal).positional := String.toList_ofList
  have magnitude := Numeric.readMagnitude_positional (displayed ordinal)
  rw [shape] at shown magnitude
  rw [shown, Numeric.read_signed negative digit, magnitude, Option.map_some]

end Binary64

end Phrasebook
