import Mathlib.Data.List.DropRight
import Mathlib.Tactic.Ring
import Phrasebook.Number.Decimal
import Phrasebook.Proofs.Number.Respelling
import Phrasebook.Proofs.Text.Span

/-! The digits of positional numerals.

The digits before the point are the numeral of the whole part. Those behind it are as many as
the places of the decimal, and their value is the fraction. A number of leading digits has the
value of all digits divided by a power of ten.
-/

set_option autoImplicit false

namespace Phrasebook

namespace Numeral

def wholeDigits (text : List Char) : List Char := text.takeWhile Char.isDigit

def fractionDigits (text : List Char) : List Char := (text.dropWhile Char.isDigit).drop 1

def AllDigits (digits : List Char) : Prop := ∀ character ∈ digits, character.isDigit = true

theorem value_append (first second : List Char) :
    value (first ++ second) = 10 ^ second.length * value first + value second := by
  rw [value, Nat.ofDigitChars_append, Nat.ofDigitChars_eq_ofDigitChars_zero]
  rfl

theorem value_lt {digits : List Char} (all : AllDigits digits) :
    value digits < 10 ^ digits.length := by
  induction digits using List.reverseRecOn with
  | nil => decide
  | append_singleton earlier last ih =>
    have before := ih fun character member => all character (List.mem_append_left _ member)
    have small := (digitChar_of_isDigit (all last (by simp))).1
    rw [value_append_singleton, List.length_append, List.length_singleton, Nat.pow_succ]
    omega

/-- The leading digits of a numeral are its number without as many digits as are left off. -/
theorem value_take {digits : List Char} (all : AllDigits digits) (count : Nat) :
    value (digits.take count) = value digits / 10 ^ (digits.length - count) := by
  have behind : value (digits.drop count) < 10 ^ (digits.length - count) := by
    rw [← List.length_drop]
    exact value_lt fun character member => all character (List.mem_of_mem_drop member)
  have whole := value_append (digits.take count) (digits.drop count)
  rw [List.take_append_drop, List.length_drop] at whole
  rw [whole, Nat.mul_add_div (Nat.pow_pos (by decide)), Nat.div_eq_of_lt behind, Nat.add_zero]

section Padded

variable (width number : Nat)

theorem allDigits_padded : AllDigits (padded width number) := by
  intro character member
  rcases List.mem_append.1 member with zero | digit
  · rw [List.eq_of_mem_replicate zero]
    rfl
  · exact (ofNat_isDigits number).2 character digit

theorem value_padded : value (padded width number) = number := by
  rw [padded, value_append, value, Nat.ofDigitChars_replicate_zero, Nat.mul_zero, Nat.mul_zero,
    Nat.zero_add]
  exact value_ofNat number

variable {width number}

theorem length_padded (positive : 0 < width) (fits : number < 10 ^ width) :
    (padded width number).length = width := by
  have short : (ofNat number).length ≤ width :=
    (Nat.length_toDigits_le_iff (by decide) positive).2 fits
  rw [padded, List.length_append, List.length_replicate]
  omega

end Padded

end Numeral

namespace Decimal

open Numeral

variable (decimal : Decimal)

theorem startsOutside_behind_whole :
    Text.StartsOutside Char.isDigit
      (if decimal.places = 0 then []
        else '.' :: padded decimal.places decimal.fraction) := by
  split
  · simp [Text.StartsOutside]
  · exact Text.startsOutside_cons (by decide) _

theorem wholeDigits_positional : wholeDigits decimal.positional = ofNat decimal.whole :=
  Text.takeWhile_append (ofNat_isDigits decimal.whole).2 decimal.startsOutside_behind_whole

theorem fractionDigits_positional :
    fractionDigits decimal.positional =
      if decimal.places = 0 then [] else padded decimal.places decimal.fraction := by
  rw [fractionDigits, positional,
    Text.dropWhile_append (ofNat_isDigits decimal.whole).2 decimal.startsOutside_behind_whole]
  split <;> rfl

theorem allDigits_fractionDigits : AllDigits (fractionDigits decimal.positional) := by
  rw [fractionDigits_positional]
  split
  · exact List.forall_mem_nil _
  · exact allDigits_padded _ _

theorem length_fractionDigits : (fractionDigits decimal.positional).length = decimal.places := by
  rw [fractionDigits_positional]
  split
  · next none => rw [none, List.length_nil]
  · next some => exact length_padded (Nat.pos_of_ne_zero some) decimal.fraction_lt

theorem value_fractionDigits : value (fractionDigits decimal.positional) = decimal.fraction := by
  rw [fractionDigits_positional]
  split
  · next none =>
    have less := decimal.fraction_lt
    rw [none, Nat.pow_zero, Nat.lt_one_iff] at less
    rw [less]
    rfl
  · exact value_padded _ _

end Decimal

end Phrasebook
