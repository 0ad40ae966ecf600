import Phrasebook.Number.Reading
import Phrasebook.Proofs.Number.Display
import Phrasebook.Proofs.Number.Positional
import Phrasebook.Registry

/-! The digits that decide the plural category of a number.

The category of a number is that of the digits it is displayed with. All digits before the
point count: the conditions look at the last digits of the whole part, or tell it from small
numbers, and the operands keep enough of it for both. Behind the point eighteen digits count.
-/

set_option autoImplicit false

namespace Phrasebook

open Numeral

namespace Operands

def ofDigits (whole fraction : List Char) : Operands :=
  let trimmed := fraction.rdropWhile (· == '0')
  ⟨value whole, fraction.length, trimmed.length, value fraction, value trimmed⟩

/-- The operands of a numeral by all of its digits. -/
def ofText (text : List Char) : Operands := ofDigits (wholeDigits text) (fractionDigits text)

theorem trimZeros_eq {digits : List Char} (all : AllDigits digits) :
    trimZeros digits.length (value digits) =
      ((digits.rdropWhile (· == '0')).length, value (digits.rdropWhile (· == '0'))) := by
  induction digits using List.reverseRecOn with
  | nil => rfl
  | append_singleton earlier last ih =>
    have before := ih fun character member => all character (List.mem_append_left _ member)
    obtain ⟨small, digit⟩ := digitChar_of_isDigit (all last (by simp))
    rw [List.length_append, List.length_singleton, trimZeros, value_append_singleton]
    by_cases zero : last = '0'
    · subst zero
      rw [List.rdropWhile_concat_pos _ _ _ (by decide), ← before, Nat.sub_self, Nat.add_zero,
        Nat.mul_mod_right, if_pos rfl, Nat.mul_div_cancel_left _ (by decide)]
    · have positive : last.toNat - '0'.toNat ≠ 0 := by
        intro none
        rw [none] at digit
        exact zero digit.symm
      rw [List.rdropWhile_concat_neg _ _ _ (by simpa using zero), if_neg (by omega),
        List.length_append, List.length_singleton, value_append_singleton]

/-- Operands whose whole part is cut to the digits that an operand holds. -/
def limited (operands : Operands) : Operands := { operands with i := limitWhole operands.i }

theorem ofDecimal_eq (decimal : Decimal) :
    ofDecimal decimal =
      limited (ofDigits (wholeDigits decimal.positional)
        ((fractionDigits decimal.positional).take digitLimit)) := by
  have all : AllDigits ((fractionDigits decimal.positional).take digitLimit) :=
    fun character member => decimal.allDigits_fractionDigits character (List.mem_of_mem_take member)
  have length : ((fractionDigits decimal.positional).take digitLimit).length =
      min decimal.places digitLimit := by
    rw [List.length_take, decimal.length_fractionDigits, Nat.min_comm]
  have front : value ((fractionDigits decimal.positional).take digitLimit) =
      decimal.fraction / 10 ^ (decimal.places - digitLimit) := by
    rw [value_take decimal.allDigits_fractionDigits, decimal.value_fractionDigits,
      decimal.length_fractionDigits]
  have trimmed := trimZeros_eq all
  rw [length, front] at trimmed
  rw [ofDecimal, trimmed]
  simp only [limited, ofDigits, length, front, decimal.wholeDigits_positional, value_ofNat]

theorem ofDecimal_of_whole {decimal : Decimal} (places : decimal.places = 0)
    (small : decimal.shifted < 10 ^ digitLimit) : ofDecimal decimal = ofNat decimal.shifted := by
  have whole : decimal.whole = decimal.shifted := by simp [Decimal.whole, places]
  have fraction : decimal.fraction = 0 := by simp [Decimal.fraction, places, Nat.mod_one]
  simp [ofDecimal, ofNat, places, whole, fraction, limitWhole, small, trimZeros]

/-- The operands of every finite number are those of the decimal that is displayed for it. -/
theorem ofNumber?_finite (negative : Bool) (ordinal : Fin BinaryFormat.double.limit) :
    ofNumber? (.finite negative ordinal) = some (ofDecimal (Binary64.displayed ordinal)) := by
  simp only [ofNumber?]
  split
  · next whole found =>
    obtain ⟨same, finite, value⟩ := Binary64.whole?_eq_some_iff.1 found
    obtain ⟨-, rfl⟩ := Binary64.finite.inj finite
    split
    · next small =>
      obtain ⟨places, shifted⟩ := Binary64.decimal_of_whole .greater small value
      have fits : whole.magnitude < 10 ^ digitLimit := Nat.lt_trans small (by decide)
      rw [← shifted] at fits ⊢
      rw [Binary64.displayed, ofDecimal_of_whole places fits]
    · rfl
  · rfl

theorem limitWhole_mod {modulus : Nat} (divides : modulus ∣ 10 ^ digitLimit) (whole : Nat) :
    limitWhole whole % modulus = whole % modulus := by
  rw [limitWhole]
  split
  · rfl
  · rw [Nat.add_mod, Nat.mod_eq_zero_of_dvd divides, Nat.zero_add, Nat.mod_mod,
      Nat.mod_mod_of_dvd _ divides]

theorem contains_limitWhole {range : Range} (low : range.last < 10 ^ digitLimit) (whole : Nat) :
    range.contains (limitWhole whole) = range.contains whole := by
  rw [limitWhole]
  split
  · rfl
  · next long =>
    have beyond {number : Nat} (long : 10 ^ digitLimit ≤ number) :
        range.contains number = false := by
      simp only [Range.contains, Bool.and_eq_false_iff, decide_eq_false_iff_not]
      omega
    rw [beyond (Nat.le_add_right _ _), beyond (Nat.le_of_not_lt long)]

/-- Cutting the whole part changes an operand to its own last digits, or not at all. -/
theorem value?_limited (operands : Operands) (operand : Operand) :
    operands.limited.value? operand = operands.value? operand ∨
      ∃ whole, operands.value? operand = some whole ∧
        operands.limited.value? operand = some (limitWhole whole) := by
  cases operand with
  | n =>
    by_cases integral : operands.w = 0
    · exact .inr ⟨operands.i, by simp [value?, integral], by simp [value?, limited, integral]⟩
    · exact .inl (by simp [value?, limited, integral])
  | i => exact .inr ⟨operands.i, rfl, rfl⟩
  | v => exact .inl rfl
  | w => exact .inl rfl
  | f => exact .inl rfl
  | t => exact .inl rfl
  | e => exact .inl rfl

end Operands

open Operands

/-- A relation that looks only at last digits, or only for small numbers. -/
structure Relation.IsShort (relation : Relation) : Prop where
  divides : ∀ modulus ∈ relation.term.modulus, modulus ∣ 10 ^ digitLimit
  low : ∀ range ∈ relation.ranges, range.last < 10 ^ digitLimit

instance : DecidablePred Relation.IsShort := fun relation =>
  decidable_of_iff ((∀ modulus ∈ relation.term.modulus, modulus ∣ 10 ^ digitLimit) ∧
      ∀ range ∈ relation.ranges, range.last < 10 ^ digitLimit)
    ⟨fun ⟨divides, low⟩ => ⟨divides, low⟩, fun ⟨divides, low⟩ => ⟨divides, low⟩⟩

theorem Relation.IsShort.holds_limited {relation : Relation} (short : relation.IsShort)
    (operands : Operands) : relation.holds operands.limited = relation.holds operands := by
  obtain ⟨⟨operand, modulus⟩, inside, ranges⟩ := relation
  rcases operands.value?_limited operand with same | ⟨whole, found, limited⟩
  · simp only [holds, Term.value?, same]
  cases modulus with
  | none =>
    have within : ranges.any (·.contains (limitWhole whole)) = ranges.any (·.contains whole) := by
      rw [Bool.eq_iff_iff, List.any_eq_true, List.any_eq_true]
      exact exists_congr fun range => and_congr_right fun member => by
        rw [contains_limitWhole (short.low range member)]
    simp only [holds, Term.value?, found, limited, within]
  | some modulus =>
    simp only [holds, Term.value?, found, limited, Option.map_some,
      limitWhole_mod (short.divides modulus rfl) whole]

namespace Cardinal

theorem classify_congr {conditions : List (Category × Condition)} {first second : Operands}
    (same : ∀ listed ∈ conditions, listed.2.holds first = listed.2.holds second) :
    classify conditions first = classify conditions second := by
  induction conditions with
  | nil => rfl
  | cons listed rest ih =>
    rw [List.forall_mem_cons] at same
    rw [classify_cons, classify_cons, same.1, ih same.2]

theorem isShort_of_mem_conditions {locale : Locale} {listed : Category × Condition}
    (member : listed ∈ conditions locale) :
    ∀ alternative ∈ listed.2, ∀ relation ∈ alternative, relation.IsShort := by
  have short : ∀ rules ∈ table, ∀ listed ∈ rules.conditions, ∀ alternative ∈ listed.2,
      ∀ relation ∈ alternative, relation.IsShort := by
    decide
  unfold conditions at member
  split at member
  · next rules found => exact short rules (List.mem_of_find?_eq_some found) listed member
  · cases member

theorem classify_limited (locale : Locale) (operands : Operands) :
    classify (conditions locale) operands.limited = classify (conditions locale) operands := by
  apply classify_congr
  intro listed member
  have short := isShort_of_mem_conditions member
  rw [Bool.eq_iff_iff, Condition.holds_iff, Condition.holds_iff]
  exact exists_congr fun alternative => and_congr_right fun inside =>
    forall₂_congr fun relation member => by
      rw [(short alternative inside relation member).holds_limited]

end Cardinal

namespace Rule

theorem ofDigits_take_eq_ofText_iff {text : List Char} :
    Operands.ofDigits (wholeDigits text) ((fractionDigits text).take digitLimit) =
        Operands.ofText text ↔ (fractionDigits text).length ≤ digitLimit := by
  constructor
  · intro same
    have visible := congrArg Operands.v same
    simp only [ofText, ofDigits, List.length_take] at visible
    omega
  · intro few
    rw [List.take_of_length_le few, ofText]

/-- The category of a finite number is that of the digits it is displayed with: of all digits
before the point, and of the first eighteen behind it. These are all its digits just when
there are no more than eighteen behind the point. -/
theorem category_displayed (locale : Locale) (negative : Bool)
    (ordinal : Fin BinaryFormat.double.limit) :
    let text := (Binary64.finite false ordinal).display.toList
    let seen := Operands.ofDigits (wholeDigits text) ((fractionDigits text).take digitLimit)
    (cardinal locale).category (.finite negative ordinal) =
        Cardinal.classify (Cardinal.conditions locale) seen ∧
      (seen = Operands.ofText text ↔ (fractionDigits text).length ≤ digitLimit) := by
  intro text seen
  have shown : text = (Binary64.displayed ordinal).positional := String.toList_ofList
  refine ⟨?_, ofDigits_take_eq_ofText_iff⟩
  simp only [cardinal, ofNumber?_finite, ofDecimal_eq, Cardinal.classify_limited, seen, shown]

def latvian : Locale := ⟨⟨"lv".toList, none, none, []⟩, .none⟩

theorem nineteenthPlace_unseen :
    ∃ number, Binary64.read "1e-19".toList = some number ∧
      number.display = "0.0000000000000000001" ∧
      Locale.ofTag "lv" = .ok latvian ∧ (cardinal latvian).category number = .zero ∧
      Cardinal.classify (Cardinal.conditions latvian) (Operands.ofText number.display.toList) =
        .one := by
  refine ⟨.ofQuotient false 1 (10 ^ 19), by decide +kernel, ?_, rfl, by decide +kernel, ?_⟩
  · decide +kernel
  · decide +kernel

end Rule

end Phrasebook
