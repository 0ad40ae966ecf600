import Phrasebook.Proofs.Number.ReadBack
import Phrasebook.Proofs.Plural.LastDigits
import Phrasebook.Proofs.Plural.VisibleDigits

/-! The operands of a number and its sign.

There are two ways to the operands of a number: through the integer that it converts to, and
through the text that it is displayed with. A whole number below `2 ^ 53` can go both ways and
gets the same operands. Both ways drop the sign, and so does the test which of them is taken.
So a number and its negation are in the same category, in every locale.
-/

set_option autoImplicit false

namespace Phrasebook

namespace Binary64

/-- A whole number that is represented exactly, as all whole numbers up to it are. -/
def IsExactWhole (number : Binary64) : Prop :=
  ∃ whole, number.whole? = some whole ∧ whole.magnitude < Operands.exactLimit

instance : DecidablePred IsExactWhole := fun number =>
  decidable_of_iff (number.whole?.any (·.magnitude < Operands.exactLimit) = true)
    (by simp [IsExactWhole, Option.any_eq_true])

/-- The part before the point as a 64-bit integer, or the last integer in its direction if it
lies outside their range. What is no number counts as zero. -/
def toInt64 : Binary64 → Int64
  | .nan => 0
  | .infinity negative => if negative then .minValue else .maxValue
  | .finite negative ordinal =>
    let magnitude : Int := (BinaryFormat.double.units ordinal / unitsPerOne : Nat)
    .ofIntClamp (if negative then -magnitude else magnitude)

theorem toInt_toInt64 {number : Binary64} {whole : Whole} (found : number.whole? = some whole)
    (small : whole.magnitude < Operands.exactLimit) :
    number.toInt64.toInt =
      if whole.negative then -(whole.magnitude : Int) else whole.magnitude := by
  obtain ⟨ordinal, rfl, value⟩ := whole?_eq_some_iff.1 found
  have least : Int64.minValue.toInt = -2 ^ 63 := by decide
  have greatest : Int64.maxValue.toInt = 2 ^ 63 - 1 := by decide
  have below : whole.magnitude < 2 ^ 53 := small
  simp only [toInt64, value, Nat.mul_div_cancel _ unitsPerOne_pos]
  apply Int64.toInt_ofIntClamp
  · rw [least]
    split <;> omega
  · rw [greatest]
    split <;> omega

theorem whole?_neg (number : Binary64) :
    number.neg.whole? = number.whole?.map fun whole => ⟨!whole.negative, whole.magnitude⟩ := by
  cases number with
  | nan => rfl
  | infinity negative => rfl
  | finite negative ordinal =>
    simp only [neg, whole?]
    split <;> rfl

theorem isExactWhole_neg (number : Binary64) : number.neg.IsExactWhole ↔ number.IsExactWhole := by
  simp [IsExactWhole, whole?_neg]

theorem isFinite_neg (number : Binary64) : number.neg.isFinite = number.isFinite := by
  cases number <;> rfl

end Binary64

namespace Operands

open Binary64

/-- The operands of an integer are those of its absolute value. -/
def ofInt64 (number : Int64) : Operands := ofNat number.toInt.natAbs

/-- The operands of a decimal numeral are those of the decimal behind its sign. -/
def read? (text : List Char) : Option Operands :=
  match Numeric.read text with
  | some (.decimal _ magnitude) => some (ofDecimal magnitude)
  | _ => none

/-- The operands of a finite number, through an integer if it is one exactly, and through its
text if it is not. -/
def taken? (number : Binary64) : Option Operands :=
  if number.isFinite = false then none
  else if number.IsExactWhole then some (ofInt64 number.toInt64)
  else read? number.display.toList

section Integer

variable {number : Binary64}

theorem ofInt64_toInt64 {whole : Whole} (found : number.whole? = some whole)
    (small : whole.magnitude < exactLimit) :
    ofInt64 number.toInt64 = ofNat whole.magnitude := by
  rw [ofInt64, toInt_toInt64 found small]
  split
  · rw [Int.natAbs_neg, Int.natAbs_natCast]
  · rw [Int.natAbs_natCast]

theorem ofInt64_toInt64_neg (exact : number.IsExactWhole) :
    ofInt64 number.neg.toInt64 = ofInt64 number.toInt64 := by
  obtain ⟨whole, found, small⟩ := exact
  have negated : number.neg.whole? = some ⟨!whole.negative, whole.magnitude⟩ := by
    rw [whole?_neg, found, Option.map_some]
  rw [ofInt64_toInt64 negated small, ofInt64_toInt64 found small]

-- Beyond the integers the sign would be seen: they reach one further below zero than above.
example : ofInt64 (infinity true).toInt64 ≠ ofInt64 (infinity false).toInt64 := by decide

end Integer

section Text

theorem ofDecimal_written (decimal : Decimal) : ofDecimal decimal.written = ofDecimal decimal := by
  simp only [ofDecimal, Decimal.whole, Decimal.fraction, Decimal.places_written,
    Decimal.shifted_written]

theorem read?_display (negative : Bool) (ordinal : Fin BinaryFormat.double.limit) :
    read? (finite negative ordinal).display.toList = some (ofDecimal (displayed ordinal)) := by
  simp only [read?, numeric_read_display, ofDecimal_written]

theorem read?_display_neg (number : Binary64) :
    read? number.neg.display.toList = read? number.display.toList := by
  cases number with
  | nan => rfl
  | infinity negative => cases negative <;> decide
  | finite negative ordinal => rw [neg, read?_display, read?_display]

theorem ofNumber?_eq_read? (number : Binary64) :
    ofNumber? number = read? number.display.toList := by
  cases number with
  | nan => decide
  | infinity negative => cases negative <;> decide
  | finite negative ordinal => rw [ofNumber?_finite, read?_display]

end Text

/-- The way through the integer is that through the text, on the numbers for which it is taken. -/
theorem read?_display_of_isExactWhole {number : Binary64} (exact : number.IsExactWhole) :
    read? number.display.toList = some (ofInt64 number.toInt64) := by
  obtain ⟨whole, found, small⟩ := exact
  rw [← ofNumber?_eq_read?, ofNumber?_of_whole? found small, ofInt64_toInt64 found small]

theorem ofNumber?_eq_taken? (number : Binary64) : ofNumber? number = taken? number := by
  unfold taken?
  split
  · next endless =>
    cases number with
    | nan => rfl
    | infinity negative => rfl
    | finite negative ordinal => cases endless
  · split
    · next exact => rw [ofNumber?_eq_read?, read?_display_of_isExactWhole exact]
    · exact ofNumber?_eq_read? number

theorem taken?_neg (number : Binary64) : taken? number.neg = taken? number := by
  unfold taken?
  rw [isFinite_neg, read?_display_neg]
  by_cases exact : number.IsExactWhole
  · rw [if_pos exact, if_pos ((isExactWhole_neg number).2 exact), ofInt64_toInt64_neg exact]
  · rw [if_neg exact, if_neg fun negated => exact ((isExactWhole_neg number).1 negated)]

theorem ofNumber?_neg (number : Binary64) : ofNumber? number.neg = ofNumber? number := by
  rw [ofNumber?_eq_taken?, ofNumber?_eq_taken?, taken?_neg]

end Operands

namespace Rule

open Binary64 Operands

theorem category_neg (locale : Locale) (number : Binary64) :
    (cardinal locale).category number.neg = (cardinal locale).category number := by
  simp only [cardinal, ofNumber?_neg]

/-- The two ways to the operands agree where both can be taken. Neither of them looks at the
sign, nor does the choice between them. So a number and its negation have the same operands,
and the same category in every locale. -/
theorem sign_unseen :
    (∀ number : Binary64, number.IsExactWhole →
      read? number.display.toList = some (ofInt64 number.toInt64) ∧
        ofInt64 number.neg.toInt64 = ofInt64 number.toInt64) ∧
    ∀ number : Binary64,
      ofNumber? number = taken? number ∧
        (number.neg.IsExactWhole ↔ number.IsExactWhole) ∧
        read? number.neg.display.toList = read? number.display.toList ∧
        ofNumber? number.neg = ofNumber? number ∧
        ∀ locale, (cardinal locale).category number.neg = (cardinal locale).category number := by
  constructor
  · intro number exact
    exact ⟨read?_display_of_isExactWhole exact, ofInt64_toInt64_neg exact⟩
  · intro number
    refine ⟨ofNumber?_eq_taken? number, isExactWhole_neg number, read?_display_neg number,
      ofNumber?_neg number, ?_⟩
    intro locale
    exact category_neg locale number

/-- The last whole number below zero that goes through an integer. -/
theorem leastExactWhole_unsigned :
    let number := ofInt (-9007199254740991)
    number.IsExactWhole ∧ number.toInt64 = -9007199254740991 ∧
      number.display = "-9007199254740991" ∧
      read? number.display.toList = some (ofNat 9007199254740991) ∧
      ofInt64 number.neg.toInt64 = ofNat 9007199254740991 := by
  intro number
  have found : number.whole? = some ⟨true, 9007199254740991⟩ := by decide +kernel
  have exact : number.IsExactWhole := ⟨_, found, by decide⟩
  have integer : ofInt64 number.toInt64 = ofNat 9007199254740991 :=
    ofInt64_toInt64 found (by decide)
  obtain ⟨text, unsigned⟩ := sign_unseen.1 number exact
  refine ⟨exact, by decide +kernel, by decide +kernel, ?_, ?_⟩
  · rw [text, integer]
  · rw [unsigned, integer]

end Rule

end Phrasebook
