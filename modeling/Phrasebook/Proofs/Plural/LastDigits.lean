import Mathlib.Tactic.SplitIfs
import Phrasebook.Proofs.Number.Display
import Phrasebook.Registry
import Phrasebook.Value

/-! Counts by their last digits.

The Russian rule and the cardinal rule of `ru` give a count the same form, that of its last
one and two digits. They take different ways to it: the one takes remainders of the number,
the other the operands of its digits. Below zero, and for integers that are no doubles, the
Russian rule follows the remainders of the double.
-/

set_option autoImplicit false

namespace Phrasebook

namespace Category

def ofLastDigits (number : Nat) : Category :=
  if number % 10 = 1 ∧ number % 100 ≠ 11 then .one
  else if (2 ≤ number % 10 ∧ number % 10 ≤ 4) ∧
      ¬(12 ≤ number % 100 ∧ number % 100 ≤ 14) then .few
  else .many

theorem ofLastDigits_ne_other (number : Nat) : ofLastDigits number ≠ .other := by
  unfold ofLastDigits
  split_ifs <;> decide

end Category

namespace Binary64

/-- A number that is not finite or not whole, or one from zero to below `2 ^ 53`. -/
def InCountRange (number : Binary64) : Prop :=
  number.isFinite = false ∨ number.whole? = none ∨
    ∃ whole, number.whole? = some whole ∧ (whole.negative = false ∨ whole.magnitude = 0) ∧
      whole.magnitude < 2 ^ 53

theorem InCountRange.of_whole? {number : Binary64} {whole : Whole} (range : number.InCountRange)
    (found : number.whole? = some whole) :
    (whole.negative = false ∨ whole.magnitude = 0) ∧ whole.magnitude < 2 ^ 53 := by
  rcases range with endless | fractional | ⟨other, again, bounds⟩
  · obtain ⟨ordinal, rfl, -⟩ := whole?_eq_some_iff.1 found
    cases endless
  · rw [found] at fractional
    cases fractional
  · obtain rfl : whole = other := Option.some.inj (found.symm.trans again)
    exact bounds

end Binary64

namespace Operands

open Binary64

theorem ofNumber?_of_whole? {number : Binary64} {whole : Whole}
    (found : number.whole? = some whole) (small : whole.magnitude < 2 ^ 53) :
    ofNumber? number = some (ofNat whole.magnitude) := by
  obtain ⟨ordinal, rfl, -⟩ := whole?_eq_some_iff.1 found
  simp only [ofNumber?, found]
  exact if_pos small

theorem v_pos_of_fractional {number : Binary64} {operands : Operands}
    (fractional : number.whole? = none) (taken : ofNumber? number = some operands) :
    0 < operands.v := by
  cases number with
  | nan => cases taken
  | infinity => cases taken
  | finite negative ordinal =>
    simp only [ofNumber?, fractional] at taken
    obtain rfl := Option.some.inj taken
    have places := places_displayed_pos fractional
    simp only [ofDecimal, digitLimit]
    omega

end Operands

namespace Cardinal

open Term

def russian : Locale := ⟨⟨"ru".toList, none, none, []⟩, .none⟩

theorem conditions_russian :
    conditions russian = [
      (.one, [[v.isIn [0], (i % 10).isIn [1], (i % 100).notIn [11]]]),
      (.few, [[v.isIn [0], (i % 10).isIn [⟨2, 4⟩], (i % 100).notIn [⟨12, 14⟩]]]),
      (.many, [
        [v.isIn [0], (i % 10).isIn [0]],
        [v.isIn [0], (i % 10).isIn [⟨5, 9⟩]],
        [v.isIn [0], (i % 100).isIn [⟨11, 14⟩]]])] := by
  decide

/-- Without visible fraction digits the last digits of the whole part decide. -/
theorem classify_russian (operands : Operands) :
    classify (conditions russian) operands =
      if operands.v = 0 then .ofLastDigits operands.i else .other := by
  rw [conditions_russian]
  simp only [classify_cons, classify_nil, Condition.holds_iff, List.mem_cons, List.not_mem_nil,
    or_false, exists_eq_or_imp, exists_eq_left, forall_eq_or_imp, forall_eq,
    holds_isIn (value?_v _), holds_isIn (value?_i_mod _ _), holds_notIn (value?_i_mod _ _),
    Range.contains_mk, Range.contains_ofNat, Category.ofLastDigits]
  split_ifs <;> first | rfl | omega

end Cardinal

namespace Rule

open Binary64

theorem russianCategory_natCast (number : Nat) :
    russianCategory number = .ofLastDigits number := by
  have ones : (number : Int).tmod 10 = (number % 10 : Nat) := Int.ofNat_tmod number 10
  have tens : (number : Int).tmod 100 = (number % 100 : Nat) := Int.ofNat_tmod number 100
  simp only [russianCategory, ones, tens, Category.ofLastDigits]
  split_ifs <;> first | rfl | omega

/-- No remainder of a number below zero is positive, so zero is the only one in a range. -/
theorem russianCategory_neg (number : Nat) :
    russianCategory (-number) = if 10 ∣ number then .many else .other := by
  have ones : (-number : Int).tmod 10 = -(number % 10 : Nat) := by
    rw [Int.neg_tmod]
    exact congrArg Neg.neg (Int.ofNat_tmod number 10)
  have tens : (-number : Int).tmod 100 = -(number % 100 : Nat) := by
    rw [Int.neg_tmod]
    exact congrArg Neg.neg (Int.ofNat_tmod number 100)
  simp only [russianCategory, ones, tens]
  split_ifs <;> first | rfl | omega

section

variable {number : Binary64} {magnitude : Nat} {whole : Whole}

theorem category_russian_of_natural (natural : number.whole? = some ⟨false, magnitude⟩) :
    russian.category number = .ofLastDigits magnitude := by
  simpa [russian, natural] using russianCategory_natCast magnitude

theorem category_russian_of_negative (negative : number.whole? = some ⟨true, magnitude⟩) :
    russian.category number = if 10 ∣ magnitude then .many else .other := by
  simpa [russian, negative] using russianCategory_neg magnitude

theorem category_russian_of_fractional (fractional : number.whole? = none) :
    russian.category number = .other := by
  simp only [russian, fractional]

/-- Minus zero is a count, too. -/
theorem category_russian_of_count (found : number.whole? = some whole)
    (natural : whole.negative = false ∨ whole.magnitude = 0) :
    russian.category number = .ofLastDigits whole.magnitude := by
  obtain ⟨negative, magnitude⟩ := whole
  cases negative with
  | false => exact category_russian_of_natural found
  | true =>
    obtain rfl : magnitude = 0 := natural.resolve_left Bool.noConfusion
    exact category_russian_of_negative found

theorem category_cardinal_of_count (found : number.whole? = some whole)
    (small : whole.magnitude < 2 ^ 53) :
    (cardinal Cardinal.russian).category number = .ofLastDigits whole.magnitude := by
  simp only [cardinal, Operands.ofNumber?_of_whole? found small, Cardinal.classify_russian]
  rfl

theorem category_cardinal_of_fractional (fractional : number.whole? = none) :
    (cardinal Cardinal.russian).category number = .other := by
  simp only [cardinal]
  split
  · next operands taken =>
    rw [Cardinal.classify_russian,
      if_neg (Nat.ne_of_gt (Operands.v_pos_of_fractional fractional taken))]
  · rfl

end

/-- Below zero the multiples of ten are `many`, and all other numbers are `other`. -/
theorem negative_category (ordinal : Fin BinaryFormat.double.limit) :
    russian.category (.finite true ordinal) =
      if 10 * unitsPerOne ∣ BinaryFormat.double.units ordinal then .many else .other := by
  cases found : (finite true ordinal).whole? with
  | none =>
    -- What is not whole is no multiple of ten either.
    have fractional := whole?_finite_eq_none_iff.1 found
    rw [category_russian_of_fractional found,
      if_neg fun divides => fractional (Nat.dvd_trans (Nat.dvd_mul_left _ _) divides)]
  | some whole =>
    obtain ⟨same, finite, value⟩ := whole?_eq_some_iff.1 found
    obtain ⟨negative, magnitude⟩ := whole
    obtain ⟨rfl, rfl⟩ := Binary64.finite.inj finite
    rw [category_russian_of_negative found, value]
    simp only [Nat.mul_dvd_mul_iff_right unitsPerOne_pos]

theorem minusTen_many :
    (ofInt (-10)).whole? = some ⟨true, 10⟩ ∧ russian.category (ofInt (-10)) = .many := by
  have found : (ofInt (-10)).whole? = some ⟨true, 10⟩ := by decide +kernel
  exact ⟨found, by rw [category_russian_of_negative found, if_pos (by decide)]⟩

/-- The two rules are interchangeable on counts, and on what is not a whole number. -/
theorem russian_interchangeable :
    ∃ locale, Locale.ofTag "ru" = .ok locale ∧ (cardinal locale).forms = russian.forms ∧
      ∀ number : Binary64, number.InCountRange →
        (cardinal locale).category number = russian.category number ∧
          (cardinal locale).slot? number = russian.slot? number ∧
          (number.whole?.isSome = true → russian.category number ≠ .other) := by
  have forms : (cardinal Cardinal.russian).forms = russian.forms := by decide
  refine ⟨Cardinal.russian, rfl, forms, fun number range => ?_⟩
  have category : (cardinal Cardinal.russian).category number = russian.category number ∧
      (number.whole?.isSome = true → russian.category number ≠ .other) := by
    cases found : number.whole? with
    | none =>
      rw [category_cardinal_of_fractional found, category_russian_of_fractional found]
      exact ⟨rfl, by simp⟩
    | some whole =>
      obtain ⟨natural, small⟩ := range.of_whole? found
      rw [category_cardinal_of_count found small, category_russian_of_count found natural]
      exact ⟨rfl, fun _ => Category.ofLastDigits_ne_other _⟩
  exact ⟨category.1, by rw [slot?, slot?, forms, category.1], category.2⟩

theorem farNumbers_agree :
    ∃ locale, Locale.ofTag "ru" = .ok locale ∧
      (ofInt 9007199254740991).InCountRange ∧
      (cardinal locale).category (ofInt 9007199254740991) = .one ∧
      (cardinal locale).slot? (ofInt 9007199254740991) = some 0 ∧
      (finite false ⟨1, by decide⟩).InCountRange ∧
      (cardinal locale).category (finite false ⟨1, by decide⟩) = .other ∧
      nan.InCountRange ∧ (cardinal locale).category nan = .other := by
  obtain ⟨locale, named, forms, agree⟩ := russian_interchangeable
  have greatest : (ofInt 9007199254740991).whole? = some ⟨false, 9007199254740991⟩ := by
    decide +kernel
  have least : (finite false ⟨1, by decide⟩).whole? = none := by decide +kernel
  have far : (ofInt 9007199254740991).InCountRange :=
    .inr (.inr ⟨_, greatest, .inl rfl, by decide⟩)
  refine ⟨locale, named, far, ?_, ?_, .inr (.inl least), ?_, .inl rfl, ?_⟩
  · rw [(agree _ far).1, category_russian_of_natural greatest]
    decide
  · rw [(agree _ far).2.1, slot?, category_russian_of_natural greatest]
    decide
  · rw [(agree _ (.inr (.inl least))).1, category_russian_of_fractional least]
  · exact (agree nan (.inl rfl)).1

/-- An integer counts as the double nearest to it, by the last digits of that double. This is
the integer itself if it is a double, and every integer up to `2 ^ 53` is. -/
theorem integer_category (number : Int64) (natural : 0 ≤ number.toInt) :
    ∃ (ordinal : Fin BinaryFormat.double.limit) (whole : Nat),
      (Value.integer number).count = .finite false ordinal ∧
        BinaryFormat.double.IsNearest ordinal number.toInt.toNat 1 ∧
        BinaryFormat.double.units ordinal = whole * unitsPerOne ∧
        russian.category (Value.integer number).count = .ofLastDigits whole ∧
        ((∃ other, BinaryFormat.double.units other = number.toInt.toNat * unitsPerOne) ↔
          whole = number.toInt.toNat) ∧
        (number.toInt.toNat ≤ 2 ^ 53 → whole = number.toInt.toNat) := by
  have shown : number.toInt = (number.toInt.toNat : Int) := (Int.toNat_of_nonneg natural).symm
  have bounded : number.toInt.toNat ≤ 2 ^ 64 := by
    have upper := Int64.toInt_lt number
    omega
  obtain ⟨ordinal, whole, finite, nearest, value⟩ := exists_ofInt_natCast bounded
  have count : (Value.integer number).count = .finite false ordinal := by
    rw [Value.count, shown, finite]
  have found : (Value.integer number).count.whole? = some ⟨false, whole⟩ := by
    rw [count]
    exact whole?_eq_some_iff.2 ⟨ordinal, rfl, value⟩
  have kept : (∃ other, BinaryFormat.double.units other = number.toInt.toNat * unitsPerOne) ↔
      whole = number.toInt.toNat := by
    constructor
    · rintro ⟨other, same⟩
      rw [← eq_of_isNearest_of_units_eq nearest same, value] at same
      exact Nat.eq_of_mul_eq_mul_right unitsPerOne_pos same
    · rintro rfl
      exact ⟨ordinal, value⟩
  exact ⟨ordinal, whole, count, nearest, value, category_russian_of_natural found, kept,
    fun small => kept.1 (exists_units_eq_small small)⟩

/-- A power of two far beyond `2 ^ 53` is a double. -/
theorem powerOfTwo_few :
    0 ≤ (4611686018427387904 : Int64).toInt ∧
      (4611686018427387904 : Int64).toInt.toNat = 1 * 2 ^ 62 ∧
      russian.category (Value.integer 4611686018427387904).count = .few := by
  have power : (4611686018427387904 : Int64).toInt.toNat = 1 * 2 ^ 62 := by decide
  obtain ⟨-, whole, -, -, -, category, kept, -⟩ :=
    integer_category 4611686018427387904 (by decide)
  obtain ⟨other, value⟩ := exists_units_eq_whole (by decide : 1 ≤ 2 ^ 53) 62
  have same : whole = (4611686018427387904 : Int64).toInt.toNat :=
    kept.1 ⟨other, by rw [value, power]⟩
  refine ⟨by decide, power, ?_⟩
  rw [category, same]
  decide

/-- An integer that ends in one, and the double it counts as ends in zero. -/
theorem oneBeyondDoubles_many :
    0 ≤ (9007199254741001 : Int64).toInt ∧
      Category.ofLastDigits (9007199254741001 : Int64).toInt.toNat = .one ∧
      (Value.integer 9007199254741001).count.whole? = some ⟨false, 9007199254741000⟩ ∧
      russian.category (Value.integer 9007199254741001).count = .many := by
  have found : (Value.integer 9007199254741001).count.whole? =
      some ⟨false, 9007199254741000⟩ := by
    decide +kernel
  exact ⟨by decide, by decide, found, by rw [category_russian_of_natural found]; decide⟩

end Rule

end Phrasebook
