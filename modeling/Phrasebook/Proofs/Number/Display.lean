import Mathlib.Tactic.Ring
import Phrasebook.Number.Text
import Phrasebook.Proofs.Number.Respelling
import Phrasebook.Proofs.Number.WholeNumber

/-! The decimals that numbers are displayed as.

The displayed decimal reads back, and a decimal that is a double itself reads back as no
other double. So a number that is not whole is displayed with digits behind the point: a
whole number in its place would be small enough to be a double. A whole number of at most 53
bits is displayed with its own digits: none of the grids that are tried before it is a double
too is finer than the whole numbers.
-/

set_option autoImplicit false

namespace Phrasebook

theorem Numeral.length_ofNat_mul_pow {number : Nat} (positive : 0 < number) (zeros : Nat) :
    (ofNat (number * 10 ^ zeros)).length = (ofNat number).length + zeros := by
  induction zeros with
  | zero => simp
  | succ zeros ih =>
    have front : 0 < number * 10 ^ zeros := Nat.mul_pos positive (Nat.pow_pos (by decide))
    have shape : number * 10 ^ (zeros + 1) = 10 * (number * 10 ^ zeros) + 0 := by
      rw [Nat.pow_succ, ← Nat.mul_assoc, Nat.mul_comm _ 10, Nat.add_zero]
    rw [shape, ofNat_append_digit front (by decide), List.length_append, ih]
    rfl

namespace Shortest

open Binary64

variable {ordinal : Nat}

theorem units_pred_lt (positive : ordinal ≠ 0) : units (ordinal - 1) < units ordinal :=
  BinaryFormat.double.strictMono_units (Nat.sub_one_lt positive)

theorem lower_lt (positive : ordinal ≠ 0) : lower ordinal < 2 * units ordinal := by
  rw [lower, Nat.two_mul]
  exact Nat.add_lt_add_right (units_pred_lt positive) _

theorem lt_upper (ordinal : Nat) : 2 * units ordinal < upper ordinal := by
  rw [upper, Nat.two_mul]
  exact Nat.add_lt_add_left (BinaryFormat.double.units_lt_units_succ ordinal) _

theorem point_eq_of_value {other : Nat} {decimal : Decimal}
    (value : units other * 10 ^ decimal.places = decimal.shifted * unitsPerOne) :
    decimal.shifted * (2 * unitsPerOne) = 2 * units other * 10 ^ decimal.places := by
  rw [Nat.mul_assoc, value]
  ring

theorem readsBack_of_value {decimal : Decimal} (positive : ordinal ≠ 0)
    (value : units ordinal * 10 ^ decimal.places = decimal.shifted * unitsPerOne) :
    ReadsBack ordinal decimal := by
  have ten : 0 < 10 ^ decimal.places := Nat.pow_pos (by decide)
  rw [ReadsBack, point_eq_of_value value]
  exact .inl ⟨Nat.mul_lt_mul_of_pos_right (lower_lt positive) ten,
    Nat.mul_lt_mul_of_pos_right (lt_upper ordinal) ten⟩

theorem readsBack_exact (positive : ordinal ≠ 0) : ReadsBack ordinal (exact ordinal) := by
  apply readsBack_of_value positive
  have places : (exact ordinal).places = BinaryFormat.double.scale := by
    rw [exact, Decimal.places, Int.neg_neg, Int.toNat_natCast]
  have shifted : (exact ordinal).shifted = units ordinal * 5 ^ BinaryFormat.double.scale := by
    simp [exact, Decimal.shifted]
  have ten : 10 ^ BinaryFormat.double.scale = 5 ^ BinaryFormat.double.scale * unitsPerOne := by
    rw [unitsPerOne, ← Nat.mul_pow]
  rw [places, shifted, ten, Nat.mul_assoc]

theorem readsBack_of_onGrid? {tie : Tie} {exponent : Int} {decimal : Decimal}
    (found : onGrid? tie ordinal exponent = some decimal) : ReadsBack ordinal decimal := by
  rw [onGrid?] at found
  split at found
  · simpa only [decide_eq_true_eq] using List.find?_some found
  · simpa only [decide_eq_true_eq] using List.find?_some found

theorem exponent_of_onGrid? {tie : Tie} {exponent : Int} {decimal : Decimal}
    (found : onGrid? tie ordinal exponent = some decimal) : decimal.exponent = exponent := by
  have listed : decimal = ⟨gridFloor ordinal exponent, exponent⟩ ∨
      decimal = ⟨gridFloor ordinal exponent + 1, exponent⟩ := by
    rw [onGrid?] at found
    split at found
    · simpa [or_comm] using List.mem_of_find?_eq_some found
    · simpa using List.mem_of_find?_eq_some found
  rcases listed with rfl | rfl <;> rfl

theorem isSome_onGrid? {exponent : Int} (tie : Tie)
    (reads : ReadsBack ordinal ⟨gridFloor ordinal exponent, exponent⟩) :
    (onGrid? tie ordinal exponent).isSome = true := by
  rw [onGrid?]
  split <;> simp [reads]

/-- The chosen decimal reads back. -/
theorem readsBack_decimal (tie : Tie) (positive : ordinal ≠ 0) :
    ReadsBack ordinal (decimal tie ordinal) := by
  simp only [decimal, if_neg positive]
  cases search : (List.range 18).findSome? fun (digits : Nat) =>
      onGrid? tie ordinal (leading ordinal + 1 - digits) with
  | none => exact readsBack_exact positive
  | some decimal =>
    obtain ⟨digits, -, found⟩ := List.exists_of_findSome?_eq_some search
    exact readsBack_of_onGrid? found

/-- The grid of the chosen decimal is no finer than any other on which one reads back. -/
theorem le_exponent_decimal {tie : Tie} (positive : ordinal ≠ 0) {digits : Nat}
    (inside : digits < 18)
    (hit : (onGrid? tie ordinal (leading ordinal + 1 - digits)).isSome = true) :
    leading ordinal + 1 - digits ≤ (decimal tie ordinal).exponent := by
  simp only [decimal, if_neg positive]
  cases search : (List.range 18).findSome? fun (digits : Nat) =>
      onGrid? tie ordinal (leading ordinal + 1 - digits) with
  | none =>
    rw [List.findSome?_eq_none_iff.1 search digits (List.mem_range.2 inside)] at hit
    cases hit
  | some found =>
    -- The search goes from coarse to fine and ends with the first hit.
    obtain ⟨before, first, after, shape, here, missed⟩ := List.findSome?_eq_some_iff.1 search
    have ordered : (before ++ first :: after).Pairwise (· < ·) := shape ▸ List.pairwise_lt_range
    have member : digits ∈ before ++ first :: after := shape ▸ List.mem_range.2 inside
    have earliest : first ≤ digits := by
      rcases List.mem_append.1 member with early | late
      · rw [missed digits early] at hit
        cases hit
      · rcases List.mem_cons.1 late with rfl | late
        · exact Nat.le_refl _
        · exact Nat.le_of_lt
            ((List.pairwise_cons.1 (List.pairwise_append.1 ordered).2.1).1 digits late)
    rw [Option.getD_some, exponent_of_onGrid? here]
    omega

theorem eq_of_between {other : Nat}
    (inside : (lower ordinal < 2 * units other ∧ 2 * units other < upper ordinal) ∨
      lower ordinal = 2 * units other ∨ upper ordinal = 2 * units other)
    (positive : ordinal ≠ 0) : other = ordinal := by
  have before := units_pred_lt positive
  have after : units ordinal < units (ordinal + 1) := BinaryFormat.double.units_lt_units_succ ordinal
  rw [lower, upper] at inside
  rcases Nat.lt_trichotomy other ordinal with less | same | more
  · have below : units other ≤ units (ordinal - 1) :=
      BinaryFormat.double.strictMono_units.monotone (Nat.le_sub_one_of_lt less)
    omega
  · exact same
  · have above : units (ordinal + 1) ≤ units other :=
      BinaryFormat.double.strictMono_units.monotone more
    omega

/-- A decimal that is a magnitude reads back as this one only. -/
theorem eq_of_readsBack {decimal : Decimal} {other : Nat} (positive : ordinal ≠ 0)
    (reads : ReadsBack ordinal decimal)
    (value : units other * 10 ^ decimal.places = decimal.shifted * unitsPerOne) :
    other = ordinal := by
  have ten : 0 < 10 ^ decimal.places := Nat.pow_pos (by decide)
  rw [ReadsBack, point_eq_of_value value] at reads
  apply eq_of_between _ positive
  rcases reads with ⟨low, high⟩ | ⟨-, low | high⟩
  · exact .inl ⟨Nat.lt_of_mul_lt_mul_right low, Nat.lt_of_mul_lt_mul_right high⟩
  · exact .inr (.inl (Nat.eq_of_mul_eq_mul_right ten low))
  · exact .inr (.inr (Nat.eq_of_mul_eq_mul_right ten high.symm))

end Shortest

namespace Binary64

open Shortest

theorem units_succ_le {ordinal number : Nat} (small : number ≤ 2 ^ 53)
    (less : units ordinal < number * unitsPerOne) : units (ordinal + 1) ≤ number * unitsPerOne := by
  obtain ⟨bound, value⟩ := exists_units_eq_small small
  have inside : ordinal < bound := by
    apply BinaryFormat.double.strictMono_units.lt_iff_lt.1
    rw [value]
    exact less
  rw [← value]
  exact BinaryFormat.double.strictMono_units.monotone inside

theorem upper_le_of_not_dvd {ordinal : Nat} (fractional : ¬unitsPerOne ∣ units ordinal) :
    upper ordinal ≤ 2 ^ 52 * (2 * unitsPerOne) := by
  have less : units ordinal < 2 ^ 52 * unitsPerOne :=
    Nat.lt_of_not_le fun large => fractional (unitsPerOne_dvd_of_le large)
  calc upper ordinal ≤ 2 ^ 52 * unitsPerOne + 2 ^ 52 * unitsPerOne :=
        Nat.add_le_add (Nat.le_of_lt less) (units_succ_le (by decide) less)
    _ = 2 ^ 52 * (2 * unitsPerOne) := by ring

theorem le_upper_of_readsBack {ordinal : Nat} {decimal : Decimal} (positive : ordinal ≠ 0)
    (reads : ReadsBack ordinal decimal) (places : decimal.places = 0) :
    decimal.shifted * (2 * unitsPerOne) ≤ upper ordinal := by
  rw [ReadsBack, places, Nat.pow_zero, Nat.mul_one, Nat.mul_one] at reads
  rcases reads with ⟨-, high⟩ | ⟨-, low | high⟩
  · exact Nat.le_of_lt high
  · rw [← low]
    exact Nat.le_of_lt (Nat.lt_trans (lower_lt positive) (lt_upper ordinal))
  · exact Nat.le_of_eq high

/-- A decimal that is a whole number of at most 53 bits reads back as that number only. -/
theorem units_eq_of_readsBack {ordinal : Nat} {decimal : Decimal} (positive : ordinal ≠ 0)
    (reads : ReadsBack ordinal decimal) (places : decimal.places = 0)
    (small : decimal.shifted ≤ 2 ^ 53) : units ordinal = decimal.shifted * unitsPerOne := by
  obtain ⟨other, value⟩ := exists_units_eq_small small
  obtain rfl : other = ordinal := eq_of_readsBack positive reads (by
    rw [places, Nat.pow_zero, Nat.mul_one]
    exact value)
  exact value

theorem unitsPerOne_dvd_of_readsBack {ordinal : Nat} {decimal : Decimal}
    (positive : ordinal ≠ 0) (reads : ReadsBack ordinal decimal) (places : decimal.places = 0) :
    unitsPerOne ∣ units ordinal := by
  by_contra fractional
  have high := Nat.le_trans (le_upper_of_readsBack positive reads places)
    (upper_le_of_not_dvd fractional)
  have fits : decimal.shifted ≤ 2 ^ 52 :=
    Nat.le_of_mul_le_mul_right high (Nat.mul_pos (by decide) unitsPerOne_pos)
  have value := units_eq_of_readsBack positive reads places (Nat.le_trans fits (by decide))
  exact fractional ⟨decimal.shifted, value.trans (Nat.mul_comm _ _)⟩

theorem places_displayed_pos {negative : Bool} {ordinal : Fin BinaryFormat.double.limit}
    (fractional : (finite negative ordinal).whole? = none) : 0 < (displayed ordinal).places := by
  rw [whole?_finite_eq_none_iff] at fractional
  have positive : ordinal.val ≠ 0 := by
    intro zero
    rw [zero, BinaryFormat.units_zero] at fractional
    exact fractional (Nat.dvd_zero _)
  exact Nat.pos_of_ne_zero fun none =>
    fractional (unitsPerOne_dvd_of_readsBack positive (readsBack_decimal .greater positive) none)

section Whole

variable {ordinal whole : Nat}

theorem leading_of_whole (positive : 0 < whole) (value : units ordinal = whole * unitsPerOne) :
    leading ordinal = (Numeral.ofNat whole).length - 1 := by
  have scaled : units ordinal * 10 ^ 343 / unitsPerOne = whole * 10 ^ 343 := by
    rw [value, Nat.mul_right_comm, Nat.mul_div_cancel _ unitsPerOne_pos]
  rw [leading, scaled, Numeral.length_ofNat_mul_pow positive]
  omega

theorem readsBack_whole (positive : ordinal ≠ 0) (value : units ordinal = whole * unitsPerOne) :
    ReadsBack ordinal ⟨gridFloor ordinal 0, 0⟩ := by
  have floor : gridFloor ordinal 0 = whole := by
    simp [gridFloor, value, Nat.mul_div_cancel _ unitsPerOne_pos]
  apply readsBack_of_value positive
  simp [floor, Decimal.places, Decimal.shifted, value]

theorem places_decimal_of_whole (tie : Tie) (positive : ordinal ≠ 0) (front : 0 < whole)
    (small : whole < 2 ^ 53) (value : units ordinal = whole * unitsPerOne) :
    (decimal tie ordinal).places = 0 := by
  have short : (Numeral.ofNat whole).length ≤ 16 :=
    (Nat.length_toDigits_le_iff (by decide) (by decide)).2 (Nat.lt_trans small (by decide))
  have last : leading ordinal + 1 - (Numeral.ofNat whole).length = 0 := by
    rw [leading_of_whole front value]
    omega
  have hit := isSome_onGrid? tie (readsBack_whole positive value)
  rw [← last] at hit
  have coarse := le_exponent_decimal positive (by omega) hit
  rw [Decimal.places]
  omega

/-- A whole number of at most 53 bits is displayed with its own digits. -/
theorem decimal_of_whole (tie : Tie) (small : whole < 2 ^ 53)
    (value : units ordinal = whole * unitsPerOne) :
    (decimal tie ordinal).places = 0 ∧ (decimal tie ordinal).shifted = whole := by
  rcases Nat.eq_zero_or_pos whole with rfl | front
  · obtain rfl : ordinal = 0 := BinaryFormat.double.strictMono_units.injective
      (value.trans (by rw [Nat.zero_mul, BinaryFormat.units_zero]))
    exact ⟨rfl, rfl⟩
  have positive : ordinal ≠ 0 := by
    rintro rfl
    exact Nat.ne_of_lt (Nat.mul_pos front unitsPerOne_pos)
      ((BinaryFormat.units_zero _).symm.trans value)
  have places := places_decimal_of_whole tie positive front small value
  have reads := readsBack_decimal tie positive
  have next : units (ordinal + 1) ≤ (whole + 1) * unitsPerOne := by
    apply units_succ_le small
    rw [value]
    exact Nat.mul_lt_mul_of_pos_right (Nat.lt_succ_self whole) unitsPerOne_pos
  -- The decimal is at most the midpoint above, and that is at most `whole` and a half.
  have bound : (decimal tie ordinal).shifted * 2 * unitsPerOne ≤
      (2 * whole + 1) * unitsPerOne :=
    calc (decimal tie ordinal).shifted * 2 * unitsPerOne ≤ upper ordinal := by
          rw [Nat.mul_assoc]
          exact le_upper_of_readsBack positive reads places
      _ ≤ whole * unitsPerOne + (whole + 1) * unitsPerOne :=
          Nat.add_le_add (Nat.le_of_eq value) next
      _ = (2 * whole + 1) * unitsPerOne := by ring
  have fits := Nat.le_of_mul_le_mul_right bound unitsPerOne_pos
  have same := units_eq_of_readsBack positive reads places (by omega)
  exact ⟨places, Nat.eq_of_mul_eq_mul_right unitsPerOne_pos (same.symm.trans value)⟩

end Whole

end Binary64

end Phrasebook
