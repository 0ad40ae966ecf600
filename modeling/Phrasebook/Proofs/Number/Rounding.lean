import Mathlib.Data.Nat.Dist
import Mathlib.Order.Monotone.Basic
import Mathlib.Tactic.Ring
import Phrasebook.Number.Binary

/-! Rounding to the nearest magnitude.

A magnitude is a significand shifted to the left, and its ordinal holds both. So the
magnitudes grow with their ordinals, and rounding gives a magnitude that none is nearer to
the quotient than. It gives back what is a magnitude already, such as a whole number with
few bits.
-/

set_option autoImplicit false

namespace Phrasebook

theorem div_le_nearestQuotient (numerator denominator : Nat) :
    numerator / denominator ≤ nearestQuotient numerator denominator := by
  simp only [nearestQuotient]
  split <;> omega

theorem nearestQuotient_le_div_add_one (numerator denominator : Nat) :
    nearestQuotient numerator denominator ≤ numerator / denominator + 1 := by
  simp only [nearestQuotient]
  split <;> omega

theorem two_mul_dist_nearestQuotient (numerator : Nat) {denominator : Nat}
    (positive : 0 < denominator) :
    let near := Nat.dist (nearestQuotient numerator denominator * denominator) numerator
    2 * near ≤ denominator ∧
      (2 * near = denominator → nearestQuotient numerator denominator % 2 = 0) := by
  intro near
  have parts := Nat.div_add_mod' numerator denominator
  have short := Nat.mod_lt numerator positive
  simp only [near, nearestQuotient, Nat.dist]
  split
  · next up =>
    rw [Nat.add_mul, Nat.one_mul]
    omega
  · next down => omega

/-- No multiple of the denominator is nearer to the numerator, and another one is as near
only if the quotient is even. -/
theorem nearestQuotient_spec (numerator : Nat) {denominator : Nat} (positive : 0 < denominator)
    (other : Nat) :
    let near := Nat.dist (nearestQuotient numerator denominator * denominator) numerator
    let far := Nat.dist (other * denominator) numerator
    near ≤ far ∧ (far = near →
      other = nearestQuotient numerator denominator ∨
        nearestQuotient numerator denominator % 2 = 0) := by
  intro near far
  by_cases same : other = nearestQuotient numerator denominator
  · exact ⟨Nat.le_of_eq (by simp only [near, far, same]), fun _ => .inl same⟩
  -- Two multiples are a whole denominator apart, so half of one cannot be passed.
  · obtain ⟨half, even⟩ := two_mul_dist_nearestQuotient numerator positive
    have apart : denominator ≤
        Nat.dist (other * denominator) (nearestQuotient numerator denominator * denominator) := by
      rw [Nat.dist_mul_right]
      exact Nat.le_mul_of_pos_left _ (Nat.dist_pos_of_ne same)
    have around := Nat.dist.triangle_inequality (other * denominator) numerator
      (nearestQuotient numerator denominator * denominator)
    rw [Nat.dist_comm numerator] at around
    refine ⟨by omega, fun tie => .inr (even ?_)⟩
    omega

namespace BinaryFormat

variable (format : BinaryFormat)

theorem units_of_significand {shift significand : Nat}
    (short : significand ≤ 2 ^ (format.fractionBits + 1))
    (normal : shift = 0 ∨ 2 ^ format.fractionBits ≤ significand) :
    format.units (shift * 2 ^ format.fractionBits + significand) = significand * 2 ^ shift := by
  have positive : 0 < 2 ^ format.fractionBits := Nat.two_pow_pos _
  rw [Nat.pow_succ] at short
  simp only [units]
  by_cases low : significand < 2 ^ format.fractionBits
  · obtain rfl : shift = 0 := normal.resolve_right (Nat.not_le.2 low)
    simp [Nat.div_eq_of_lt low, Nat.mod_eq_of_lt low]
  · obtain ⟨fraction, rfl⟩ := Nat.exists_eq_add_of_le (Nat.not_lt.1 low)
    by_cases full : fraction = 2 ^ format.fractionBits
    -- The full significand carries into the exponent field.
    · have carried : shift * 2 ^ format.fractionBits + (2 ^ format.fractionBits + fraction) =
          (shift + 2) * 2 ^ format.fractionBits := by
        rw [full]
        ring
      rw [carried, Nat.mul_div_cancel _ positive, Nat.mul_mod_left, if_neg (Nat.succ_ne_zero _), full,
        Nat.add_zero, show shift + 2 - 1 = shift + 1 from rfl, Nat.pow_succ]
      ring
    · have inside : fraction < 2 ^ format.fractionBits := by omega
      have fields : shift * 2 ^ format.fractionBits + (2 ^ format.fractionBits + fraction) =
          fraction + (shift + 1) * 2 ^ format.fractionBits := by ring
      rw [fields, Nat.add_mul_div_right _ _ positive, Nat.add_mul_mod_self_right,
        Nat.div_eq_of_lt inside, Nat.mod_eq_of_lt inside, Nat.zero_add,
        if_neg (Nat.succ_ne_zero _), Nat.add_sub_cancel]

@[simp] theorem units_zero : format.units 0 = 0 := by
  simp [units]

theorem units_limit (exponents : 0 < format.exponents) :
    format.units format.limit = 2 ^ format.fractionBits * 2 ^ (format.exponents - 1) := by
  have place : format.limit =
      (format.exponents - 1) * 2 ^ format.fractionBits + 2 ^ format.fractionBits := by
    rw [limit, ← Nat.succ_mul, Nat.succ_eq_add_one, Nat.sub_add_cancel exponents]
  have short : 2 ^ format.fractionBits ≤ 2 ^ (format.fractionBits + 1) :=
    Nat.pow_le_pow_right (by decide) (Nat.le_succ _)
  rw [place, format.units_of_significand short (.inr (Nat.le_refl _))]

theorem exists_significand (ordinal : Nat) :
    ∃ shift significand, ordinal = shift * 2 ^ format.fractionBits + significand ∧
      significand < 2 ^ (format.fractionBits + 1) ∧
      (shift = 0 ∨ 2 ^ format.fractionBits ≤ significand) := by
  have parts := Nat.div_add_mod ordinal (2 ^ format.fractionBits)
  have short := Nat.mod_lt ordinal (Nat.two_pow_pos format.fractionBits)
  rw [Nat.pow_succ]
  cases field : ordinal / 2 ^ format.fractionBits with
  | zero =>
    rw [field] at parts
    exact ⟨0, ordinal, by omega, by omega, .inl rfl⟩
  | succ shift =>
    rw [field, Nat.mul_succ, Nat.mul_comm] at parts
    exact ⟨shift, 2 ^ format.fractionBits + ordinal % 2 ^ format.fractionBits, by omega, by omega,
      .inr (by omega)⟩

theorem units_lt_units_succ (ordinal : Nat) :
    format.units ordinal < format.units (ordinal + 1) := by
  obtain ⟨shift, significand, rfl, short, normal⟩ := format.exists_significand ordinal
  rw [Nat.add_assoc, format.units_of_significand (Nat.le_of_lt short) normal,
    format.units_of_significand short (normal.imp id Nat.le_succ_of_le)]
  exact Nat.mul_lt_mul_of_pos_right (Nat.lt_succ_self _) (Nat.two_pow_pos _)

theorem strictMono_units : StrictMono format.units :=
  strictMono_nat_of_lt_succ format.units_lt_units_succ

theorem exists_units_eq {significand : Nat} (short : significand ≤ 2 ^ (format.fractionBits + 1))
    (zeros : Nat) : ∃ ordinal, format.units ordinal = significand * 2 ^ zeros := by
  induction zeros generalizing significand with
  | zero => exact ⟨0 * _ + _, format.units_of_significand short (.inl rfl)⟩
  | succ zeros ih =>
    -- A short significand takes the zero bits up, and only a full one leaves them to the shift.
    by_cases normal : 2 ^ format.fractionBits ≤ significand
    · exact ⟨_, format.units_of_significand short (.inr normal)⟩
    · have doubled : 2 * significand ≤ 2 ^ (format.fractionBits + 1) := by
        rw [Nat.pow_succ]
        omega
      obtain ⟨ordinal, found⟩ := ih doubled
      exact ⟨ordinal, by rw [found, Nat.pow_succ]; ring⟩

theorem dvd_units_of_le {zeros ordinal : Nat}
    (large : 2 ^ (format.fractionBits + zeros) ≤ format.units ordinal) :
    2 ^ zeros ∣ format.units ordinal := by
  obtain ⟨shift, significand, rfl, short, normal⟩ := format.exists_significand ordinal
  rw [format.units_of_significand (Nat.le_of_lt short) normal] at large ⊢
  have bounded : significand * 2 ^ shift < 2 ^ (format.fractionBits + 1) * 2 ^ shift :=
    Nat.mul_lt_mul_of_pos_right short (Nat.two_pow_pos _)
  rw [← Nat.pow_add] at bounded
  have exponents := (Nat.pow_lt_pow_iff_right (by decide)).1 (Nat.lt_of_le_of_lt large bounded)
  exact Dvd.dvd.mul_left (Nat.pow_dvd_pow 2 (by omega)) _

/-- No magnitude is nearer to a quotient than that of the ordinal, and another one is as near
only if the ordinal is even. -/
structure IsNearest (ordinal numerator denominator : Nat) : Prop where
  near : ∀ other,
    Nat.dist (format.units ordinal * denominator) (numerator * 2 ^ format.scale) ≤
      Nat.dist (format.units other * denominator) (numerator * 2 ^ format.scale)
  even : ∀ other,
    Nat.dist (format.units other * denominator) (numerator * 2 ^ format.scale) =
        Nat.dist (format.units ordinal * denominator) (numerator * 2 ^ format.scale) →
      other = ordinal ∨ ordinal % 2 = 0

section Nearest

variable (numerator denominator : Nat)

def dropped : Nat := (numerator * 2 ^ format.scale / denominator).log2 - format.fractionBits

/-- One in the last place that rounding keeps, as a multiple of the denominator. -/
def step : Nat := denominator * 2 ^ format.dropped numerator denominator

/-- The significand before rounding has full length, unless no bit is dropped. -/
theorem significand_bounds :
    numerator * 2 ^ format.scale / format.step numerator denominator <
        2 ^ (format.fractionBits + 1) ∧
      (format.dropped numerator denominator = 0 ∨
        2 ^ format.fractionBits ≤
          numerator * 2 ^ format.scale / format.step numerator denominator) := by
  rw [step, ← Nat.div_div_eq_div_mul, dropped]
  generalize numerator * 2 ^ format.scale / denominator = quotient
  rw [Nat.div_lt_iff_lt_mul (Nat.two_pow_pos _), Nat.le_div_iff_mul_le (Nat.two_pow_pos _),
    ← Nat.pow_add, ← Nat.pow_add]
  constructor
  · exact Nat.lt_of_lt_of_le Nat.lt_log2_self (Nat.pow_le_pow_right (by decide) (by omega))
  · by_cases none : quotient.log2 - format.fractionBits = 0
    · exact .inl none
    · have nonzero : quotient ≠ 0 := by
        rintro rfl
        simp at none
      rw [show format.fractionBits + (quotient.log2 - format.fractionBits) = quotient.log2 by omega]
      exact .inr (Nat.log2_self_le nonzero)

theorem units_nearest :
    format.units (format.nearest numerator denominator) =
      nearestQuotient (numerator * 2 ^ format.scale) (format.step numerator denominator) *
        2 ^ format.dropped numerator denominator := by
  obtain ⟨short, normal⟩ := format.significand_bounds numerator denominator
  have lower := div_le_nearestQuotient (numerator * 2 ^ format.scale)
    (format.step numerator denominator)
  have upper := nearestQuotient_le_div_add_one (numerator * 2 ^ format.scale)
    (format.step numerator denominator)
  exact format.units_of_significand (Nat.le_trans upper short)
    (normal.imp id fun full => Nat.le_trans full lower)

theorem nearest_mod_two (wide : 0 < format.fractionBits) :
    format.nearest numerator denominator % 2 =
      nearestQuotient (numerator * 2 ^ format.scale) (format.step numerator denominator) % 2 := by
  have evenField : 2 ∣ format.dropped numerator denominator * 2 ^ format.fractionBits :=
    Dvd.dvd.mul_left (dvd_pow_self 2 (by omega)) _
  have fields : format.nearest numerator denominator =
      format.dropped numerator denominator * 2 ^ format.fractionBits +
        nearestQuotient (numerator * 2 ^ format.scale) (format.step numerator denominator) := rfl
  omega

variable {numerator denominator}

theorem dist_nearest_of_dvd (wide : 0 < format.fractionBits) (positive : 0 < denominator)
    {other : Nat} (ends : 2 ^ format.dropped numerator denominator ∣ format.units other) :
    let near := Nat.dist (format.units (format.nearest numerator denominator) * denominator)
      (numerator * 2 ^ format.scale)
    let far := Nat.dist (format.units other * denominator) (numerator * 2 ^ format.scale)
    near ≤ far ∧ (far = near →
      other = format.nearest numerator denominator ∨
        format.nearest numerator denominator % 2 = 0) := by
  obtain ⟨multiple, value⟩ := ends
  have stepPositive : 0 < format.step numerator denominator :=
    Nat.mul_pos positive (Nat.two_pow_pos _)
  -- Counted in steps of the last digit that is kept, the choice is that of the quotient.
  have inSteps (number : Nat) :
      number * 2 ^ format.dropped numerator denominator * denominator =
        number * format.step numerator denominator := by
    rw [step]
    ring
  rw [format.nearest_mod_two numerator denominator wide, format.units_nearest, inSteps, value,
    Nat.mul_comm (2 ^ _) multiple, inSteps]
  obtain ⟨near, even⟩ :=
    nearestQuotient_spec (numerator * 2 ^ format.scale) stepPositive multiple
  refine ⟨near, fun same => (even same).imp (fun equal => ?_) id⟩
  apply format.strictMono_units.injective
  rw [format.units_nearest, value, ← equal, Nat.mul_comm]

/-- The other magnitudes lie below the least significand of full length, which rounding could
have given. -/
theorem dist_nearest_lt_of_not_dvd (positive : 0 < denominator) {other : Nat}
    (finer : ¬2 ^ format.dropped numerator denominator ∣ format.units other) :
    Nat.dist (format.units (format.nearest numerator denominator) * denominator)
        (numerator * 2 ^ format.scale) <
      Nat.dist (format.units other * denominator) (numerator * 2 ^ format.scale) := by
  have stepPositive : 0 < format.step numerator denominator :=
    Nat.mul_pos positive (Nat.two_pow_pos _)
  have full := (format.significand_bounds numerator denominator).2.resolve_left fun none =>
    finer (by rw [none]; exact Nat.one_dvd _)
  have reached : 2 ^ format.fractionBits * format.step numerator denominator ≤
      numerator * 2 ^ format.scale := (Nat.le_div_iff_mul_le stepPositive).1 full
  have small : format.units other <
      2 ^ (format.fractionBits + format.dropped numerator denominator) :=
    Nat.lt_of_not_le fun large => finer (format.dvd_units_of_le large)
  have less : format.units other * denominator <
      2 ^ format.fractionBits * format.step numerator denominator := by
    have scaled := Nat.mul_lt_mul_of_pos_right small positive
    rwa [Nat.pow_add, Nat.mul_assoc, Nat.mul_comm (2 ^ format.dropped _ _)] at scaled
  -- Rounding is no farther off than the least significand of full length, and `other` is below it.
  have near := (nearestQuotient_spec (numerator * 2 ^ format.scale) stepPositive
    (2 ^ format.fractionBits)).1
  rw [format.units_nearest, Nat.mul_assoc, Nat.mul_comm (2 ^ format.dropped _ _)]
  refine Nat.lt_of_le_of_lt near ?_
  rw [Nat.dist_eq_sub_of_le reached, Nat.dist_eq_sub_of_le (by omega)]
  omega

/-- Rounding is correct: it gives a nearest magnitude, and of two the one with the even
significand. -/
theorem isNearest_nearest (wide : 0 < format.fractionBits) (positive : 0 < denominator) :
    format.IsNearest (format.nearest numerator denominator) numerator denominator := by
  constructor
  · intro other
    by_cases ends : 2 ^ format.dropped numerator denominator ∣ format.units other
    · exact (format.dist_nearest_of_dvd wide positive ends).1
    · exact Nat.le_of_lt (format.dist_nearest_lt_of_not_dvd positive ends)
  · intro other same
    by_cases ends : 2 ^ format.dropped numerator denominator ∣ format.units other
    · exact (format.dist_nearest_of_dvd wide positive ends).2 same
    · exact absurd same (Nat.ne_of_gt (format.dist_nearest_lt_of_not_dvd positive ends))

end Nearest

namespace IsNearest

variable {format} {ordinal numerator denominator : Nat}

/-- A quotient that is a magnitude has no other one that is nearest. -/
theorem eq_of_units_eq (nearest : format.IsNearest ordinal numerator denominator)
    (positive : 0 < denominator) {other : Nat}
    (value : format.units other * denominator = numerator * 2 ^ format.scale) :
    ordinal = other := by
  have least := nearest.near other
  rw [value, Nat.dist_self, Nat.le_zero] at least
  have same := (Nat.eq_of_dist_eq_zero least).trans value.symm
  exact format.strictMono_units.injective (Nat.eq_of_mul_eq_mul_right positive same)

theorem le_of_units_le (nearest : format.IsNearest ordinal numerator denominator)
    (positive : 0 < denominator) {bound : Nat}
    (reached : format.units bound * denominator ≤ numerator * 2 ^ format.scale) :
    bound ≤ ordinal := by
  by_contra less
  have smaller : format.units ordinal * denominator < format.units bound * denominator :=
    Nat.mul_lt_mul_of_pos_right (format.strictMono_units (Nat.lt_of_not_le less)) positive
  have least := nearest.near bound
  rw [Nat.dist_eq_sub_of_le reached, Nat.dist_eq_sub_of_le (by omega)] at least
  omega

theorem le_of_le_units (nearest : format.IsNearest ordinal numerator denominator)
    (positive : 0 < denominator) {bound : Nat}
    (reached : numerator * 2 ^ format.scale ≤ format.units bound * denominator) :
    ordinal ≤ bound := by
  by_contra more
  have greater : format.units bound * denominator < format.units ordinal * denominator :=
    Nat.mul_lt_mul_of_pos_right (format.strictMono_units (Nat.lt_of_not_le more)) positive
  have least := nearest.near bound
  rw [Nat.dist_eq_sub_of_le_right reached, Nat.dist_eq_sub_of_le_right (by omega)] at least
  omega

end IsNearest

end BinaryFormat

end Phrasebook
