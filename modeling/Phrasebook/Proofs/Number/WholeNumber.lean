import Phrasebook.Proofs.Number.Rounding

/-! Whole numbers in double precision.

Every whole number up to `2 ^ 53` is a double, and every double from `2 ^ 52` on is whole.
So an integer converts to a whole number, which is the integer itself if that is a double.
-/

set_option autoImplicit false

namespace Phrasebook.Binary64

theorem unitsPerOne_pos : 0 < unitsPerOne := Nat.two_pow_pos _

/-- Every whole number of at most 53 bits, with any zeros behind them, is a magnitude. -/
theorem exists_units_eq_whole {significand : Nat} (short : significand ≤ 2 ^ 53) (zeros : Nat) :
    ∃ ordinal, BinaryFormat.double.units ordinal = significand * 2 ^ zeros * unitsPerOne := by
  obtain ⟨ordinal, value⟩ :=
    BinaryFormat.double.exists_units_eq short (zeros + BinaryFormat.double.scale)
  rw [Nat.pow_add, ← Nat.mul_assoc] at value
  exact ⟨ordinal, value⟩

theorem exists_units_eq_small {number : Nat} (small : number ≤ 2 ^ 53) :
    ∃ ordinal, BinaryFormat.double.units ordinal = number * unitsPerOne := by
  simpa using exists_units_eq_whole small 0

/-- Every magnitude from `2 ^ 52` on is whole. -/
theorem unitsPerOne_dvd_of_le {ordinal : Nat}
    (large : 2 ^ 52 * unitsPerOne ≤ BinaryFormat.double.units ordinal) :
    unitsPerOne ∣ BinaryFormat.double.units ordinal := by
  have bits : BinaryFormat.double.fractionBits = 52 := rfl
  have place : 2 ^ (BinaryFormat.double.fractionBits + BinaryFormat.double.scale) =
      2 ^ 52 * unitsPerOne := by
    rw [Nat.pow_add, bits, unitsPerOne]
  rw [← place] at large
  exact BinaryFormat.double.dvd_units_of_le large

theorem whole?_eq_some_iff {number : Binary64} {whole : Whole} :
    number.whole? = some whole ↔
      ∃ ordinal, number = .finite whole.negative ordinal ∧
        BinaryFormat.double.units ordinal = whole.magnitude * unitsPerOne := by
  obtain ⟨negative, magnitude⟩ := whole
  cases number with
  | nan => simp [whole?]
  | infinity sign => simp [whole?]
  | finite sign ordinal =>
    simp only [whole?, Option.ite_none_right_eq_some, Option.some.injEq, Whole.mk.injEq,
      finite.injEq]
    constructor
    · rintro ⟨divides, rfl, rfl⟩
      exact ⟨ordinal, ⟨rfl, rfl⟩, (Nat.div_mul_cancel (Nat.dvd_of_mod_eq_zero divides)).symm⟩
    · rintro ⟨_, ⟨rfl, rfl⟩, value⟩
      rw [value]
      exact ⟨Nat.mul_mod_left _ _, rfl, Nat.mul_div_cancel _ unitsPerOne_pos⟩

theorem whole?_finite_eq_none_iff {negative : Bool} {ordinal : Fin BinaryFormat.double.limit} :
    (finite negative ordinal).whole? = none ↔
      ¬unitsPerOne ∣ BinaryFormat.double.units ordinal := by
  simp [whole?, Nat.dvd_iff_mod_eq_zero]

section Integers

variable (number : Nat)

theorem isNearest_nearest_whole :
    BinaryFormat.double.IsNearest (BinaryFormat.double.nearest number 1) number 1 :=
  BinaryFormat.double.isNearest_nearest (by decide) Nat.one_pos

variable {number}

theorem eq_of_isNearest_of_units_eq {ordinal other : Nat}
    (nearest : BinaryFormat.double.IsNearest ordinal number 1)
    (value : BinaryFormat.double.units other = number * unitsPerOne) : ordinal = other :=
  nearest.eq_of_units_eq Nat.one_pos ((Nat.mul_one _).trans value)

theorem le_nearest_of_units_le {bound : Nat}
    (reached : BinaryFormat.double.units bound ≤ number * unitsPerOne) :
    bound ≤ BinaryFormat.double.nearest number 1 :=
  (isNearest_nearest_whole number).le_of_units_le Nat.one_pos
    (Nat.le_trans (Nat.le_of_eq (Nat.mul_one _)) reached)

theorem nearest_le_of_le_units {bound : Nat}
    (reached : number * unitsPerOne ≤ BinaryFormat.double.units bound) :
    BinaryFormat.double.nearest number 1 ≤ bound :=
  (isNearest_nearest_whole number).le_of_le_units Nat.one_pos
    (Nat.le_trans reached (Nat.le_of_eq (Nat.mul_one _).symm))

theorem unitsPerOne_dvd_units_nearest (number : Nat) :
    unitsPerOne ∣ BinaryFormat.double.units (BinaryFormat.double.nearest number 1) := by
  by_cases small : number ≤ 2 ^ 53
  · obtain ⟨other, value⟩ := exists_units_eq_small small
    rw [eq_of_isNearest_of_units_eq (isNearest_nearest_whole number) value, value]
    exact Nat.dvd_mul_left _ _
  · obtain ⟨bound, value⟩ := exists_units_eq_small (Nat.le_refl (2 ^ 53))
    have above : bound ≤ BinaryFormat.double.nearest number 1 := by
      apply le_nearest_of_units_le
      rw [value]
      exact Nat.mul_le_mul_right _ (Nat.le_of_not_le small)
    have grown := BinaryFormat.double.strictMono_units.monotone above
    rw [value] at grown
    exact unitsPerOne_dvd_of_le (Nat.le_trans (Nat.mul_le_mul_right _ (by decide)) grown)

theorem nearest_lt_limit (bounded : number ≤ 2 ^ 64) :
    BinaryFormat.double.nearest number 1 < BinaryFormat.double.limit := by
  obtain ⟨bound, value⟩ := exists_units_eq_whole (by decide : 1 ≤ 2 ^ 53) 64
  have below : BinaryFormat.double.nearest number 1 ≤ bound := by
    apply nearest_le_of_le_units
    rw [value, Nat.one_mul]
    exact Nat.mul_le_mul_right _ bounded
  have inside : bound < BinaryFormat.double.limit := by
    apply BinaryFormat.double.strictMono_units.lt_iff_lt.1
    rw [value, BinaryFormat.double.units_limit (by decide), Nat.one_mul, unitsPerOne,
      ← Nat.pow_add, ← Nat.pow_add]
    exact Nat.pow_lt_pow_right (by decide) (by decide)
  exact Nat.lt_of_le_of_lt below inside

/-- An integer converts to a whole number. No double is nearer to it, and another one is as
near only if the significand of the chosen one is even. -/
theorem exists_ofInt_natCast (bounded : number ≤ 2 ^ 64) :
    ∃ (ordinal : Fin BinaryFormat.double.limit) (whole : Nat),
      ofInt number = .finite false ordinal ∧
        BinaryFormat.double.IsNearest ordinal number 1 ∧
        BinaryFormat.double.units ordinal = whole * unitsPerOne := by
  obtain ⟨whole, value⟩ := unitsPerOne_dvd_units_nearest number
  refine ⟨⟨_, nearest_lt_limit bounded⟩, whole, ?_, isNearest_nearest_whole number, ?_⟩
  · rw [ofInt, Int.natAbs_natCast, ofQuotient, ofOrdinal, dif_pos (nearest_lt_limit bounded)]
    simp
  · rw [value, Nat.mul_comm]

end Integers

end Phrasebook.Binary64
