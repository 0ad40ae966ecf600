import Phrasebook.Number.Numeral

/-! Decimal magnitudes.

A decimal is a whole coefficient times a power of ten. Its whole part and its
fraction digits are computed on natural numbers, so they are exact however many
digits there are.
-/

set_option autoImplicit false

namespace Phrasebook

/-- The magnitude `coefficient * 10 ^ exponent`. -/
structure Decimal where
  coefficient : Nat
  exponent : Int
  deriving DecidableEq, Repr

namespace Decimal

def zero : Decimal := ⟨0, 0⟩

def places (decimal : Decimal) : Nat := (-decimal.exponent).toNat

def shifted (decimal : Decimal) : Nat := decimal.coefficient * 10 ^ decimal.exponent.toNat

def whole (decimal : Decimal) : Nat := decimal.shifted / 10 ^ decimal.places

/-- The digits behind the point, read as a number of `places` digits. -/
def fraction (decimal : Decimal) : Nat := decimal.shifted % 10 ^ decimal.places

theorem fraction_lt (decimal : Decimal) : decimal.fraction < 10 ^ decimal.places :=
  Nat.mod_lt _ (Nat.pow_pos (by decide))

theorem whole_fraction (decimal : Decimal) :
    10 ^ decimal.places * decimal.whole + decimal.fraction = decimal.shifted :=
  Nat.div_add_mod _ _

/-- The exponent of ten of the leading digit. -/
def leading (decimal : Decimal) : Int :=
  (Numeral.ofNat decimal.coefficient).length - 1 + decimal.exponent

def positional (decimal : Decimal) : List Char :=
  Numeral.ofNat decimal.whole ++
    if decimal.places = 0 then []
    else '.' :: Numeral.padded decimal.places decimal.fraction

end Decimal

end Phrasebook
