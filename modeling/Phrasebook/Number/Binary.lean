import Phrasebook.Number.Instances

/-! Binary floating-point numbers.

A format lists its finite magnitudes in increasing order, zero first. The place
of a magnitude in that list is its ordinal: the exponent field above the
fraction field. Subnormal and normal magnitudes follow each other without a gap,
so a significand that rounds up to the next power of two carries into the
exponent field by itself, and the first ordinal past the list is the infinity.

Every magnitude is a whole number of units, the unit being the least positive
magnitude. Comparison, remainders and rounding are exact on units.
-/

set_option autoImplicit false

namespace Phrasebook

/-- The whole number nearest to a quotient; a tie goes to the even neighbour. -/
def nearestQuotient (numerator denominator : Nat) : Nat :=
  let quotient := numerator / denominator
  let remainder := numerator % denominator
  if denominator < 2 * remainder ∨ (denominator = 2 * remainder ∧ quotient % 2 = 1) then
    quotient + 1
  else quotient

/-- A binary interchange format: the width of the fraction field, the number of
exponent fields that stand for finite magnitudes, and the unit `2 ^ -scale`. -/
structure BinaryFormat where
  fractionBits : Nat
  exponents : Nat
  scale : Nat

namespace BinaryFormat

def single : BinaryFormat := ⟨23, 255, 149⟩

def double : BinaryFormat := ⟨52, 2047, 1074⟩

/-- The number of finite magnitudes, and the ordinal of the infinity. -/
def limit (format : BinaryFormat) : Nat := format.exponents * 2 ^ format.fractionBits

/-- The magnitude with the given ordinal, counted in units. -/
def units (format : BinaryFormat) (ordinal : Nat) : Nat :=
  let field := ordinal / 2 ^ format.fractionBits
  let fraction := ordinal % 2 ^ format.fractionBits
  if field = 0 then fraction else (2 ^ format.fractionBits + fraction) * 2 ^ (field - 1)

/-- The ordinal of the magnitude nearest to a quotient. Ties go to the even
significand, and ordinals from `limit` on mean that the quotient is out of range. -/
def nearest (format : BinaryFormat) (numerator denominator : Nat) : Nat :=
  let scaled := numerator * 2 ^ format.scale
  let shift := (scaled / denominator).log2 - format.fractionBits
  shift * 2 ^ format.fractionBits + nearestQuotient scaled (denominator * 2 ^ shift)

def product (format : BinaryFormat) (first second : Nat) : Nat :=
  format.nearest (format.units first * format.units second) (2 ^ format.scale * 2 ^ format.scale)

def quotient (format : BinaryFormat) (first second : Nat) : Nat :=
  format.nearest (format.units first) (format.units second)

end BinaryFormat

/-- A double-precision number. All values that are not numbers are one. -/
inductive Binary64 where
  | nan
  | infinity (negative : Bool)
  | finite (negative : Bool) (ordinal : Fin BinaryFormat.double.limit)
  deriving DecidableEq

namespace Binary64

def ofOrdinal (negative : Bool) (ordinal : Nat) : Binary64 :=
  if inRange : ordinal < BinaryFormat.double.limit then .finite negative ⟨ordinal, inRange⟩
  else .infinity negative

def ofQuotient (negative : Bool) (numerator denominator : Nat) : Binary64 :=
  ofOrdinal negative (BinaryFormat.double.nearest numerator denominator)

def ofInt (number : Int) : Binary64 := ofQuotient (number < 0) number.natAbs 1

def ofSingle (negative : Bool) (ordinal : Nat) : Binary64 :=
  if ordinal < BinaryFormat.single.limit then
    ofQuotient negative (BinaryFormat.single.units ordinal) (2 ^ BinaryFormat.single.scale)
  else .infinity negative

def isFinite : Binary64 → Bool
  | .finite _ _ => true
  | _ => false

def neg : Binary64 → Binary64
  | .nan => .nan
  | .infinity negative => .infinity (!negative)
  | .finite negative ordinal => .finite (!negative) ordinal

def unitsPerOne : Nat := 2 ^ BinaryFormat.double.scale

/-- A finite number that has no fraction. The sign of zero is kept. -/
structure Whole where
  negative : Bool
  magnitude : Nat
  deriving DecidableEq, Repr

def whole? : Binary64 → Option Whole
  | .finite negative ordinal =>
    let units := BinaryFormat.double.units ordinal
    if units % unitsPerOne = 0 then some ⟨negative, units / unitsPerOne⟩ else none
  | _ => none

end Binary64

end Phrasebook
