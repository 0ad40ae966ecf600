import Phrasebook.Number.Binary
import Phrasebook.Number.Decimal

/-! Reading floating-point numbers from text.

A number is an optional sign and then either a word for infinity or for "not a
number", in any case, or decimal digits with an optional point and an optional
exponent. At least one digit stands before or behind the point. The decimal is
rounded once, to the nearest number of the wanted format.
-/

set_option autoImplicit false

namespace Phrasebook

/-- What a numeric text names, before it is rounded to a format. -/
inductive Numeric where
  | nan
  | infinity (negative : Bool)
  | decimal (negative : Bool) (magnitude : Decimal)
  deriving DecidableEq, Repr

namespace Numeric

def readExponent : List Char → Option Int := Numeral.readInt

def readMagnitude (text : List Char) : Option Decimal :=
  let whole := text.takeWhile Char.isDigit
  let afterWhole := text.dropWhile Char.isDigit
  let behindPoint := match afterWhole with
    | '.' :: rest => rest
    | _ => []
  let fraction := behindPoint.takeWhile Char.isDigit
  let afterFraction := match afterWhole with
    | '.' :: rest => rest.dropWhile Char.isDigit
    | _ => afterWhole
  let coefficient := Numeral.value (whole ++ fraction)
  if whole = [] ∧ fraction = [] then none
  else match afterFraction with
    | [] => some ⟨coefficient, -fraction.length⟩
    | letter :: rest =>
      if letter = 'e' ∨ letter = 'E' then
        (readExponent rest).map fun exponent => ⟨coefficient, exponent - fraction.length⟩
      else none

def readUnsigned (negative : Bool) (text : List Char) : Option Numeric :=
  let word := text.map Char.toLower
  if word = "inf".toList ∨ word = "infinity".toList then some (.infinity negative)
  else if word = "nan".toList then some .nan
  else (readMagnitude text).map (.decimal negative)

def read (text : List Char) : Option Numeric :=
  match text with
  | '-' :: rest => readUnsigned true rest
  | '+' :: rest => readUnsigned false rest
  | _ => readUnsigned false text

end Numeric

/-- The ordinal nearest to a decimal. A decimal far outside the range is settled
by the place of its leading digit, so its power of ten is never formed. -/
def BinaryFormat.ofDecimal (format : BinaryFormat) (decimal : Decimal) : Nat :=
  if decimal.coefficient = 0 then 0
  else if 400 < decimal.leading then format.limit
  else if decimal.leading < -400 then 0
  else format.nearest decimal.shifted (10 ^ decimal.places)

namespace Binary64

def ofNumeric : Numeric → Binary64
  | .nan => .nan
  | .infinity negative => .infinity negative
  | .decimal negative magnitude =>
    ofOrdinal negative (BinaryFormat.double.ofDecimal magnitude)

def read (text : List Char) : Option Binary64 := (Numeric.read text).map ofNumeric

def readSingle (text : List Char) : Option Binary64 :=
  (Numeric.read text).map fun
    | .nan => .nan
    | .infinity negative => .infinity negative
    | .decimal negative magnitude =>
      ofSingle negative (BinaryFormat.single.ofDecimal magnitude)

end Binary64

end Phrasebook
