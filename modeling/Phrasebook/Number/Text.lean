import Phrasebook.Number.Shortest

/-! Floating-point numbers as text, always with the fewest digits that read back.

The display form puts every digit in its place and has no point on whole
numbers; of two nearest decimals it takes the greater. The JSON form always has a
point or an exponent; of two nearest decimals it takes the even one.
-/

set_option autoImplicit false

namespace Phrasebook

def Decimal.scientific (decimal : Decimal) : List Char :=
  let exponent := decimal.leading
  let mantissa := match Numeral.ofNat decimal.coefficient with
    | first :: second :: rest => first :: '.' :: second :: rest
    | digits => digits
  mantissa ++ 'e' :: (if exponent < 0 then '-' else '+') :: Numeral.ofNat exponent.natAbs

/-- Positional from the fifth place behind the point up to sixteen digits before
it, and scientific outside this range. -/
def Decimal.json (decimal : Decimal) : List Char :=
  if -5 ≤ decimal.leading ∧ decimal.leading ≤ 15 then
    decimal.positional ++ if decimal.places = 0 then ['.', '0'] else []
  else decimal.scientific

namespace Binary64

def signed (negative : Bool) (text : List Char) : List Char :=
  if negative then '-' :: text else text

def displayed (ordinal : Nat) : Decimal := Shortest.decimal .greater ordinal

def display : Binary64 → String
  | .nan => "NaN"
  | .infinity negative => String.ofList (signed negative "inf".toList)
  | .finite negative ordinal =>
    String.ofList (signed negative (displayed ordinal).positional)

def json? : Binary64 → Option String
  | .finite negative ordinal =>
    some (String.ofList (signed negative (Shortest.decimal .even ordinal).json))
  | _ => none

end Binary64

end Phrasebook
