import Phrasebook.Number.Reading
import Phrasebook.Number.Text
import Phrasebook.Text.Blank
import Std.Data.ExtTreeMap

/-! Parameter values.

A value can be shown, can stand for a count and can select a variant by position.
-/

set_option autoImplicit false

namespace Phrasebook

inductive Value where
  | integer (number : Int64)
  | float (number : Binary64)
  | text (content : String)
  deriving DecidableEq

namespace Value

/-- A number beyond the range of integer values becomes the greatest of them. -/
def ofNat (number : Nat) : Value :=
  .integer (Int64.ofInt (min (number : Int) Int64.maxValue.toInt))

def integer? : Value → Option Int64
  | .integer number => some number
  | _ => none

def float? : Value → Option Binary64
  | .integer number => some (Binary64.ofInt number.toInt)
  | .float number => some number
  | .text _ => none

def text? : Value → Option String
  | .text content => some content
  | _ => none

def display : Value → String
  | .integer number => String.ofList (Numeral.ofInt number.toInt)
  | .float number => number.display
  | .text content => content

/-- The number a value counts as. A text is read without the blanks around it,
and one that is no number counts as `nan`. -/
def count : Value → Binary64
  | .integer number => Binary64.ofInt number.toInt
  | .float number => number
  | .text content => (Binary64.read (Text.trim content.toList)).getD .nan

/-- The position a value selects: a whole number that is not negative. A
floating-point number has to fit in 32 bits and a text in 64. -/
def position? : Value → Option Nat
  | .integer number => if 0 ≤ number.toInt then some number.toInt.toNat else none
  | .float number => number.whole?.bind fun whole =>
    if (whole.negative = false ∨ whole.magnitude = 0) ∧ whole.magnitude < 2 ^ 32 then
      some whole.magnitude
    else none
  | .text content => Numeral.readBelow (2 ^ 64) content.toList

end Value

abbrev Parameters := Std.ExtTreeMap String Value

end Phrasebook
