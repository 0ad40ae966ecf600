import Phrasebook.Json.Fault

/-! Numbers in JSON text.

Digits are kept as long as their number fits in 64 bits; those of the whole part
that are left out still count for the exponent. A number with a point, an
exponent or too many digits is real: its kept digits are rounded and then scaled
by a power of ten, which is rounded too.
-/

set_option autoImplicit false

namespace Phrasebook.Json

abbrev Reader (α : Type) := List Char → Except Fault (α × List Char)

namespace Number

/-- Append digits to a number while it fits in 64 bits. Answers the number and
how many digits were kept. -/
def keepDigits (number : Nat) : List Char → Nat × Nat
  | [] => (number, 0)
  | digit :: rest =>
    let next := number * 10 + (digit.toNat - '0'.toNat)
    if next < 2 ^ 64 then
      let kept := keepDigits next rest
      (kept.1, kept.2 + 1)
    else (number, 0)

/-- A whole number times a power of ten, as an ordinal; nothing if it is out of
range. Powers of ten above the 308th are not representable, so a smaller number
is scaled in two steps, and below twice that nothing is left of it. -/
def scale (number : Nat) (exponent : Int) : Option Nat :=
  let format := BinaryFormat.double
  let rounded := format.nearest number 1
  let power (exponent : Nat) : Nat := format.nearest (10 ^ exponent) 1
  let inRange (ordinal : Nat) : Option Nat := if ordinal < format.limit then some ordinal else none
  if 308 < exponent then if number = 0 then some 0 else none
  else if 0 ≤ exponent then inRange (format.product rounded (power exponent.toNat))
  else if -308 ≤ exponent then some (format.quotient rounded (power (-exponent).toNat))
  else if -616 ≤ exponent then
    some (format.quotient (format.quotient rounded (power 308)) (power (-exponent - 308).toNat))
  else some 0

def finish (negative : Bool) (number : Nat) (exponent : Int) : Reader Json := fun rest =>
  match scale number exponent with
  | some ordinal => .ok (.real (Binary64.ofOrdinal negative ordinal), rest)
  | none => .error (.before .outOfRange rest)

def exponentLimit : Nat := 2 ^ 31

/-- The digits of an exponent. An exponent beyond the limit gives nothing and the
text behind the digit that went beyond. -/
def readExponentDigits (exponent : Nat) : List Char → Option Nat × List Char
  | [] => (some exponent, [])
  | digit :: rest =>
    if digit.isDigit then
      let next := exponent * 10 + (digit.toNat - '0'.toNat)
      if next < exponentLimit then readExponentDigits next rest else (none, rest)
    else (some exponent, digit :: rest)

def readExponent (negative : Bool) (number : Nat) (base : Int) : Reader Json := fun text =>
  let descending := text.head? == some '-'
  let digits := match text with
    | '+' :: rest => rest
    | '-' :: rest => rest
    | _ => text
  match digits with
  | [] => .error (.before .endInValue [])
  | first :: _ =>
    if first.isDigit then
      match readExponentDigits 0 digits with
      | (some exponent, rest) =>
        finish negative number (if descending then base - exponent else base + exponent) rest
      | (none, rest) =>
        -- Zero stays zero, and so negative a power of ten leaves nothing of any number.
        if number ≠ 0 ∧ !descending then .error (.before .outOfRange rest)
        else .ok (.real (Binary64.ofOrdinal negative 0), rest.dropWhile Char.isDigit)
    else .error (.past .invalidNumber digits)

def readOptionalExponent (negative : Bool) (number : Nat) (base : Int) : Reader Json := fun text =>
  match text with
  | letter :: rest =>
    if letter = 'e' ∨ letter = 'E' then readExponent negative number base rest
    else finish negative number base text
  | [] => finish negative number base []

def readFraction (negative : Bool) (number : Nat) (base : Int) : Reader Json := fun text =>
  let digits := text.takeWhile Char.isDigit
  if digits = [] then
    .error (if text = [] then .before .endInValue [] else .past .invalidNumber text)
  else
    let kept := keepDigits number digits
    readOptionalExponent negative kept.1 (base - kept.2) (text.dropWhile Char.isDigit)

/-- The integer with the given digits. Minus zero and integers below the 64-bit
range are real. -/
def ofDigits (negative : Bool) (number : Nat) : Json :=
  if negative then
    if number ≠ 0 ∧ number ≤ 2 ^ 63 then .integer (-(number : Int))
    else .real (Binary64.ofOrdinal true (BinaryFormat.double.nearest number 1))
  else .integer number

def readUnsigned (negative : Bool) : Reader Json := fun text =>
  let digits := text.takeWhile Char.isDigit
  let rest := text.dropWhile Char.isDigit
  match text, digits with
  | [], _ => .error (.before .endInValue [])
  | _, [] => .error (.past .invalidNumber text)
  | _, '0' :: _ :: _ => .error (.past .invalidNumber text.tail)
  | _, digits =>
    let kept := keepDigits 0 digits
    let dropped : Int := (digits.length - kept.2 : Nat)
    match rest with
    | '.' :: fraction => readFraction negative kept.1 dropped fraction
    | letter :: exponent =>
      if letter = 'e' ∨ letter = 'E' then readExponent negative kept.1 dropped exponent
      else if dropped = 0 then .ok (ofDigits negative kept.1, rest)
      else finish negative kept.1 dropped rest
    | [] =>
      if dropped = 0 then .ok (ofDigits negative kept.1, [])
      else finish negative kept.1 dropped []

def read : Reader Json := fun text =>
  match text with
  | '-' :: rest => readUnsigned true rest
  | _ => readUnsigned false text

end Number

end Phrasebook.Json
