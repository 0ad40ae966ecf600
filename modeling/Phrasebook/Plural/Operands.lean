import Phrasebook.Number.Text

/-! The operands of cardinal plural rules.

The names are those of the rules: `i` is the whole part of the number, `v` and
`w` count the visible fraction digits with and without trailing zeros, and `f`
and `t` are those digits read as numbers. The sign is dropped.
-/

set_option autoImplicit false

namespace Phrasebook

structure Operands where
  i : Nat
  v : Nat
  w : Nat
  f : Nat
  t : Nat
  deriving DecidableEq, Repr

namespace Operands

def ofNat (number : Nat) : Operands := ⟨number, 0, 0, 0, 0⟩

def digitLimit : Nat := 18

/-- A whole part of more digits keeps the last eighteen, with a one in front that
tells it from a number that has only these. -/
def limitWhole (whole : Nat) : Nat :=
  if whole < 10 ^ digitLimit then whole else 10 ^ digitLimit + whole % 10 ^ digitLimit

def trimZeros : (count number : Nat) → Nat × Nat
  | 0, _ => (0, 0)
  | count + 1, number =>
    if number % 10 = 0 then trimZeros count (number / 10) else (count + 1, number)

/-- The operands of a decimal, with at most eighteen digits on each side. -/
def ofDecimal (decimal : Decimal) : Operands :=
  let visible := min decimal.places digitLimit
  let fraction := decimal.fraction / 10 ^ (decimal.places - digitLimit)
  let trimmed := trimZeros visible fraction
  ⟨limitWhole decimal.whole, visible, trimmed.1, fraction, trimmed.2⟩

def exactLimit : Nat := 2 ^ 53

/-- A whole number below the limit is its own operand. Any other finite number is
taken from the decimal that is displayed for it, so its visible digits count. -/
def ofNumber? (number : Binary64) : Option Operands :=
  match number with
  | .finite _ ordinal =>
    match number.whole? with
    | some whole =>
      if whole.magnitude < exactLimit then some (ofNat whole.magnitude)
      else some (ofDecimal (Binary64.displayed ordinal))
    | none => some (ofDecimal (Binary64.displayed ordinal))
  | _ => none

end Operands

end Phrasebook
