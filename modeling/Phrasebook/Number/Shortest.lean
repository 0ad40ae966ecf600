import Phrasebook.Number.Binary
import Phrasebook.Number.Decimal

/-! The shortest decimal that reads back as a given magnitude.

The decimals that round to a magnitude form an interval between the midpoints to
its two neighbours; the midpoints belong to it when the significand is even. If
a grid of decimals meets the interval then it does so at one of the two grid
points around the magnitude. The grids are tried from coarse to fine, so the
first hit has the fewest digits, and of two hits the nearer is taken. Which one it
is when they are equally near is up to the writer.
-/

set_option autoImplicit false

namespace Phrasebook

/-- Which of two equally near decimals is taken: the greater one, or the one whose
last digit is even. -/
inductive Tie where
  | greater
  | even
  deriving DecidableEq, Repr

namespace Shortest

def units (ordinal : Nat) : Nat := BinaryFormat.double.units ordinal

def lower (ordinal : Nat) : Nat := units (ordinal - 1) + units ordinal

def upper (ordinal : Nat) : Nat := units ordinal + units (ordinal + 1)

def ReadsBack (ordinal : Nat) (decimal : Decimal) : Prop :=
  -- In half units the midpoints are whole numbers.
  let point := decimal.shifted * (2 * Binary64.unitsPerOne)
  let low := lower ordinal * 10 ^ decimal.places
  let high := upper ordinal * 10 ^ decimal.places
  (low < point ∧ point < high) ∨ (ordinal % 2 = 0 ∧ (low = point ∨ point = high))

instance (ordinal : Nat) (decimal : Decimal) : Decidable (ReadsBack ordinal decimal) := by
  unfold ReadsBack
  infer_instance

/-- The last point of the grid `10 ^ exponent` that does not exceed the magnitude. -/
def gridFloor (ordinal : Nat) (exponent : Int) : Nat :=
  units ordinal * 10 ^ (-exponent).toNat / (Binary64.unitsPerOne * 10 ^ exponent.toNat)

/-- Whether the next grid point goes before the floor: because the magnitude lies
nearer to it, or because of the tie. -/
def PrefersAbove (tie : Tie) (ordinal : Nat) (exponent : Int) : Prop :=
  let floor := gridFloor ordinal exponent
  let middle := (2 * floor + 1) * (Binary64.unitsPerOne * 10 ^ exponent.toNat)
  let magnitude := 2 * (units ordinal * 10 ^ (-exponent).toNat)
  middle < magnitude ∨ (middle = magnitude ∧ (tie = .greater ∨ floor % 2 = 1))

instance (tie : Tie) (ordinal : Nat) (exponent : Int) :
    Decidable (PrefersAbove tie ordinal exponent) := by
  unfold PrefersAbove
  infer_instance

/-- The nearest point of one grid that reads back. -/
def onGrid? (tie : Tie) (ordinal : Nat) (exponent : Int) : Option Decimal :=
  let below : Decimal := ⟨gridFloor ordinal exponent, exponent⟩
  let above : Decimal := ⟨gridFloor ordinal exponent + 1, exponent⟩
  if PrefersAbove tie ordinal exponent then [above, below].find? (ReadsBack ordinal ·)
  else [below, above].find? (ReadsBack ordinal ·)

/-- The exponent of ten of the leading digit of a positive magnitude. The least
magnitude is above `10 ^ -343`, so the scaled whole part is never zero. -/
def leading (ordinal : Nat) : Int :=
  (Numeral.ofNat (units ordinal * 10 ^ 343 / Binary64.unitsPerOne)).length - 1 - 343

def exact (ordinal : Nat) : Decimal :=
  ⟨units ordinal * 5 ^ BinaryFormat.double.scale, -BinaryFormat.double.scale⟩

/-- The grids from one step above the leading digit down to its seventeenth
digit are enough for every magnitude. -/
def decimal (tie : Tie) (ordinal : Nat) : Decimal :=
  if ordinal = 0 then .zero
  else
    let coarsest := leading ordinal + 1
    ((List.range 18).findSome? fun (digits : Nat) =>
      onGrid? tie ordinal (coarsest - digits)).getD (exact ordinal)

end Shortest

end Phrasebook
