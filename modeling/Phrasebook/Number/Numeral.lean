import Phrasebook.Number.Instances

/-! Decimal numerals.

A natural number is written without leading zeros and read with any number of
them, so reading inverts writing. Signed and bounded readers refuse a number
outside their range instead of wrapping it.
-/

set_option autoImplicit false

namespace Phrasebook.Numeral

/-- The digits of a natural number, most significant first. -/
def ofNat (number : Nat) : List Char := Nat.toDigits 10 number

def value (digits : List Char) : Nat := Nat.ofDigitChars 10 digits 0

def IsDigits (text : List Char) : Prop := text ≠ [] ∧ ∀ character ∈ text, character.isDigit = true

instance (text : List Char) : Decidable (IsDigits text) :=
  decidable_of_iff ((!text.isEmpty && text.all Char.isDigit) = true) (by simp [IsDigits])

theorem ofNat_isDigits (number : Nat) : IsDigits (ofNat number) :=
  ⟨List.ne_nil_of_length_pos Nat.length_toDigits_pos,
    fun _ member => Nat.isDigit_of_mem_toDigits (by decide) (by decide) member⟩

@[simp] theorem value_ofNat (number : Nat) : value (ofNat number) = number :=
  Nat.ofDigitChars_toDigits (by decide) (by decide)

def readNat (text : List Char) : Option Nat :=
  if IsDigits text then some (value text) else none

@[simp] theorem readNat_ofNat (number : Nat) : readNat (ofNat number) = some number := by
  simp [readNat, ofNat_isDigits]

/-- A digit string with an optional plus sign whose value lies below `limit`. -/
def readBelow (limit : Nat) (text : List Char) : Option Nat :=
  let digits := match text with
    | '+' :: rest => rest
    | _ => text
  (readNat digits).filter (· < limit)

theorem ofNat_head_ne {number : Nat} {character : Char} {rest : List Char}
    (shape : ofNat number = character :: rest) (other : character.isDigit = false) : False := by
  have digit := (ofNat_isDigits number).2 character (by simp [shape])
  simp [other] at digit

theorem readBelow_ofNat {limit number : Nat} (below : number < limit) :
    readBelow limit (ofNat number) = some number := by
  unfold readBelow
  split
  · next rest shape => exact (ofNat_head_ne shape (by decide)).elim
  · simp [below]

def ofInt : Int → List Char
  | .ofNat number => ofNat number
  | .negSucc number => '-' :: ofNat (number + 1)

def readInt (text : List Char) : Option Int :=
  match text with
  | '-' :: digits => (readNat digits).map fun number => -(number : Int)
  | '+' :: digits => (readNat digits).map Int.ofNat
  | digits => (readNat digits).map Int.ofNat

def readInt64 (text : List Char) : Option Int64 :=
  (readInt text).bind fun number =>
    if Int64.minValue.toInt ≤ number ∧ number ≤ Int64.maxValue.toInt then
      some (Int64.ofInt number)
    else none

def display (number : Nat) : String := String.ofList (ofNat number)

def padded (width number : Nat) : List Char :=
  let digits := ofNat number
  List.replicate (width - digits.length) '0' ++ digits

end Phrasebook.Numeral
