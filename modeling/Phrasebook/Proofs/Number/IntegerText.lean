import Mathlib.Data.List.TakeWhile
import Mathlib.Data.Nat.Digits.Defs
import Phrasebook.Number.Reading

/-! Texts of integers read as floating-point numbers.

A text that reads as an integer reads as a decimal without a fraction, and both are
rounded alike. Only zero with a minus sign is told apart, by its sign.
-/

set_option autoImplicit false

namespace Phrasebook

namespace Numeral

theorem readNat_eq_some_iff {text : List Char} {number : Nat} :
    readNat text = some number ↔ IsDigits text ∧ value text = number := by
  unfold readNat
  split <;> simp_all

theorem readInt_eq_some {text : List Char} {number : Int} (read : readInt text = some number) :
    ∃ digits, IsDigits digits ∧
      (text = '-' :: digits ∧ number = -(value digits : Int) ∨
        (text = '+' :: digits ∨ text = digits) ∧ number = value digits) := by
  unfold readInt at read
  split at read
  · next digits =>
    obtain ⟨magnitude, found, rfl⟩ : ∃ magnitude : Nat, readNat digits = some magnitude ∧
        -(magnitude : Int) = number := by
      simpa [Option.bind_eq_some_iff] using read
    obtain ⟨isDigits, rfl⟩ := readNat_eq_some_iff.1 found
    exact ⟨digits, isDigits, .inl ⟨rfl, rfl⟩⟩
  · next digits =>
    obtain ⟨magnitude, found, rfl⟩ := Option.map_eq_some_iff.1 read
    obtain ⟨isDigits, rfl⟩ := readNat_eq_some_iff.1 found
    exact ⟨digits, isDigits, .inr ⟨.inl rfl, rfl⟩⟩
  · obtain ⟨magnitude, found, rfl⟩ := Option.map_eq_some_iff.1 read
    obtain ⟨isDigits, rfl⟩ := readNat_eq_some_iff.1 found
    exact ⟨text, isDigits, .inr ⟨.inr rfl, rfl⟩⟩

theorem readInt64_eq_some {text : List Char} {number : Int64}
    (read : readInt64 text = some number) : readInt text = some number.toInt := by
  obtain ⟨whole, found, bounded⟩ := Option.bind_eq_some_iff.1 read
  split at bounded
  · next bounds =>
    obtain rfl := Option.some.inj bounded
    rw [found, Int64.toInt_ofInt_of_le bounds.1 (Int.lt_add_one_of_le bounds.2)]
  · contradiction

theorem readBelow_ofInt {limit : Nat} {number : Int} (below : number < limit) :
    readBelow limit (ofInt number) = if 0 ≤ number then some number.toNat else none := by
  cases number with
  | ofNat number => simpa using! readBelow_ofNat (by simpa using below)
  | negSucc number =>
    have unread : readNat ('-' :: ofNat (number + 1)) = none :=
      if_neg fun isDigits => absurd (isDigits.2 '-' List.mem_cons_self) (by decide)
    simp [ofInt, readBelow, unread]

end Numeral

namespace Numeric

variable {digits : List Char}

theorem toLower_of_isDigit {character : Char} (digit : character.isDigit = true) :
    character.toLower = character := by
  have most : character.toNat ≤ '9'.toNat := (Char.isDigit_iff_toNat.1 digit).2
  have noCapital : ¬(character.val ≥ 'A'.val ∧ character.val ≤ 'Z'.val) := fun capital =>
    absurd (Nat.le_trans capital.1 most) (by decide)
  exact dif_neg noCapital

/-- A text that starts with a digit is none of the words. -/
theorem readUnsigned_of_isDigit (negative : Bool) {first : Char} (digit : first.isDigit = true)
    (rest : List Char) :
    readUnsigned negative (first :: rest) =
      (readMagnitude (first :: rest)).map (.decimal negative) := by
  have word {letter : Char} {others : List Char} (outside : letter.isDigit = false) :
      (first :: rest).map Char.toLower ≠ letter :: others := by
    intro same
    have start := (List.cons.inj same).1
    rw [toLower_of_isDigit digit] at start
    rw [start, outside] at digit
    cases digit
  have noInfinity : ¬((first :: rest).map Char.toLower = "inf".toList ∨
      (first :: rest).map Char.toLower = "infinity".toList) :=
    not_or.2 ⟨word (by decide), word (by decide)⟩
  have noNan : (first :: rest).map Char.toLower ≠ "nan".toList := word (by decide)
  simp only [readUnsigned, if_neg noInfinity, if_neg noNan]

theorem read_of_isDigit {first : Char} (digit : first.isDigit = true) (rest : List Char) :
    read (first :: rest) = readUnsigned false (first :: rest) := by
  unfold read
  split
  · next shape =>
    rw [(List.cons.inj shape).1] at digit
    cases digit
  · next shape =>
    rw [(List.cons.inj shape).1] at digit
    cases digit
  · rfl

theorem readMagnitude_of_isDigits (isDigits : Numeral.IsDigits digits) :
    readMagnitude digits = some ⟨Numeral.value digits, 0⟩ := by
  simp [readMagnitude, List.takeWhile_eq_self_iff.2 isDigits.2,
    List.dropWhile_eq_nil_iff.2 isDigits.2, isDigits.1]

theorem readUnsigned_of_isDigits (negative : Bool) (isDigits : Numeral.IsDigits digits) :
    readUnsigned negative digits = some (.decimal negative ⟨Numeral.value digits, 0⟩) := by
  obtain ⟨first, rest, rfl⟩ := List.exists_cons_of_ne_nil isDigits.1
  rw [readUnsigned_of_isDigit negative (isDigits.2 first List.mem_cons_self),
    readMagnitude_of_isDigits isDigits, Option.map_some]

theorem read_digits (isDigits : Numeral.IsDigits digits) :
    read digits = some (.decimal false ⟨Numeral.value digits, 0⟩) := by
  obtain ⟨first, rest, rfl⟩ := List.exists_cons_of_ne_nil isDigits.1
  rw [read_of_isDigit (isDigits.2 first List.mem_cons_self)]
  exact readUnsigned_of_isDigits false isDigits

theorem read_of_readInt {text : List Char} {number : Int}
    (read : Numeral.readInt text = some number) :
    ∃ negative, Numeric.read text = some (.decimal negative ⟨number.natAbs, 0⟩) ∧
      (negative = decide (number < 0) ∨ number = 0) := by
  obtain ⟨digits, isDigits, ⟨rfl, rfl⟩ | ⟨rfl | rfl, rfl⟩⟩ := Numeral.readInt_eq_some read
  · refine ⟨true, ?_, ?_⟩
    · rw [Int.natAbs_neg, Int.natAbs_natCast]
      exact readUnsigned_of_isDigits true isDigits
    · simp
      omega
  · exact ⟨false, readUnsigned_of_isDigits false isDigits, .inl (by simp)⟩
  · exact ⟨false, read_digits isDigits, .inl (by simp)⟩

/-- The numeral of an integer keeps its sign, and that of zero has none. -/
theorem read_ofInt (number : Int) :
    read (Numeral.ofInt number) = some (.decimal (decide (number < 0)) ⟨number.natAbs, 0⟩) := by
  cases number with
  | ofNat number => simpa using! read_digits (Numeral.ofNat_isDigits number)
  | negSucc number =>
    simpa using! readUnsigned_of_isDigits true (Numeral.ofNat_isDigits (number + 1))

end Numeric

theorem BinaryFormat.nearest_zero (format : BinaryFormat) (denominator : Nat) :
    format.nearest 0 denominator = 0 := by
  simp [nearest, nearestQuotient]

theorem BinaryFormat.ofDecimal_whole (format : BinaryFormat) {number : Nat}
    (short : (Numeral.ofNat number).length ≤ 400) :
    format.ofDecimal ⟨number, 0⟩ = format.nearest number 1 := by
  have leading : -400 ≤ (Decimal.mk number 0).leading ∧ (Decimal.mk number 0).leading ≤ 400 := by
    simp only [Decimal.leading]
    omega
  rw [ofDecimal, if_neg (not_lt.2 leading.2), if_neg (not_lt.2 leading.1)]
  split
  · next zero =>
    obtain rfl : number = 0 := zero
    rw [nearest_zero]
  · simp [Decimal.shifted, Decimal.places]

namespace Binary64

/-- Equal numbers, or zeros with any signs. -/
inductive Same : Binary64 → Binary64 → Prop where
  | refl (number : Binary64) : Same number number
  | zeros (first second : Bool) : Same (ofOrdinal first 0) (ofOrdinal second 0)

theorem length_ofNat_natAbs_le (number : Int64) :
    (Numeral.ofNat number.toInt.natAbs).length ≤ 400 := by
  have lower := Int64.le_toInt number
  have upper := Int64.toInt_lt number
  have below : number.toInt.natAbs < 10 ^ 20 := by omega
  exact (Nat.toDigits_length 10 _ 20 (by decide) below).trans (by decide)

theorem read_ofInt (number : Int64) :
    Binary64.read (Numeral.ofInt number.toInt) = some (ofInt number.toInt) := by
  rw [Binary64.read, Numeric.read_ofInt, Option.map_some, ofNumeric,
    BinaryFormat.ofDecimal_whole _ (length_ofNat_natAbs_le number), ofInt, ofQuotient]

theorem read_of_readInt64 {text : List Char} {number : Int64}
    (read : Numeral.readInt64 text = some number) :
    ∃ value, Binary64.read text = some value ∧ Same (ofInt number.toInt) value := by
  obtain ⟨negative, found, sign⟩ := Numeric.read_of_readInt (Numeral.readInt64_eq_some read)
  refine ⟨_, by rw [Binary64.read, found, Option.map_some], ?_⟩
  rw [ofNumeric, BinaryFormat.ofDecimal_whole _ (length_ofNat_natAbs_le number), ofInt, ofQuotient]
  rcases sign with rfl | zero
  · exact .refl _
  · rw [zero, Int.natAbs_zero, BinaryFormat.nearest_zero]
    exact .zeros _ _

end Binary64

end Phrasebook
