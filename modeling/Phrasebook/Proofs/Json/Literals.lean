import Phrasebook.Proofs.Json.Scalars

/-! What a value that was read tells of its text.

A text in quotes is the only way to write a string, and the digits of a natural number
are the only way to write that number as an integer.
-/

set_option autoImplicit false

namespace Phrasebook

theorem Numeral.ofNat_value_of_ne_zero_cons {digits : List Char} (isDigits : IsDigits digits)
    (alone : ∀ second others, digits ≠ '0' :: second :: others) :
    ofNat (value digits) = digits := by
  by_cases start : digits.head? = some '0'
  · obtain ⟨others, shape⟩ := List.head?_eq_some_iff.1 start
    cases others with
    | nil =>
      rw [shape]
      rfl
    | cons second others => exact absurd shape (alone second others)
  · exact ofNat_value isDigits start

namespace Json

theorem bind_eq_ok_iff {ε α β : Type} {action : Except ε α} {next : α → Except ε β} {result : β} :
    action >>= next = .ok result ↔ ∃ value, action = .ok value ∧ next value = .ok result := by
  cases action with
  | error fault => simp [bind, Except.bind]
  | ok value => simp [bind, Except.bind]

theorem map_eq_ok_iff {ε α β : Type} {action : Except ε α} {function : α → β} {result : β} :
    action.map function = .ok result ↔ ∃ value, action = .ok value ∧ function value = result := by
  cases action with
  | error fault => simp [Except.map]
  | ok value => simp [Except.map]

theorem mapError_eq_ok_iff {ε ε' α : Type} {action : Except ε α} {function : ε → ε'} {result : α} :
    action.mapError function = .ok result ↔ action = .ok result := by
  cases action <;> simp [Except.mapError]

variable {value : Json} {depth : Nat} {text rest : List Char}

def IsReal : Json → Prop
  | .real _ => True
  | _ => False

def IsFlat : Json → Prop
  | .list _ => False
  | .object _ => False
  | _ => True

namespace Number

variable {negative : Bool} {number : Nat} {exponent base : Int}

theorem isReal_of_finish (read : finish negative number exponent text = .ok (value, rest)) :
    value.IsReal := by
  unfold finish at read
  split at read
  · obtain rfl := congrArg Prod.fst (Except.ok.inj read)
    trivial
  · cases read

theorem isReal_of_readExponent
    (read : readExponent negative number base text = .ok (value, rest)) : value.IsReal := by
  simp only [readExponent] at read
  split at read
  · cases read
  · split at read
    · split at read
      · exact isReal_of_finish read
      · split at read
        · cases read
        · obtain rfl := congrArg Prod.fst (Except.ok.inj read)
          trivial
    · cases read

theorem isReal_of_readFraction
    (read : readFraction negative number base text = .ok (value, rest)) : value.IsReal := by
  simp only [readFraction, readOptionalExponent] at read
  split at read
  · cases read
  · split at read
    · split at read
      · exact isReal_of_readExponent read
      · exact isReal_of_finish read
    · exact isReal_of_finish read

theorem keepDigits_of_length_le {digits : List Char} {number : Nat}
    (all : digits.length ≤ (keepDigits number digits).2) :
    (keepDigits number digits).1 = Nat.ofDigitChars 10 digits number := by
  induction digits generalizing number with
  | nil => rfl
  | cons digit rest ih =>
    simp only [keepDigits] at all ⊢
    split at all
    · next fits =>
      rw [if_pos fits, Nat.ofDigitChars_cons, Nat.mul_comm 10]
      exact ih (Nat.le_of_succ_le_succ all)
    · simp at all

/-- A number without a fraction or an exponent is real if it has too many digits. -/
theorem isReal_or_ofDigits {digits behind : List Char} (isDigits : Numeral.IsDigits digits)
    (alone : ∀ second others, digits ≠ '0' :: second :: others) (ends : EndsNumber behind)
    (read : (if ((digits.length - (keepDigits 0 digits).2 : Nat) : Int) = 0 then
        .ok (ofDigits negative (keepDigits 0 digits).1, behind)
      else finish negative (keepDigits 0 digits).1
        ((digits.length - (keepDigits 0 digits).2 : Nat) : Int) behind) = .ok (value, rest)) :
    value.IsReal ∨ ∃ number, value = ofDigits negative number ∧
      digits ++ behind = Numeral.ofNat number ++ rest ∧ EndsNumber rest := by
  split at read
  · next all =>
    obtain ⟨rfl, rfl⟩ := Prod.mk.inj (Except.ok.inj read)
    have kept : (keepDigits 0 digits).1 = Numeral.value digits :=
      keepDigits_of_length_le (by omega)
    refine .inr ⟨Numeral.value digits, by rw [kept], ?_, ends⟩
    rw [Numeral.ofNat_value_of_ne_zero_cons isDigits alone]
  · exact .inl (isReal_of_finish read)

/-- A number is real or is written with its digits only. -/
theorem readUnsigned_eq_ok (read : readUnsigned negative text = .ok (value, rest)) :
    value.IsReal ∨ ∃ number, value = ofDigits negative number ∧
      text = Numeral.ofNat number ++ rest ∧ EndsNumber rest := by
  have parts := List.takeWhile_append_dropWhile (p := Char.isDigit) (l := text)
  have outside := Text.startsOutside_dropWhile Char.isDigit text
  simp only [readUnsigned] at read
  split at read
  · cases read
  · cases read
  · cases read
  · next text _ _ _ nonempty alone =>
    have isDigits : Numeral.IsDigits (text.takeWhile Char.isDigit) :=
      ⟨nonempty, fun _ => List.mem_takeWhile_imp⟩
    rw [← parts]
    -- What ends the digits tells whether more of the number follows.
    split at read
    · exact .inl (isReal_of_readFraction read)
    · next letter exponent noPoint shape =>
      split at read
      · exact .inl (isReal_of_readExponent read)
      · next noExponent =>
        refine isReal_or_ofDigits isDigits alone ?_ read
        have noDigit := outside letter (by rw [shape]; rfl)
        rw [shape]
        apply endsNumber_cons
        simp_all [continuesNumber]
    · next shape =>
      rw [shape]
      exact isReal_or_ofDigits isDigits alone endsNumber_nil read

theorem read_eq_natural_iff {number : Nat} (below : number < 2 ^ 64) :
    read text = .ok (.integer number, rest) ↔
      text = Numeral.ofNat number ++ rest ∧ EndsNumber rest := by
  constructor
  · intro found
    unfold read at found
    split at found
    -- Behind a minus sign stands a negative integer, and minus zero is real.
    · obtain real | ⟨magnitude, same, -⟩ := readUnsigned_eq_ok found
      · exact real.elim
      · simp only [ofDigits, if_true] at same
        split at same
        · next fits =>
          have := Json.integer.inj same
          omega
        · cases same
    · obtain real | ⟨magnitude, same, shape⟩ := readUnsigned_eq_ok found
      · exact real.elim
      · obtain rfl : number = magnitude := Int.ofNat.inj (Json.integer.inj same)
        exact shape
  · rintro ⟨rfl, ends⟩
    exact read_ofNat below ends

theorem isReal_or_integer_of_read (found : read text = .ok (value, rest)) :
    value.IsReal ∨ ∃ integer, value = .integer integer := by
  have cases (negative : Bool) (text : List Char)
      (found : readUnsigned negative text = .ok (value, rest)) :
      value.IsReal ∨ ∃ integer, value = .integer integer := by
    obtain real | ⟨number, rfl, -⟩ := readUnsigned_eq_ok found
    · exact .inl real
    · unfold ofDigits
      split
      · split
        · exact .inr ⟨_, rfl⟩
        · exact .inl trivial
      · exact .inr ⟨_, rfl⟩
  unfold read at found
  split at found
  · exact cases true _ found
  · exact cases false _ found

end Number

theorem readWord_eq_ok {word : List Char} {result : Json}
    (read : readWord value word text = .ok (result, rest)) : result = value := by
  induction word generalizing text with
  | nil => exact (congrArg Prod.fst (Except.ok.inj read)).symm
  | cons expected word ih =>
    cases text with
    | nil => cases read
    | cons first others =>
      simp only [readWord] at read
      split at read
      · exact ih read
      · cases read

def Quoted (text : List Char) (content : String) (rest : List Char) : Prop :=
  ∃ inside, text = '"' :: inside ∧ Quotation.read inside = .ok (content, rest)

theorem readScalar_eq_ok (read : readScalar text = .ok (value, rest)) :
    value = .null ∨ (∃ holds, value = .boolean holds) ∨
      (∃ content, value = .string content ∧ Quoted text content rest) ∨
      Number.read text = .ok (value, rest) := by
  unfold readScalar at read
  split at read
  · cases read
  · exact .inl (readWord_eq_ok read)
  · exact .inr (.inl ⟨true, readWord_eq_ok read⟩)
  · exact .inr (.inl ⟨false, readWord_eq_ok read⟩)
  · next inside =>
    cases found : Quotation.read inside with
    | error fault => simp [found, bind, Except.bind] at read
    | ok result =>
      rw [found] at read
      obtain ⟨rfl, rfl⟩ := Prod.mk.inj (Except.ok.inj read)
      exact .inr (.inr (.inl ⟨result.1, rfl, inside, rfl, found⟩))
  · split at read
    · exact .inr (.inr (.inr read))
    · cases read

theorem readScalar_eq_string_iff {content : String} :
    readScalar text = .ok (.string content, rest) ↔ Quoted text content rest := by
  constructor
  · intro read
    obtain null | ⟨holds, boolean⟩ | ⟨_, same, quoted⟩ | number := readScalar_eq_ok read
    · cases null
    · cases boolean
    · obtain rfl := Json.string.inj same
      exact quoted
    · obtain real | ⟨_, integer⟩ := Number.isReal_or_integer_of_read number
      · exact real.elim
      · cases integer
  · rintro ⟨inside, rfl, read⟩
    rw [readScalar, read]
    rfl

theorem readScalar_eq_natural_iff {number : Nat} (below : number < 2 ^ 64) :
    readScalar text = .ok (.integer number, rest) ↔
      text = Numeral.ofNat number ++ rest ∧ EndsNumber rest := by
  constructor
  · intro read
    obtain null | ⟨holds, boolean⟩ | ⟨_, string, -⟩ | number := readScalar_eq_ok read
    · cases null
    · cases boolean
    · cases string
    · exact (Number.read_eq_natural_iff below).1 number
  · rintro ⟨rfl, ends⟩
    rw [← compact_natural]
    exact readScalar_compact (.natural below) ends

theorem isFlat_of_readScalar (read : readScalar text = .ok (value, rest)) : value.IsFlat := by
  obtain rfl | ⟨holds, rfl⟩ | ⟨content, rfl, -⟩ | number := readScalar_eq_ok read
  · trivial
  · trivial
  · trivial
  · obtain real | ⟨integer, rfl⟩ := Number.isReal_or_integer_of_read number
    · cases value with
      | real number => trivial
      | _ => exact real.elim
    · trivial

theorem readValue_eq_scalar_iff (flat : value.IsFlat) :
    readValue depth text = .ok (value, rest) ↔
      readScalar (skipBlanks text) = .ok (value, rest) := by
  have bracket (inside : List Char) : readScalar ('[' :: inside) ≠ .ok (value, rest) := by
    simp [readScalar]
  have brace (inside : List Char) : readScalar ('{' :: inside) ≠ .ok (value, rest) := by
    simp [readScalar]
  unfold readValue
  -- Nothing that begins with a bracket or a brace is a scalar, at whatever depth.
  split
  · next shape => simp [shape, bracket]
  · next shape => simp [shape, brace]
  · next shape =>
    simp only [shape, bracket, iff_false]
    intro read
    obtain ⟨_, -, same⟩ := bind_eq_ok_iff.1 read
    obtain rfl := congrArg Prod.fst (Except.ok.inj same)
    exact flat
  · next shape =>
    simp only [shape, brace, iff_false]
    intro read
    obtain ⟨_, -, same⟩ := bind_eq_ok_iff.1 read
    obtain rfl := congrArg Prod.fst (Except.ok.inj same)
    exact flat
  · rfl

theorem readValue_eq_string_iff {content : String} :
    readValue depth text = .ok (.string content, rest) ↔ Quoted (skipBlanks text) content rest := by
  rw [readValue_eq_scalar_iff (show (string content).IsFlat from trivial),
    readScalar_eq_string_iff]

/-- The digits of a natural number, with nothing behind them that a number goes on with, are
what is read as that integer. -/
theorem readValue_eq_natural_iff {number : Nat} (below : number < 2 ^ 64) :
    readValue depth text = .ok (.integer number, rest) ↔
      skipBlanks text = Numeral.ofNat number ++ rest ∧ EndsNumber rest := by
  rw [readValue_eq_scalar_iff (show (integer number).IsFlat from trivial),
    readScalar_eq_natural_iff below]

theorem wrongType_ne_ok {α : Type} (expected : String) (text : List Char)
    (result : α × List Char) : wrongType expected text ≠ .ok result := by
  intro read
  unfold wrongType at read
  split at read
  · cases read
  · cases read
  · obtain ⟨_, -, impossible⟩ := bind_eq_ok_iff.1 read
    cases impossible

theorem readText_eq_ok_iff {expected content : String} :
    readText expected text = .ok (content, rest) ↔
      readValue depth text = .ok (.string content, rest) := by
  rw [readValue_eq_string_iff]
  unfold readText Quoted
  split
  · next shape => simp [shape]
  · next inside shape => simp [shape]
  · next noQuote =>
    refine iff_of_false (wrongType_ne_ok expected _ _) ?_
    rintro ⟨inside, shape, -⟩
    exact noQuote inside shape

end Json

end Phrasebook
