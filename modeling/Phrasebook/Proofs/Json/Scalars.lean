import Phrasebook.Json.Reader
import Phrasebook.Json.Writer
import Phrasebook.Proofs.Number.Respelling
import Phrasebook.Proofs.Text.Span

/-! Texts and numbers that are written are read back.

Each reader is given what the writer writes and any text behind it, which it
leaves. Only a number depends on that text, which must not go on with it.
-/

set_option autoImplicit false

namespace Phrasebook.Json

namespace Quotation

theorem readAfter_length (covered rest : List Char) :
    readAfter covered.length (covered ++ rest) = readAfter 0 rest := by
  induction covered with
  | nil => rfl
  | cons first others ih => exact ih

theorem hexDigits_of_control : ∀ unit < 32, (hexDigits unit).length = 4 ∧
    ((hexDigits unit).filterMap hexValue?).length = 4 ∧
    ((hexDigits unit).filterMap hexValue?).foldl (fun number digit => number * 16 + digit) 0 =
      unit := by
  decide

theorem readHex_hexDigits {unit : Nat} (control : unit < 32) (rest : List Char) :
    readHex (hexDigits unit ++ rest) = .ok unit := by
  obtain ⟨four, all, value⟩ := hexDigits_of_control unit control
  rw [readHex, List.take_left' four, if_pos all, value]

theorem readEscape_control {character : Char} (control : character < ' ') (rest : List Char) :
    readEscape ('u' :: (hexDigits character.toNat ++ rest)) = .ok (character, 5) := by
  have small : character.toNat < 32 := control
  have low : isLowSurrogate character.toNat = false := by
    simp only [isLowSurrogate, Bool.and_eq_false_iff, decide_eq_false_iff_not]
    omega
  have high : isHighSurrogate character.toNat = false := by
    simp only [isHighSurrogate, Bool.and_eq_false_iff, decide_eq_false_iff_not]
    omega
  simp [readEscape, readHex_hexDigits small, low, high, bind, Except.bind, pure, Except.pure]

theorem readAfter_escaped {covered rest : List Char} {character : Char}
    (read : readEscape (covered ++ rest) = .ok (character, covered.length)) :
    readAfter 0 ('\\' :: (covered ++ rest)) =
      (readAfter 0 rest).map fun read => (character :: read.1, read.2) := by
  rw [readAfter, if_neg (by decide), if_pos rfl, read]
  simp only [bind, Except.bind, pure, Except.pure, readAfter_length]
  cases readAfter 0 rest <;> rfl

theorem readAfter_escape (character : Char) (rest : List Char) :
    readAfter 0 (escape character ++ rest) =
      (readAfter 0 rest).map fun read => (character :: read.1, read.2) := by
  unfold escape
  -- Seven characters have an escape of one letter.
  iterate 7
    split
    · next same =>
      subst same
      exact @readAfter_escaped [_] _ _ rfl
  split
  · next control =>
    have four := (hexDigits_of_control character.toNat control).1
    apply @readAfter_escaped ('u' :: hexDigits character.toNat)
    rw [List.length_cons, four]
    exact readEscape_control control rest
  · next quote backslash _ _ _ _ _ control =>
    rw [List.singleton_append, readAfter, if_neg quote, if_neg backslash, if_neg control]
    cases readAfter 0 rest <;> rfl

theorem readAfter_write (characters rest : List Char) :
    readAfter 0 (characters.flatMap escape ++ '"' :: rest) = .ok (characters, rest) := by
  induction characters with
  | nil => rw [List.flatMap_nil, List.nil_append, readAfter, if_pos rfl]
  | cons character others ih =>
    rw [List.flatMap_cons, List.append_assoc, readAfter_escape, ih]
    rfl

theorem write_append (text : String) (rest : List Char) :
    write text ++ rest = '"' :: (text.toList.flatMap escape ++ '"' :: rest) := by
  simp [write]

theorem read_write (text : String) (rest : List Char) :
    read (text.toList.flatMap escape ++ '"' :: rest) = .ok (text, rest) := by
  rw [read, readAfter_write]
  simp [bind, Except.bind, pure, Except.pure]

end Quotation

def continuesNumber (character : Char) : Bool :=
  character.isDigit || character == '.' || character == 'e' || character == 'E'

/-- Nothing at the start of the text belongs to a number in front of it. -/
def EndsNumber (rest : List Char) : Prop := Text.StartsOutside continuesNumber rest

theorem endsNumber_nil : EndsNumber [] := nofun

theorem endsNumber_cons {first : Char} (outside : continuesNumber first = false)
    (rest : List Char) : EndsNumber (first :: rest) :=
  Text.startsOutside_cons outside rest

namespace Number

theorem keepDigits_eq {number : Nat} {digits : List Char}
    (below : Nat.ofDigitChars 10 digits number < 2 ^ 64) :
    keepDigits number digits = (Nat.ofDigitChars 10 digits number, digits.length) := by
  induction digits generalizing number with
  | nil => rfl
  | cons digit rest ih =>
    rw [Nat.ofDigitChars_cons] at below
    -- Further digits only make the number greater.
    have next : 10 * number + (digit.toNat - '0'.toNat) < 2 ^ 64 := by
      rw [Nat.ofDigitChars_eq_ofDigitChars_zero] at below
      have power : 0 < 10 ^ rest.length := Nat.pow_pos (by decide)
      have grown := Nat.le_mul_of_pos_left (10 * number + (digit.toNat - '0'.toNat)) power
      omega
    simp only [keepDigits, Nat.mul_comm number 10, if_pos next, ih below, Nat.ofDigitChars_cons,
      List.length_cons]

theorem readUnsigned_ofNat {number : Nat} (below : number < 2 ^ 64) {rest : List Char}
    (ends : EndsNumber rest) :
    readUnsigned false (Numeral.ofNat number ++ rest) = .ok (.integer number, rest) := by
  have digits := (Numeral.ofNat_isDigits number).2
  have outside : Text.StartsOutside Char.isDigit rest := by
    intro first start
    have := ends first start
    simp_all [continuesNumber]
  have kept : keepDigits 0 (Numeral.ofNat number) = (number, (Numeral.ofNat number).length) := by
    have value := Numeral.value_ofNat number
    rw [Numeral.value] at value
    rw [keepDigits_eq (by rwa [value]), value]
  unfold readUnsigned
  rw [Text.takeWhile_append digits outside, Text.dropWhile_append digits outside]
  dsimp only
  -- There are digits, and a zero in front stands alone.
  split
  · next empty => exact absurd (List.append_eq_nil_iff.1 empty).1 (Numeral.ofNat_isDigits number).1
  · next empty _ => exact absurd empty (Numeral.ofNat_isDigits number).1
  · next shape _ => exact absurd shape Numeral.ofNat_ne_zero_cons
  · rw [kept]
    dsimp only
    -- All digits are kept, and what follows is neither a fraction nor an exponent.
    split
    · next fraction _ => exact absurd (ends '.' rfl) (by decide)
    · next letter exponent _ _ =>
      have other := ends letter rfl
      have whole : ¬(letter = 'e' ∨ letter = 'E') := by
        rintro (rfl | rfl) <;> contradiction
      rw [if_neg whole, Nat.sub_self]
      exact if_pos rfl
    · rw [Nat.sub_self]
      exact if_pos rfl

theorem read_ofNat {number : Nat} (below : number < 2 ^ 64) {rest : List Char}
    (ends : EndsNumber rest) :
    read (Numeral.ofNat number ++ rest) = .ok (.integer number, rest) := by
  obtain ⟨first, others, shape⟩ := List.exists_cons_of_ne_nil (Numeral.ofNat_isDigits number).1
  have unsigned : first ≠ '-' := by
    rintro rfl
    exact Numeral.ofNat_head_ne shape (by decide)
  have result := readUnsigned_ofNat below ends
  rw [shape, List.cons_append] at result ⊢
  unfold read
  split
  · next same => exact absurd (List.cons.inj same).1 unsigned
  · exact result

end Number

theorem skipBlanks_cons {first : Char} (outside : isBlank first = false) (rest : List Char) :
    skipBlanks (first :: rest) = first :: rest := by
  simp [skipBlanks, outside]

inductive IsScalar : Json → Prop where
  | string (text : String) : IsScalar (.string text)
  | natural {number : Nat} : number < 2 ^ 64 → IsScalar (.integer number)

theorem compact_natural (number : Nat) :
    compact (.integer number) = Numeral.ofNat number := by
  rw [compact]
  rfl

theorem IsScalar.exists_cons {value : Json} (scalar : IsScalar value) :
    ∃ first rest, value.compact = first :: rest ∧ (first = '"' ∨ first.isDigit = true) := by
  cases scalar with
  | string text => exact ⟨'"', _, rfl, .inl rfl⟩
  | @natural number _ =>
    obtain ⟨first, rest, shape⟩ := List.exists_cons_of_ne_nil (Numeral.ofNat_isDigits number).1
    refine ⟨first, rest, (compact_natural number).trans shape, .inr ?_⟩
    exact (Numeral.ofNat_isDigits number).2 first (by simp [shape])

theorem readScalar_of_isDigit {first : Char} (digit : first.isDigit = true) (rest : List Char) :
    readScalar (first :: rest) = Number.read (first :: rest) := by
  have other {letter : Char} {tail : List Char} (shape : first :: rest = letter :: tail) :
      letter.isDigit = true := (List.cons.inj shape).1 ▸ digit
  unfold readScalar
  -- None of the letters that a value may begin with is a digit.
  split
  · contradiction
  · next shape => exact absurd (other shape) (by decide)
  · next shape => exact absurd (other shape) (by decide)
  · next shape => exact absurd (other shape) (by decide)
  · next shape => exact absurd (other shape) (by decide)
  · next shape => rw [if_pos (.inr (other shape))]

theorem readScalar_compact {value : Json} (scalar : IsScalar value) {rest : List Char}
    (ends : EndsNumber rest) : readScalar (value.compact ++ rest) = .ok (value, rest) := by
  cases scalar with
  | string text =>
    rw [compact, Quotation.write_append, readScalar, Quotation.read_write]
    rfl
  | @natural number below =>
    have read := Number.read_ofNat below ends
    obtain ⟨first, others, shape⟩ := List.exists_cons_of_ne_nil (Numeral.ofNat_isDigits number).1
    have digit := (Numeral.ofNat_isDigits number).2 first (by simp [shape])
    rw [compact_natural]
    rw [shape, List.cons_append] at read ⊢
    rw [readScalar_of_isDigit digit, read]

theorem readValue_compact {value : Json} (scalar : IsScalar value) (depth : Nat)
    {rest : List Char} (ends : EndsNumber rest) :
    readValue depth (value.compact ++ rest) = .ok (value, rest) := by
  have read := readScalar_compact scalar ends
  obtain ⟨first, others, shape, start⟩ := scalar.exists_cons
  rw [shape, List.cons_append] at read ⊢
  have visible : isBlank first = false := by
    cases blank : isBlank first with
    | false => rfl
    | true =>
      simp only [isBlank, Bool.or_eq_true, beq_iff_eq] at blank
      rcases blank with ((rfl | rfl) | rfl) | rfl <;> simp at start
  -- So no case of a list or an object applies.
  have other {letter : Char} {tail : List Char}
      (same : skipBlanks (first :: (others ++ rest)) = letter :: tail) :
      letter = '"' ∨ letter.isDigit = true := by
    rw [skipBlanks_cons visible] at same
    exact (List.cons.inj same).1 ▸ start
  unfold readValue
  split
  · next same => exact absurd (other same) (by decide)
  · next same => exact absurd (other same) (by decide)
  · next same => exact absurd (other same) (by decide)
  · next same => exact absurd (other same) (by decide)
  · rw [skipBlanks_cons visible, read]

theorem readText_write (expected text : String) (rest : List Char) :
    readText expected (Quotation.write text ++ rest) = .ok (text, rest) := by
  rw [Quotation.write_append, readText, skipBlanks_cons (by decide)]
  exact Quotation.read_write text rest

end Phrasebook.Json
