import Mathlib.Data.List.Basic
import Mathlib.Data.List.Induction
import Phrasebook.Number.Numeral

/-! Texts that are read as a number and are not its numeral.

A reader takes a plus sign and any zeros in front of the digits. No numeral has
them, so these are the texts that reading and writing do not give back.
-/

set_option autoImplicit false

namespace Phrasebook.Numeral

/-- A number below the limit with a plus sign or with a zero in front of its digits. -/
inductive Respelled (limit : Nat) : List Char → Prop where
  | signed {digits : List Char} : IsDigits digits → value digits < limit →
      Respelled limit ('+' :: digits)
  | padded {digits : List Char} : IsDigits digits → value digits < limit →
      Respelled limit ('0' :: digits)

theorem ofNat_of_lt {digit : Nat} (small : digit < 10) : ofNat digit = [Nat.digitChar digit] :=
  Nat.toDigits_of_lt_base small

theorem ofNat_append_digit {number digit : Nat} (positive : 0 < number) (small : digit < 10) :
    ofNat (10 * number + digit) = ofNat number ++ [Nat.digitChar digit] := by
  rw [← ofNat_of_lt small]
  exact (Nat.toDigits_append_toDigits (by decide) positive small).symm

theorem value_cons_zero (digits : List Char) : value ('0' :: digits) = value digits := by
  simp [value, Nat.ofDigitChars_cons]

theorem value_append_singleton (digits : List Char) (last : Char) :
    value (digits ++ [last]) = 10 * value digits + (last.toNat - '0'.toNat) := by
  simp [value, Nat.ofDigitChars_append, Nat.ofDigitChars_cons]

theorem digitChar_of_isDigit {character : Char} (digit : character.isDigit = true) :
    character.toNat - '0'.toNat < 10 ∧
      Nat.digitChar (character.toNat - '0'.toNat) = character := by
  have bounds := Char.isDigit_iff_toNat.1 digit
  have zero : '0'.toNat = 48 := rfl
  have nine : '9'.toNat = 57 := rfl
  have small : character.toNat - '0'.toNat < 10 := by omega
  refine ⟨small, Char.toNat_inj.1 ?_⟩
  rw [Nat.toNat_digitChar_of_lt_ten small]
  omega

theorem head?_ofNat_ne_zero {number : Nat} (positive : 0 < number) :
    (ofNat number).head? ≠ some '0' := by
  induction number using Nat.strongRecOn with
  | ind number ih =>
    by_cases small : number < 10
    · intro start
      rw [ofNat_of_lt small, List.head?_cons, Option.some.injEq, ← Char.toNat_inj,
        Nat.toNat_digitChar_of_lt_ten small] at start
      have zero : '0'.toNat = 48 := rfl
      omega
    -- The first digit is that of the number without its last digit.
    · have front : 0 < number / 10 := by omega
      have nonempty := (ofNat_isDigits (number / 10)).1
      rw [show number = 10 * (number / 10) + number % 10 by omega,
        ofNat_append_digit front (Nat.mod_lt _ (by decide)),
        List.head?_append_of_ne_nil _ nonempty]
      exact ih (number / 10) (by omega) front

theorem ofNat_ne_zero_cons {number : Nat} {second : Char} {others : List Char} :
    ofNat number ≠ '0' :: second :: others := by
  intro shape
  rcases Nat.eq_zero_or_pos number with rfl | positive
  · cases shape
  · exact head?_ofNat_ne_zero positive (by rw [shape]; rfl)

/-- Digits that do not begin with a zero are the numeral of their value. -/
theorem ofNat_value {digits : List Char} (isDigits : IsDigits digits)
    (start : digits.head? ≠ some '0') : ofNat (value digits) = digits := by
  induction digits using List.reverseRecOn with
  | nil => exact absurd rfl isDigits.1
  | append_singleton earlier last ih =>
    obtain ⟨small, same⟩ := digitChar_of_isDigit (isDigits.2 last (by simp))
    rw [value_append_singleton]
    by_cases alone : earlier = []
    · subst alone
      simpa [value] using (ofNat_of_lt small).trans (congrArg ([·]) same)
    · rw [List.head?_append_of_ne_nil _ alone] at start
      have front := ih ⟨alone, fun _ member => isDigits.2 _ (by simp [member])⟩ start
      -- The digits in front do not begin with a zero, so they are not the numeral zero.
      have positive : 0 < value earlier := by
        by_contra none
        rw [Nat.eq_zero_of_not_pos none] at front
        exact start (by rw [← front]; rfl)
      rw [ofNat_append_digit positive small, front, same]

theorem readBelow_eq_some_iff {limit number : Nat} {text : List Char} :
    readBelow limit text = some number ↔
      number < limit ∧ ∃ digits, IsDigits digits ∧ value digits = number ∧
        (text = digits ∨ text = '+' :: digits) := by
  have readNat_iff (digits : List Char) :
      (readNat digits).filter (· < limit) = some number ↔
        number < limit ∧ IsDigits digits ∧ value digits = number := by
    unfold readNat
    by_cases isDigits : IsDigits digits
    · rw [if_pos isDigits, Option.filter_eq_some_iff]
      simp [isDigits, and_comm]
    · simp [isDigits]
  unfold readBelow
  split
  · next rest =>
    rw [readNat_iff]
    constructor
    · rintro ⟨below, isDigits, same⟩
      exact ⟨below, rest, isDigits, same, .inr rfl⟩
    · rintro ⟨below, digits, isDigits, same, rfl | shape⟩
      · exact absurd (isDigits.2 '+' (by simp)) (by decide)
      · obtain rfl := (List.cons.inj shape).2
        exact ⟨below, isDigits, same⟩
  · next unsigned =>
    rw [readNat_iff]
    constructor
    · rintro ⟨below, isDigits, same⟩
      exact ⟨below, text, isDigits, same, .inl rfl⟩
    · rintro ⟨below, digits, isDigits, same, rfl | shape⟩
      · exact ⟨below, isDigits, same⟩
      · exact (unsigned digits shape).elim

/-- Just the respelled texts are read as a number of which they are not the numeral. -/
theorem respelled_iff {limit : Nat} {text : List Char} :
    Respelled limit text ↔ ∃ number, readBelow limit text = some number ∧ ofNat number ≠ text := by
  constructor
  · rintro (⟨isDigits, below⟩ | ⟨isDigits, below⟩)
    · refine ⟨_, readBelow_eq_some_iff.2 ⟨below, _, isDigits, rfl, .inr rfl⟩, ?_⟩
      intro numeral
      exact ofNat_head_ne numeral (by decide)
    · next digits =>
      have more : IsDigits ('0' :: digits) :=
        ⟨by simp, List.forall_mem_cons.2 ⟨by decide, isDigits.2⟩⟩
      refine ⟨_, readBelow_eq_some_iff.2 ⟨below, _, more, value_cons_zero digits, .inl rfl⟩, ?_⟩
      intro numeral
      -- Only the numeral of zero begins with a zero, and it has no second digit.
      rcases Nat.eq_zero_or_pos (value digits) with none | positive
      · rw [none] at numeral
        exact isDigits.1 (List.cons.inj numeral).2.symm
      · exact head?_ofNat_ne_zero positive (by rw [numeral]; rfl)
  · rintro ⟨number, read, different⟩
    obtain ⟨below, digits, isDigits, rfl, rfl | rfl⟩ := readBelow_eq_some_iff.1 read
    · obtain ⟨first, rest, rfl⟩ := List.exists_cons_of_ne_nil isDigits.1
      by_cases zero : first = '0'
      · subst zero
        have more : rest ≠ [] := by
          rintro rfl
          exact different rfl
        rw [value_cons_zero] at below
        exact .padded ⟨more, (List.forall_mem_cons.1 isDigits.2).2⟩ below
      · exact (different (ofNat_value isDigits (by simpa using zero))).elim
    · exact .signed isDigits below

instance (limit : Nat) (text : List Char) : Decidable (Respelled limit text) :=
  decidable_of_iff ((readBelow limit text).any (ofNat · ≠ text) = true) (by
    simp [respelled_iff, Option.any_eq_true])

end Phrasebook.Numeral
