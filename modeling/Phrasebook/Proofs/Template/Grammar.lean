import Phrasebook.Proofs.Text.Span
import Phrasebook.Template.Scan

/-! The grammar of operators and placeholders.

The forms are relations between a text and what it stands for. The readers accept
exactly the texts of these forms, and read each of them as what it stands for.
-/

set_option autoImplicit false

namespace Phrasebook

namespace Text

def IsBlanks (text : List Char) : Prop := ∀ character ∈ text, isBlank character = true

theorem skipBlanks_append {before rest : List Char} (blanks : IsBlanks before)
    (outside : StartsOutside isBlank rest) : skipBlanks (before ++ rest) = rest :=
  dropWhile_append blanks outside

theorem exists_blanks_append_skipBlanks (text : List Char) :
    ∃ blanks, IsBlanks blanks ∧ text = blanks ++ skipBlanks text :=
  ⟨text.takeWhile isBlank, fun _ => List.mem_takeWhile_imp,
    List.takeWhile_append_dropWhile.symm⟩

end Text

namespace Template

open Text

def IsWord (text : List Char) : Prop :=
  text ≠ [] ∧ ∀ character ∈ text, isNameCharacter character = true

inductive CountForm : List Char → Option String → Prop where
  | absent : CountForm [] none
  | word {word : List Char} : IsWord word → CountForm word (some (String.ofList word))

/-- A comma and a word with blanks before them, or nothing. -/
inductive GenderForm : List Char → Option String → Prop where
  | absent : GenderForm [] none
  | word {before behind word : List Char} : IsBlanks before → IsBlanks behind → IsWord word →
      GenderForm (before ++ ',' :: (behind ++ word)) (some (String.ofList word))

/-- What stands between the braces of an operator. Its forms begin behind the blanks
that follow the arrow. -/
inductive OperatorForm : List Char → Operator → Prop where
  | form {counted gendered blanks lead forms : List Char} {count gender : Option String} :
      CountForm counted count → GenderForm gendered gender → IsBlanks blanks →
      '}' ∉ lead ++ forms → IsBlanks lead → StartsOutside isBlank forms →
      OperatorForm (counted ++ (gendered ++ (blanks ++ '-' :: '>' :: (lead ++ forms))))
        ⟨count, gender, String.ofList forms⟩

/-- What stands between the braces of a placeholder. -/
def PlaceholderForm (name : List Char) : Prop := '}' ∉ name ∧ ¬['%', '{'] <:+: name

theorem readName_form (text : List Char) :
    ∃ word, CountForm word (readName text).1 ∧ text = word ++ (readName text).2 := by
  unfold readName
  split
  · exact ⟨[], .absent, rfl⟩
  · next nonempty =>
    exact ⟨_, .word ⟨nonempty, fun _ => List.mem_takeWhile_imp⟩, List.takeWhile_append_dropWhile.symm⟩

theorem readName_append {word rest : List Char} {name : Option String}
    (form : CountForm word name) (outside : StartsOutside isNameCharacter rest) :
    readName (word ++ rest) = (name, rest) := by
  cases form with
  | absent =>
    have none : rest.takeWhile isNameCharacter = [] :=
      takeWhile_append (List.forall_mem_nil _) outside
    rw [List.nil_append, readName, none]
  | word isWord =>
    obtain ⟨nonempty, all⟩ := isWord
    unfold readName
    rw [takeWhile_append all outside, dropWhile_append all outside]
    split
    · contradiction
    · rfl

theorem isNameCharacter_bounds {character : Char} (name : isNameCharacter character = true) :
    48 ≤ character.toNat ∧ character.toNat ≤ 122 := by
  change 48 ≤ character.val.toNat ∧ character.val.toNat ≤ 122
  delta isNameCharacter Char.isAlphanum Char.isAlpha Char.isUpper Char.isLower Char.isDigit at name
  simp only [Bool.or_eq_true, Bool.and_eq_true, decide_eq_true_eq, beq_iff_eq, ge_iff_le,
    UInt32.le_iff_toNat_le, Char.reduceVal, UInt32.reduceToNat] at name
  rcases name with ((upper | lower) | digit) | rfl
  · omega
  · omega
  · omega
  · decide

theorem isBlank_bounds {character : Char} (blank : isBlank character = true) :
    character.toNat ≤ 32 ∨ 133 ≤ character.toNat := by
  simp only [isBlank, inRanges, blankRanges, List.any_cons, List.any_nil, Bool.or_eq_true,
    Bool.and_eq_true, decide_eq_true_eq, Bool.or_false] at blank
  omega

theorem not_isNameCharacter_of_isBlank {character : Char} (blank : isBlank character = true) :
    isNameCharacter character = false := by
  by_contra name
  -- The codes of names lie in a gap between those of the blanks.
  have inside := isNameCharacter_bounds (Bool.not_eq_false _ ▸ name)
  have outside := isBlank_bounds blank
  omega

theorem IsWord.startsOutside_isBlank {word : List Char} (isWord : IsWord word)
    (rest : List Char) : StartsOutside isBlank (word ++ rest) := by
  obtain ⟨nonempty, all⟩ := isWord
  obtain ⟨first, others, rfl⟩ := List.exists_cons_of_ne_nil nonempty
  intro character start
  obtain rfl : first = character := by simpa using start
  cases blank : isBlank first with
  | false => rfl
  | true => simp [not_isNameCharacter_of_isBlank blank] at all

theorem startsOutside_blanks_append {blanks : List Char} {sign : Char}
    (isBlanks : IsBlanks blanks) (other : isNameCharacter sign = false) (tail : List Char) :
    StartsOutside isNameCharacter (blanks ++ sign :: tail) := by
  cases blanks with
  | nil => exact startsOutside_cons other tail
  | cons first others =>
    exact startsOutside_cons (not_isNameCharacter_of_isBlank (isBlanks first (by simp))) _

theorem GenderForm.startsOutside {gendered blanks : List Char} {gender : Option String}
    (form : GenderForm gendered gender) (isBlanks : IsBlanks blanks) (tail : List Char) :
    StartsOutside isNameCharacter (gendered ++ (blanks ++ '-' :: tail)) := by
  cases form with
  | absent => exact startsOutside_blanks_append isBlanks (by decide) tail
  | word beforeBlank =>
    rw [List.append_assoc, List.cons_append]
    exact startsOutside_blanks_append beforeBlank (by decide) _

theorem readGender_form (text : List Char) :
    ∃ gendered, GenderForm gendered (readGender text).1 ∧ text = gendered ++ (readGender text).2 := by
  obtain ⟨before, beforeBlank, shape⟩ := exists_blanks_append_skipBlanks text
  unfold readGender
  split
  · next rest comma =>
    obtain ⟨behind, behindBlank, restShape⟩ := exists_blanks_append_skipBlanks rest
    obtain ⟨word, form, wordShape⟩ := readName_form (skipBlanks rest)
    split
    · next name tail read =>
      rw [read] at form wordShape
      cases form with
      | word isWord =>
        refine ⟨before ++ ',' :: (behind ++ word), .word beforeBlank behindBlank isWord, ?_⟩
        rw [shape, comma, restShape, wordShape]
        simp
    · exact ⟨[], .absent, rfl⟩
  · exact ⟨[], .absent, rfl⟩

theorem readGender_append {gendered blanks : List Char} {gender : Option String}
    (form : GenderForm gendered gender) (isBlanks : IsBlanks blanks) (tail : List Char) :
    readGender (gendered ++ (blanks ++ '-' :: tail)) = (gender, blanks ++ '-' :: tail) := by
  cases form with
  | absent =>
    have arrow : skipBlanks (blanks ++ '-' :: tail) = '-' :: tail :=
      skipBlanks_append isBlanks (startsOutside_cons (by decide) tail)
    simp [readGender, arrow]
  | @word before behind word beforeBlank behindBlank isWord =>
    have comma : skipBlanks ((before ++ ',' :: (behind ++ word)) ++ (blanks ++ '-' :: tail)) =
        ',' :: (behind ++ (word ++ (blanks ++ '-' :: tail))) := by
      simpa using skipBlanks_append beforeBlank
        (startsOutside_cons (by decide) (behind ++ (word ++ (blanks ++ '-' :: tail))))
    -- The word ends at a blank or at the arrow, whichever follows it.
    have name := readName_append (.word isWord)
      (GenderForm.absent.startsOutside isBlanks tail)
    rw [List.nil_append] at name
    simp only [readGender, comma,
      skipBlanks_append behindBlank (isWord.startsOutside_isBlank _), name]

/-- Between braces the reader of operators accepts what has their form. -/
theorem readOperator_eq_some_iff {inside : List Char} {operator : Operator}
    (unclosed : '}' ∉ inside) :
    readOperator inside = some operator ↔ OperatorForm inside operator := by
  constructor
  · intro read
    obtain ⟨counted, countForm, countShape⟩ := readName_form inside
    obtain ⟨gendered, genderForm, genderShape⟩ := readGender_form (readName inside).2
    obtain ⟨blanks, isBlanks, blankShape⟩ :=
      exists_blanks_append_skipBlanks (readGender (readName inside).2).2
    simp only [readOperator] at read
    split at read
    · next rest arrow =>
      obtain rfl := Option.some.inj read
      obtain ⟨lead, leadBlank, leadShape⟩ := exists_blanks_append_skipBlanks rest
      have shape : inside =
          counted ++ (gendered ++ (blanks ++ '-' :: '>' :: (lead ++ skipBlanks rest))) := by
        rw [← leadShape, ← arrow, ← blankShape, ← genderShape, ← countShape]
      -- The forms end the text between the braces, so they hold no brace either.
      have unclosedForms : '}' ∉ lead ++ skipBlanks rest := by
        intro member
        apply unclosed
        rw [shape]
        exact List.mem_append_right _ (List.mem_append_right _ (List.mem_append_right _
          (List.mem_cons_of_mem _ (List.mem_cons_of_mem _ member))))
      have form := OperatorForm.form countForm genderForm isBlanks unclosedForms leadBlank
        (startsOutside_dropWhile isBlank rest)
      rwa [← shape] at form
    · simp at read
  · rintro (@⟨counted, gendered, blanks, lead, forms, count, gender, countForm, genderForm,
      isBlanks, -, leadBlank, outside⟩)
    have named := readName_append countForm
      (genderForm.startsOutside isBlanks ('>' :: (lead ++ forms)))
    have chosen := readGender_append genderForm isBlanks ('>' :: (lead ++ forms))
    have arrow : skipBlanks (blanks ++ '-' :: '>' :: (lead ++ forms)) =
        '-' :: '>' :: (lead ++ forms) :=
      skipBlanks_append isBlanks (startsOutside_cons (by decide) _)
    simp only [readOperator, named, chosen, arrow, skipBlanks_append leadBlank outside]

theorem IsBlanks.unclosed {blanks : List Char} (isBlanks : IsBlanks blanks) : '}' ∉ blanks := by
  intro member
  have blank := isBlanks '}' member
  simp [isBlank, inRanges, blankRanges] at blank

theorem CountForm.unclosed {counted : List Char} {count : Option String}
    (form : CountForm counted count) : '}' ∉ counted := by
  cases form with
  | absent => simp
  | word isWord =>
    intro member
    have name := isWord.2 '}' member
    simp [isNameCharacter] at name

theorem GenderForm.unclosed {gendered : List Char} {gender : Option String}
    (form : GenderForm gendered gender) : '}' ∉ gendered := by
  cases form with
  | absent => simp
  | word beforeBlank behindBlank isWord =>
    simp [IsBlanks.unclosed beforeBlank, IsBlanks.unclosed behindBlank,
      (CountForm.word isWord).unclosed]

theorem OperatorForm.unclosed {inside : List Char} {operator : Operator}
    (form : OperatorForm inside operator) : '}' ∉ inside := by
  obtain ⟨countForm, genderForm, isBlanks, unclosed, -, -⟩ := form
  simp only [List.mem_append, not_or] at unclosed
  simp [countForm.unclosed, genderForm.unclosed, IsBlanks.unclosed isBlanks, unclosed]

theorem hasOpening_iff {text : List Char} : hasOpening text = true ↔ ['%', '{'] <:+: text := by
  induction text with
  | nil => simp [hasOpening]
  | cons first rest ih =>
    have opening : ['{'] <+: rest ↔ rest.head? = some '{' := by
      cases rest with
      | nil => simp
      | cons next others => simp [List.cons_prefix_cons, eq_comm (a := '{')]
    rw [List.infix_cons_iff, List.cons_prefix_cons, ← ih, opening, eq_comm (a := '%')]
    simp [hasOpening]

end Template

end Phrasebook
