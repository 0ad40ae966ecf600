/-! Splitting text at a separator. -/

set_option autoImplicit false

namespace Phrasebook.Text

def split (separator : Char) : List Char → List (List Char)
  | [] => [[]]
  | first :: rest =>
    if first = separator then [] :: split separator rest
    else match split separator rest with
      | [] => [[first]]
      | part :: parts => (first :: part) :: parts

theorem split_ne_nil (separator : Char) (text : List Char) : split separator text ≠ [] := by
  cases text with
  | nil => simp [split]
  | cons first rest =>
    simp only [split]
    split
    · simp
    · split <;> simp

def splitString (separator : Char) (text : String) : List String :=
  (split separator text.toList).map String.ofList

theorem intercalate_split (separator : Char) (text : List Char) :
    List.intercalate [separator] (split separator text) = text := by
  induction text with
  | nil => simp [split, List.intercalate]
  | cons first rest ih =>
    simp only [split]
    split
    · next same =>
      subst same
      cases shape : split first rest with
      | nil => exact (split_ne_nil first rest shape).elim
      | cons part parts =>
        rw [shape] at ih
        rw [← ih]
        simp [List.intercalate]
    · cases shape : split separator rest with
      | nil => exact (split_ne_nil separator rest shape).elim
      | cons part parts =>
        rw [shape] at ih
        rw [← ih]
        cases parts <;> simp [List.intercalate]

theorem split_of_not_mem {separator : Char} {text : List Char} (absent : separator ∉ text) :
    split separator text = [text] := by
  induction text with
  | nil => rfl
  | cons first rest ih =>
    rw [List.mem_cons, not_or] at absent
    rw [split, if_neg (Ne.symm absent.1), ih absent.2]

theorem split_append_cons {separator : Char} {part : List Char} (absent : separator ∉ part)
    (rest : List Char) :
    split separator (part ++ separator :: rest) = part :: split separator rest := by
  induction part with
  | nil => simp [split]
  | cons first part ih =>
    rw [List.mem_cons, not_or] at absent
    rw [List.cons_append, split, if_neg (Ne.symm absent.1), ih absent.2]

theorem splitString_of_not_mem {separator : Char} {text : String}
    (absent : separator ∉ text.toList) : splitString separator text = [text] := by
  rw [splitString, split_of_not_mem absent, List.map_singleton, String.ofList_toList]

theorem not_mem_of_mem_split {separator : Char} {text part : List Char}
    (member : part ∈ split separator text) : separator ∉ part := by
  induction text generalizing part with
  | nil =>
    obtain rfl := List.mem_singleton.1 member
    exact List.not_mem_nil
  | cons first rest ih =>
    rw [split] at member
    split at member
    · rcases List.mem_cons.1 member with rfl | member
      · exact List.not_mem_nil
      · exact ih member
    · next other =>
      cases shape : split separator rest with
      | nil => exact (split_ne_nil separator rest shape).elim
      | cons head parts =>
        rw [shape] at member ih
        rcases List.mem_cons.1 member with rfl | member
        · exact fun inside => (List.mem_cons.1 inside).elim (fun same => other same.symm)
            (ih List.mem_cons_self)
        · exact ih (List.mem_cons_of_mem head member)

theorem split_intercalate {separator : Char} {parts : List (List Char)} (nonempty : parts ≠ [])
    (apart : ∀ part ∈ parts, separator ∉ part) :
    split separator (List.intercalate [separator] parts) = parts := by
  induction parts with
  | nil => exact absurd rfl nonempty
  | cons part rest ih =>
    rw [List.forall_mem_cons] at apart
    cases rest with
    | nil => rw [List.intercalate_singleton, split_of_not_mem apart.1]
    | cons next others =>
      rw [List.intercalate_cons_cons, List.append_assoc, List.singleton_append,
        split_append_cons apart.1, ih (List.cons_ne_nil next others) apart.2]

/-- The parts of a text: at least one, none of them with a separator in it, and joined by
the separator they are the text. -/
structure Parts (separator : Char) (text : String) (parts : List String) : Prop where
  nonempty : parts ≠ []
  apart : ∀ part ∈ parts, separator ∉ part.toList
  joined : List.intercalate [separator] (parts.map String.toList) = text.toList

/-- Every text has its parts, and no others. -/
theorem parts_iff {separator : Char} {text : String} {parts : List String} :
    Parts separator text parts ↔ parts = splitString separator text := by
  constructor
  · rintro ⟨nonempty, apart, joined⟩
    have again : split separator (List.intercalate [separator] (parts.map String.toList)) =
        parts.map String.toList :=
      split_intercalate (by simpa using nonempty) (by simpa using apart)
    rw [splitString, ← joined, again, List.map_map]
    simp [Function.comp_def]
  · rintro rfl
    refine ⟨by simp [splitString, split_ne_nil], ?_, ?_⟩
    · intro part member
      obtain ⟨characters, inside, rfl⟩ := List.mem_map.1 member
      rw [String.toList_ofList]
      exact not_mem_of_mem_split inside
    · simp [splitString, List.map_map, Function.comp_def, intercalate_split]

end Phrasebook.Text
