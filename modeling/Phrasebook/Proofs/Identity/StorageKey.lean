import Mathlib.Data.List.Basic
import Phrasebook.Identity

/-! Identities that share a storage key.

A storage key is cut at two of its slashes into a language, a section and a key. A
valid key has no slash, so two valid keys can be told apart. Where the language ends
and the section begins cannot be told if they have slashes of their own.
-/

set_option autoImplicit false

namespace Phrasebook

/-- Two cuts of a text at a separator are one cut, or the one lies before the other. -/
theorem Text.append_cons_eq_append_cons_iff {separator : Char}
    {before after left right : List Char} :
    before ++ separator :: after = left ++ separator :: right ↔
      (before = left ∧ after = right) ∨
        (∃ middle, left = before ++ separator :: middle ∧
          after = middle ++ separator :: right) ∨
        ∃ middle, before = left ++ separator :: middle ∧
          right = middle ++ separator :: after := by
  rw [List.append_eq_append_iff]
  constructor
  -- What lies between the two cuts is empty or starts with the separator of the first.
  · rintro (⟨between, longer, same⟩ | ⟨between, longer, same⟩)
    · cases between with
      | nil =>
        simp only [List.append_nil, List.nil_append, List.cons.injEq, true_and] at longer same
        exact .inl ⟨longer.symm, same⟩
      | cons first middle =>
        simp only [List.cons_append, List.cons.injEq] at same
        obtain ⟨rfl, same⟩ := same
        exact .inr (.inl ⟨middle, longer, same⟩)
    · cases between with
      | nil =>
        simp only [List.append_nil, List.nil_append, List.cons.injEq, true_and] at longer same
        exact .inl ⟨longer, same.symm⟩
      | cons first middle =>
        simp only [List.cons_append, List.cons.injEq] at same
        obtain ⟨rfl, same⟩ := same
        exact .inr (.inr ⟨middle, longer, same⟩)
  · rintro (⟨rfl, rfl⟩ | ⟨middle, rfl, rfl⟩ | ⟨middle, rfl, rfl⟩)
    · exact .inl ⟨[], by simp⟩
    · exact .inl ⟨separator :: middle, by simp⟩
    · exact .inr ⟨separator :: middle, by simp⟩

theorem Section.display_ofName {text : String} (nonempty : text ≠ "") :
    (ofName text).display = text := by
  simp [ofName, nonempty, display]

theorem Section.display_ne_empty (part : Section) : part.display ≠ "" := by
  cases part with
  | number id =>
    intro empty
    have digits := (Numeral.ofNat_isDigits id.toNat).1
    exact digits (by simpa [display, Numeral.display] using congrArg String.toList empty)
  | name text nonempty => exact nonempty

theorem slash_notMem_of_isValidKey {key : String} (valid : isValidKey key = true) :
    '/' ∉ key.toList := by
  intro member
  simp only [isValidKey, Bool.and_eq_true, List.all_eq_true] at valid
  exact absurd (valid.2 '/' member) (by decide)

namespace Identity

/-- What an identity shows in its storage key. -/
def parts (identity : Identity) : String × String × String :=
  (identity.language, identity.within.display, identity.key)

/-- The language and the section as they stand in the storage key. -/
def place (identity : Identity) : String := identity.language ++ "/" ++ identity.within.display

/-- The language has no slash, and the section has none unless it is a slash and
nothing else. A slash alone does no harm because no section shows an empty text: with
an empty section, the language `en/` would share `en///k` with the section `/` of `en`. -/
structure IsApart (identity : Identity) : Prop where
  language : '/' ∉ identity.language.toList
  within : '/' ∈ identity.within.display.toList → identity.within.display = "/"

variable {identity other : Identity}

theorem toList_storageKey (identity : Identity) :
    identity.storageKey.toList =
      identity.language.toList ++ '/' :: (identity.within.display.toList ++
        '/' :: identity.key.toList) := by
  simp [storageKey, sectionKey]

theorem toList_storageKey_place (identity : Identity) :
    identity.storageKey.toList = identity.place.toList ++ '/' :: identity.key.toList := by
  simp [toList_storageKey, place]

theorem storageKey_eq_iff_toList :
    other.storageKey = identity.storageKey ↔
      other.storageKey.toList = identity.storageKey.toList :=
  String.toList_inj.symm

theorem storageKey_eq_iff_display {key language : String} {first second : Section} :
    storageKey ⟨key, language, first⟩ = storageKey ⟨key, language, second⟩ ↔
      first.display = second.display := by
  simp [storageKey_eq_iff_toList, toList_storageKey, String.toList_inj]

theorem storageKey_eq_iff (valid : isValidKey identity.key = true)
    (otherValid : isValidKey other.key = true) :
    other.storageKey = identity.storageKey ↔
      other.key = identity.key ∧ other.place = identity.place := by
  rw [storageKey_eq_iff_toList, toList_storageKey_place, toList_storageKey_place,
    Text.append_cons_eq_append_cons_iff, ← String.toList_inj, ← String.toList_inj]
  constructor
  -- A second cut would lie within one of the keys.
  · rintro (⟨place, key⟩ | ⟨middle, -, key⟩ | ⟨middle, -, key⟩)
    · exact ⟨key, place⟩
    · exact (slash_notMem_of_isValidKey otherValid (by simp [key])).elim
    · exact (slash_notMem_of_isValidKey valid (by simp [key])).elim
  · rintro ⟨key, place⟩
    exact .inl ⟨place, key⟩

theorem IsApart.parts_eq (apart : identity.IsApart) (valid : isValidKey identity.key = true)
    (same : other.storageKey = identity.storageKey) : other.parts = identity.parts := by
  have inKey := slash_notMem_of_isValidKey valid
  have otherNonempty : other.within.display.toList ≠ [] := by
    simpa using other.within.display_ne_empty
  have alone : '/' ∈ identity.within.display.toList → identity.within.display.toList = ['/'] :=
    fun member => by rw [apart.within member]; rfl
  rw [storageKey_eq_iff_toList, toList_storageKey, toList_storageKey, eq_comm,
    Text.append_cons_eq_append_cons_iff] at same
  -- First by where the language ends, then by where the section ends.
  rcases same with ⟨language, same⟩ | ⟨first, language, same⟩ | ⟨first, language, -⟩
  · rcases Text.append_cons_eq_append_cons_iff.1 same with
      ⟨within, key⟩ | ⟨second, -, key⟩ | ⟨second, within, -⟩
    · simp only [parts, String.toList_inj.1 language, String.toList_inj.1 within,
        String.toList_inj.1 key]
    · exact (inKey (by simp [key])).elim
    · have slash := alone (by simp [within])
      rw [within, List.append_eq_singleton_iff] at slash
      simp [otherNonempty] at slash
  · rcases Text.append_cons_eq_append_cons_iff.1 same with
      ⟨-, key⟩ | ⟨second, -, key⟩ | ⟨second, within, key⟩
    · exact (inKey (by simp [key])).elim
    · exact (inKey (by simp [key])).elim
    -- The section is a slash, so the section of the other is empty or takes up the key.
    · have slash := alone (by simp [within])
      rw [within, List.append_eq_singleton_iff] at slash
      obtain ⟨-, rest⟩ : first = [] ∧ second = [] := by simpa using slash
      obtain ⟨head, tail, shape⟩ := List.exists_cons_of_ne_nil otherNonempty
      rw [rest, shape, List.nil_append, List.cons_append, List.cons.injEq] at key
      exact (inKey (by simp [← key.2])).elim
  · exact (apart.language (by simp [language])).elim

/-- Any texts are the parts of an identity, but for an empty section. -/
theorem exists_toList_eq (language within key : List Char) (nonempty : within ≠ []) :
    ∃ identity : Identity, identity.language.toList = language ∧
      identity.within.display.toList = within ∧ identity.key.toList = key := by
  refine ⟨⟨String.ofList key, String.ofList language, .ofName (String.ofList within)⟩, ?_⟩
  simp [Section.display_ofName, nonempty]

/-- An identity that is not apart shares its storage key with one that shows other parts. -/
theorem exists_parts_ne (shared : ¬identity.IsApart) :
    ∃ other : Identity, other.storageKey = identity.storageKey ∧ other.parts ≠ identity.parts := by
  simp only [storageKey_eq_iff_toList, toList_storageKey]
  by_cases inLanguage : '/' ∈ identity.language.toList
  -- What follows the slash moves from the language into the section.
  · obtain ⟨before, after, cut⟩ := List.append_of_mem inLanguage
    obtain ⟨other, language, within, key⟩ := exists_toList_eq before
      (after ++ '/' :: identity.within.display.toList) identity.key.toList (by simp)
    refine ⟨other, by simp [language, within, key, cut], fun same => ?_⟩
    rw [parts, parts, Prod.mk.injEq, ← String.toList_inj, language, cut] at same
    simp at same
  have inWithin : '/' ∈ identity.within.display.toList := by
    by_contra absent
    exact shared ⟨inLanguage, fun member => (absent member).elim⟩
  obtain ⟨before, after, cut⟩ := List.append_of_mem inWithin
  cases before with
  -- The slash in front moves into the language.
  | nil =>
    have nonempty : after ≠ [] := by
      rintro rfl
      exact shared ⟨inLanguage, fun _ => String.toList_inj.1 cut⟩
    obtain ⟨other, language, within, key⟩ := exists_toList_eq (identity.language.toList ++ ['/'])
      after identity.key.toList nonempty
    refine ⟨other, by simp [language, within, key, cut], fun same => ?_⟩
    rw [parts, parts, Prod.mk.injEq, ← String.toList_inj, language] at same
    simp at same
  -- What follows the slash moves into the key.
  | cons first rest =>
    obtain ⟨other, language, within, key⟩ := exists_toList_eq identity.language.toList
      (first :: rest) (after ++ '/' :: identity.key.toList) (by simp)
    refine ⟨other, by simp [language, within, key, cut], fun same => ?_⟩
    rw [parts, parts, Prod.mk.injEq, Prod.mk.injEq, ← @String.toList_inj other.key, key] at same
    have longer := congrArg List.length same.2.2
    simp at longer
    omega

/-- An identity with a valid key shares its storage key only with those that show the
same parts just when it is apart. -/
theorem isApart_iff (valid : isValidKey identity.key = true) :
    identity.IsApart ↔
      ∀ other : Identity, other.storageKey = identity.storageKey → other.parts = identity.parts := by
  constructor
  · intro apart other same
    exact apart.parts_eq valid same
  · intro alone
    by_contra shared
    obtain ⟨other, same, different⟩ := exists_parts_ne shared
    exact different (alone other same)

end Identity

end Phrasebook
