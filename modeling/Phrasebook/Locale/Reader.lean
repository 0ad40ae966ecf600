import Phrasebook.Locale.Basic

/-! Reading locale tags.

Subtags are taken from left to right, each by the first kind that fits where it
stands. Every step leaves a rest that is no longer than what it was given, so
the extensions are read by recursion on the number of subtags.
-/

set_option autoImplicit false

namespace Phrasebook.Locale

def insertSorted (subtag : Subtag) : List Subtag → List Subtag
  | [] => [subtag]
  | first :: rest =>
    if subtag = first then first :: rest
    else if subtag < first then subtag :: first :: rest
    else first :: insertSorted subtag rest

/-- Insert a setting by its key. The first setting of a key is kept. -/
def insertSetting (setting : Setting) : List Setting → List Setting
  | [] => [setting]
  | first :: rest =>
    if setting.1 = first.1 then first :: rest
    else if setting.1 < first.1 then setting :: first :: rest
    else first :: insertSetting setting rest

def insertOther (other : Char × List Subtag) : List (Char × List Subtag) →
    List (Char × List Subtag)
  | [] => [other]
  | first :: rest =>
    if other.1 < first.1 then other :: first :: rest else first :: insertOther other rest

def optional (accepts : Subtag → Bool) : List Subtag → Option Subtag × List Subtag
  | [] => (none, [])
  | subtag :: rest => if accepts subtag then (some subtag, rest) else (none, subtag :: rest)

def readVariants (seen : List Subtag) : List Subtag →
    Except LocaleFault (List Subtag × List Subtag)
  | [] => .ok (seen, [])
  | subtag :: rest =>
    if subtag.isVariant then
      if subtag ∈ seen then .error .subtag else readVariants (insertSorted subtag seen) rest
    else .ok (seen, subtag :: rest)

def readLanguageTag (language : Subtag) (rest : List Subtag) :
    Except LocaleFault (LanguageTag × List Subtag) := do
  let (script, rest) := optional Subtag.isScript rest
  let (region, rest) := optional Subtag.isRegion rest
  let (variants, rest) ← readVariants [] rest
  return (⟨language, script, region, variants⟩, rest)

/-- The value `true` is the same as no value. -/
def keepValue (value : Subtag) : List Subtag := if value = "true".toList then [] else [value]

def valuesOf (subtags : List Subtag) : List Subtag :=
  (subtags.takeWhile Subtag.isValue).flatMap keepValue

def afterValues (subtags : List Subtag) : List Subtag := subtags.dropWhile Subtag.isValue

theorem afterValues_length (subtags : List Subtag) :
    (afterValues subtags).length ≤ subtags.length :=
  (List.dropWhile_suffix _).length_le

def readKeywords (seen : List Setting) (subtags : List Subtag) :
    Except LocaleFault (List Setting × List Subtag) :=
  match subtags with
  | [] => .ok (seen, [])
  | key :: rest =>
    if key.length = 2 then
      if key.isKeywordKey then
        readKeywords (insertSetting (key, valuesOf rest) seen) (afterValues rest)
      else .error .extension
    else .ok (seen, key :: rest)
termination_by subtags.length
decreasing_by
  have := afterValues_length rest
  simp only [List.length_cons]
  omega

def readUnicode (subtags : List Subtag) :
    Except LocaleFault ((List Subtag × List Setting) × List Subtag) := do
  let attributes := (subtags.takeWhile Subtag.isValue).foldl (fun seen next =>
    insertSorted next seen) []
  let (keywords, rest) ← readKeywords [] (afterValues subtags)
  if attributes = [] ∧ keywords = [] then throw .extension
  return ((attributes, keywords), rest)

def readFields (seen : List Setting) (subtags : List Subtag) :
    Except LocaleFault (List Setting × List Subtag) :=
  match subtags with
  | [] => .ok (seen, [])
  | key :: rest =>
    if key.isFieldKey then
      if (rest.head?.any Subtag.isValue) then
        readFields (insertSetting (key, valuesOf rest) seen) (afterValues rest)
      else .error .extension
    else .ok (seen, key :: rest)
termination_by subtags.length
decreasing_by
  have := afterValues_length rest
  simp only [List.length_cons]
  omega

def readTransform (subtags : List Subtag) :
    Except LocaleFault ((Option LanguageTag × List Setting) × List Subtag) := do
  let (source, rest) ← match subtags with
    | language :: rest =>
      if language.isLanguage then do
        let (tag, rest) ← readLanguageTag language rest
        pure (some tag, rest)
      else pure (none, language :: rest)
    | [] => pure (none, [])
  let (fields, rest) ← readFields [] rest
  if source = none ∧ fields = [] then throw .extension
  return ((source, fields), rest)

/-- The extensions, one singleton after the other. The bound is the number of
subtags, and each round takes at least one. -/
def readExtensions (bound : Nat) (extensions : Extensions) (subtags : List Subtag) :
    Except LocaleFault Extensions :=
  match bound, subtags with
  | _, [] => .ok extensions
  | 0, _ :: _ => .error .extension
  | bound + 1, subtag :: rest =>
    match subtag with
    | ['u'] =>
      if extensions.unicode.isSome then .error .duplicateExtension
      else do
        let (unicode, rest) ← readUnicode rest
        readExtensions bound { extensions with unicode := some unicode } rest
    | ['t'] =>
      if extensions.transform.isSome then .error .duplicateExtension
      else do
        let (transform, rest) ← readTransform rest
        readExtensions bound { extensions with transform := some transform } rest
    | ['x'] =>
      -- All that stands behind this singleton belongs to it.
      if rest ≠ [] ∧ rest.all Subtag.isPrivate then
        .ok { extensions with personal := some rest }
      else .error .extension
    | [singleton] =>
      if singleton.isAlpha then
        if extensions.others.any (·.1 == singleton) then .error .duplicateExtension
        else
          let subtags := rest.takeWhile Subtag.isOther
          if subtags = [] then .error .extension
          else readExtensions bound
            { extensions with others := insertOther (singleton, subtags) extensions.others }
            (rest.dropWhile Subtag.isOther)
      else .error .extension
    | _ => .error .extension

def readSubtags : List Subtag → Except LocaleFault Locale
  | [] => .error .language
  | language :: rest =>
    if language.isLanguage then do
      let (tag, rest) ← readLanguageTag language rest
      match rest with
      | [] => return ⟨tag, .none⟩
      | subtag :: _ =>
        if subtag.isSingleton then
          return ⟨tag, ← readExtensions rest.length .none rest⟩
        else throw .subtag
    else .error .language

def read (tag : String) : Except LocaleFault Locale := readSubtags (Subtag.ofTag tag)

end Phrasebook.Locale
