import Phrasebook.Locale.Subtag

/-! Locales and their normalized tags.

A tag names a language, then perhaps a script, a region and variants, and then
extensions. The normalized tag has one form for all spellings of a locale: lower
case but for the script and the region, and sorted where order does not matter.
-/

set_option autoImplicit false

namespace Phrasebook

/-- The part of a tag before the extensions. All subtags are in lower case. -/
structure LanguageTag where
  language : Subtag
  script : Option Subtag
  region : Option Subtag
  variants : List Subtag
  deriving DecidableEq, Repr

abbrev Setting := Subtag × List Subtag

/-- The extensions of a tag, in the order in which they are written. Those of
other singletons stand before and behind the two with a meaning of their own. -/
structure Extensions where
  others : List (Char × List Subtag)
  transform : Option (Option LanguageTag × List Setting)
  unicode : Option (List Subtag × List Setting)
  personal : Option (List Subtag)
  deriving DecidableEq, Repr

structure Locale where
  tag : LanguageTag
  extensions : Extensions
  deriving DecidableEq, Repr

inductive LocaleFault where
  | language
  | subtag
  | extension
  | duplicateExtension
  deriving DecidableEq, Repr

def LocaleFault.message : LocaleFault → String
  | .language => "The given language subtag is invalid"
  | .subtag => "Invalid subtag"
  | .extension => "Invalid extension"
  | .duplicateExtension => "Duplicated extension"

namespace LanguageTag

def titleCase : Subtag → Subtag
  | [] => []
  | first :: rest => first.toUpper :: rest

def subtags (tag : LanguageTag) : List Subtag :=
  tag.language :: tag.script.toList ++ tag.region.toList ++ tag.variants

def display (tag : LanguageTag) : List Subtag :=
  tag.language :: tag.script.toList.map titleCase ++
    tag.region.toList.map (·.map Char.toUpper) ++ tag.variants

end LanguageTag

namespace Extensions

def none : Extensions := ⟨[], .none, .none, .none⟩

def settings (entries : List Setting) : List Subtag :=
  entries.flatMap fun entry => entry.1 :: entry.2

/-- A field without a value is written with the value `true`. -/
def fields (entries : List Setting) : List Subtag :=
  entries.flatMap fun entry => entry.1 :: if entry.2 = [] then ["true".toList] else entry.2

def displayOthers (others : List (Char × List Subtag)) : List Subtag :=
  others.flatMap fun other => [other.1] :: other.2

/-- Extensions are written in the order of their singletons, the private one last. -/
def display (extensions : Extensions) : List Subtag :=
  displayOthers (extensions.others.filter (·.1 < 't')) ++
    (extensions.transform.toList.flatMap fun transform =>
      ['t'] :: (transform.1.toList.flatMap LanguageTag.subtags ++ fields transform.2)) ++
    (extensions.unicode.toList.flatMap fun unicode =>
      ['u'] :: (unicode.1 ++ settings unicode.2)) ++
    displayOthers (extensions.others.filter ('t' < ·.1)) ++
    (extensions.personal.toList.flatMap fun subtags => ['x'] :: subtags)

end Extensions

def Locale.display (locale : Locale) : String :=
  String.ofList (List.intercalate ['-'] (locale.tag.display ++ locale.extensions.display))

end Phrasebook
