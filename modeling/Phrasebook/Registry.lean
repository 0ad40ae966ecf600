import Phrasebook.Plural.Rule
import Phrasebook.Text.Quoted
import Std.Data.ExtTreeMap

/-! The registry of plural rules by language.

It begins with the built-in languages and names one of them as the fallback.
Rules can be added and replaced but not removed, so the fallback always has one.
-/

set_option autoImplicit false

namespace Phrasebook

/-- Why a registry or a rule could not be built. -/
inductive ConfigurationError where
  | unknownDefaultLanguage (language : String)
  | invalidLocale (tag : String) (fault : LocaleFault)
  deriving DecidableEq, Repr

namespace ConfigurationError

def message : ConfigurationError → String
  | .unknownDefaultLanguage language =>
    "unable to look up pluralizer for fallback language '" ++ language ++ "'"
  | .invalidLocale tag fault => "invalid locale '" ++ tag ++ "': " ++ fault.message

end ConfigurationError

-- A tag can be refused, a locale cannot. The plural data are compiled in and answer for
-- every valid locale: one that is not listed has `other` alone (`Cardinal.conditions`).
-- So there is no error for a locale without plural data.
def Locale.ofTag (tag : String) : Except ConfigurationError Locale :=
  (Locale.read tag).mapError (.invalidLocale tag)

structure Registry where
  defaultLanguage : String
  rules : Std.ExtTreeMap String Rule
  defaultRegistered : defaultLanguage ∈ rules

namespace Registry

def builtin : Std.ExtTreeMap String Rule :=
  (((∅ : Std.ExtTreeMap String Rule).insert "ru" .russian).insert "en" .english).insert
    "it" .english

def ofDefault (language : String) : Except ConfigurationError Registry :=
  if registered : language ∈ builtin then .ok ⟨language, builtin, registered⟩
  else .error (.unknownDefaultLanguage language)

def english : Registry := ⟨"en", builtin, by simp [builtin]⟩

instance : Inhabited Registry := ⟨english⟩

def languages (registry : Registry) : List String := registry.rules.keys

def rule? (registry : Registry) (language : String) : Option Rule := registry.rules[language]?

def defaultRule (registry : Registry) : Rule :=
  registry.rules.get registry.defaultLanguage registry.defaultRegistered

def add (registry : Registry) (language : String) (rule : Rule) : Registry :=
  ⟨registry.defaultLanguage, registry.rules.insert language rule,
    Std.ExtTreeMap.mem_insert.2 (.inr registry.defaultRegistered)⟩

def addCardinal (registry : Registry) (language : String) :
    Except ConfigurationError (Rule × Registry) :=
  (Locale.ofTag language).map fun locale =>
    (.cardinal locale, registry.add language (.cardinal locale))

def build (defaultLanguage : String) (cardinals : List String) :
    Except ConfigurationError Registry := do
  cardinals.foldlM (fun registry language => return (← registry.addCardinal language).2)
    (← ofDefault defaultLanguage)

theorem rule?_add (registry : Registry) (language other : String) (rule : Rule) :
    (registry.add language rule).rule? other =
      if language = other then some rule else registry.rule? other := by
  simp [add, rule?, Std.ExtTreeMap.getElem?_insert]

theorem rule?_defaultLanguage (registry : Registry) :
    registry.rule? registry.defaultLanguage = some registry.defaultRule :=
  Std.ExtTreeMap.getElem?_eq_some_getElem registry.defaultRegistered

def describe (registry : Registry) : String :=
  "PluralizerRegistry \x7b default_language: " ++ Text.quoted registry.defaultLanguage ++
    ", languages: [" ++ ", ".intercalate (registry.languages.map Text.quoted) ++ "] \x7d"

end Registry

end Phrasebook
