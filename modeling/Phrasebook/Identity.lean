import Phrasebook.Number.Numeral

/-! Identities of translations: a key in a section of a language.

Sections have a number or a name. Whenever a section is made from a text or read
from a catalog, the empty name means section zero, so a named section has a name
and no section shows an empty text in a storage key.
-/

set_option autoImplicit false

namespace Phrasebook

inductive Section where
  | number (id : UInt32)
  | name (text : String) (nonempty : text ≠ "")
  deriving DecidableEq

namespace Section

instance : Inhabited Section := ⟨.number 0⟩

def ofName (text : String) : Section :=
  if empty : text = "" then .number 0 else .name text empty

def display : Section → String
  | .number id => Numeral.display id.toNat
  | .name text _ => text

theorem ofName_display_name (text : String) (nonempty : text ≠ "") :
    ofName (Section.name text nonempty).display = .name text nonempty := by
  simp [ofName, display, nonempty]

end Section

structure Identity where
  key : String
  language : String
  within : Section := default
  deriving DecidableEq

namespace Identity

def sectionKey (identity : Identity) : String := identity.within.display ++ "/" ++ identity.key

def storageKey (identity : Identity) : String := identity.language ++ "/" ++ identity.sectionKey

end Identity

structure Entry where
  identity : Identity
  template : String
  deriving DecidableEq

def isKeyCharacter (character : Char) : Bool :=
  character.isLower || character.isDigit ||
    ['.', '#', '=', '{', '}', '[', ']', '-'].contains character

def isValidKey (key : String) : Bool := !key.isEmpty && key.toList.all isKeyCharacter

end Phrasebook
