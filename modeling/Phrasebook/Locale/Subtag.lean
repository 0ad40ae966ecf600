import Phrasebook.Text.Split

/-! Subtags of a locale tag.

A tag is split at hyphens and read without regard to case, so all subtags are in
lower case here. Each kind of subtag is told by its length and its letters and
digits; only ASCII letters and digits occur.
-/

set_option autoImplicit false

namespace Phrasebook

abbrev Subtag := List Char

namespace Subtag

def ofTag (tag : String) : List Subtag := Text.split '-' (tag.toList.map Char.toLower)

def isLetters (subtag : Subtag) : Bool := subtag.all Char.isAlpha

def isDigits (subtag : Subtag) : Bool := subtag.all Char.isDigit

def isWord (subtag : Subtag) : Bool := subtag.all Char.isAlphanum

def hasLength (first last : Nat) (subtag : Subtag) : Bool :=
  first ≤ subtag.length && subtag.length ≤ last

def isLanguage (subtag : Subtag) : Bool := hasLength 2 3 subtag && isLetters subtag

def isScript (subtag : Subtag) : Bool := hasLength 4 4 subtag && isLetters subtag

def isRegion (subtag : Subtag) : Bool :=
  (hasLength 2 2 subtag && isLetters subtag) || (hasLength 3 3 subtag && isDigits subtag)

/-- Five to eight letters or digits, or four that begin with a digit. -/
def isVariant (subtag : Subtag) : Bool :=
  isWord subtag &&
    (hasLength 5 8 subtag || (hasLength 4 4 subtag && (subtag.head?.any Char.isDigit)))

def isSingleton : Subtag → Bool
  | [character] => character.toNat < 128
  | _ => false

def isValue (subtag : Subtag) : Bool := hasLength 3 8 subtag && isWord subtag

def isKeywordKey : Subtag → Bool
  | [first, second] => first.isAlphanum && second.isAlpha
  | _ => false

def isFieldKey : Subtag → Bool
  | [first, second] => first.isAlpha && second.isDigit
  | _ => false

def isOther (subtag : Subtag) : Bool := hasLength 2 8 subtag && isWord subtag

def isPrivate (subtag : Subtag) : Bool := hasLength 1 8 subtag && isWord subtag

end Subtag

end Phrasebook
