import Phrasebook.Audit
import Phrasebook.Json.Writer
import Phrasebook.Plural.Category

/-! The JSON forms of sections, identities and entries. -/

set_option autoImplicit false

namespace Phrasebook

def Section.toJson : Section → Json
  | .number id => .integer id.toNat
  | .name text _ => .string text

namespace Identity

def members (identity : Identity) : List (String × Json) :=
  [("key", .string identity.key), ("language", .string identity.language),
    ("section", identity.within.toJson)]

def toJson (identity : Identity) : Json := .object identity.members

end Identity

def Entry.toJson (entry : Entry) : Json :=
  .object (entry.identity.members ++ [("template", .string entry.template)])

def Category.toJson (category : Category) : Json := .string category.name

def Event.toJson (event : Event) : Json := .string event.name

def writeCatalog (entries : List Entry) : String :=
  String.ofList (Json.list (entries.map Entry.toJson)).compact

end Phrasebook
