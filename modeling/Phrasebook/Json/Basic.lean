import Phrasebook.Number.Binary

/-! JSON values.

Members of an object keep their order and may repeat a name. A number is an
integer if it is written as one and fits in 64 bits.
-/

set_option autoImplicit false

namespace Phrasebook

inductive Json where
  | null
  | boolean (value : Bool)
  | integer (value : Int)
  | real (value : Binary64)
  | string (value : String)
  | list (items : List Json)
  | object (members : List (String × Json))

namespace Json

def string? : Json → Option String
  | .string value => some value
  | _ => none

end Json

end Phrasebook
