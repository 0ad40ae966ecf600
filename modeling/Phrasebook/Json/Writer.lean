import Phrasebook.Json.Quotation

/-! Writing JSON values, in one line or indented by two spaces. -/

set_option autoImplicit false

namespace Phrasebook.Json

/-- A number that JSON cannot hold is written as `null`. -/
def writeReal (value : Binary64) : List Char := (value.json?.getD "null").toList

mutual

def compact : Json → List Char
  | .null => "null".toList
  | .boolean value => if value then "true".toList else "false".toList
  | .integer value => Numeral.ofInt value
  | .real value => writeReal value
  | .string value => Quotation.write value
  | .list items => '[' :: compactItems items ++ [']']
  | .object members => '{' :: compactMembers members ++ ['}']

def compactItems : List Json → List Char
  | [] => []
  | [item] => compact item
  | item :: rest => compact item ++ ',' :: compactItems rest

def compactMembers : List (String × Json) → List Char
  | [] => []
  | [(name, value)] => Quotation.write name ++ ':' :: compact value
  | (name, value) :: rest =>
    Quotation.write name ++ ':' :: compact value ++ ',' :: compactMembers rest

end

def newLine (depth : Nat) : List Char := '\n' :: List.replicate (2 * depth) ' '

mutual

/-- A value over several lines. Empty lists and objects stay in one. -/
def pretty (depth : Nat) : Json → List Char
  | .list [] => ['[', ']']
  | .object [] => ['{', '}']
  | .list items => '[' :: prettyItems (depth + 1) items ++ newLine depth ++ [']']
  | .object members => '{' :: prettyMembers (depth + 1) members ++ newLine depth ++ ['}']
  | .null => compact .null
  | .boolean value => compact (.boolean value)
  | .integer value => compact (.integer value)
  | .real value => compact (.real value)
  | .string value => compact (.string value)

def prettyItems (depth : Nat) : List Json → List Char
  | [] => []
  | [item] => newLine depth ++ pretty depth item
  | item :: rest => newLine depth ++ pretty depth item ++ ',' :: prettyItems depth rest

def prettyMembers (depth : Nat) : List (String × Json) → List Char
  | [] => []
  | [(name, value)] => newLine depth ++ Quotation.write name ++ ':' :: ' ' :: pretty depth value
  | (name, value) :: rest =>
    newLine depth ++ Quotation.write name ++ ':' :: ' ' :: pretty depth value ++
      ',' :: prettyMembers depth rest

end

end Phrasebook.Json
