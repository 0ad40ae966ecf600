import Phrasebook.Json.Reader

/-! Names from a closed set, as JSON texts.

A name may also stand as the only member of an object, with `null` as its value.
-/

set_option autoImplicit false

namespace Phrasebook.Json

def readKnown (known : List String) : Reader String := fun text => do
  let (name, rest) ← readText "variant identifier" text
  if known.contains name then return (name, rest)
  else throw (.before (.unknownName name known) rest)

def readNull (text : List Char) : Except Fault (List Char) :=
  match skipBlanks text with
  | [] => .error (.before .endInValue [])
  | 'n' :: rest => (readWord .null "ull".toList rest).map (·.2)
  | other => (wrongType "unit" other).map fun (read : Unit × List Char) => read.2

def readVariant (known : List String) : Reader String := fun text =>
  match skipBlanks text with
  | [] => .error (.before .endInValue [])
  | '"' :: rest => readKnown known ('"' :: rest)
  | '{' :: rest => do
    let (name, rest) ← readKnown known rest
    let rest ← readNull (← readColon rest)
    match skipBlanks rest with
    | [] => throw (.before .endInObject [])
    | '}' :: rest => return (name, rest)
    | other => throw (.before .expectedValue other)
  | other => .error (.past .expectedValue other)

end Phrasebook.Json
