import Phrasebook.Json.Quotation

/-! Reading JSON values.

A reader takes a value from the beginning of a text. Lists and objects may be
nested as deeply as `depth` says. Items and members are read one after the other;
each takes at least one character, so the characters left bound their number.
-/

set_option autoImplicit false

namespace Phrasebook.Json

def isBlank (character : Char) : Bool :=
  character == ' ' || character == '\n' || character == '\t' || character == '\r'

def skipBlanks (text : List Char) : List Char := text.dropWhile isBlank

def maximumDepth : Nat := 127

def readWord (value : Json) : (word : List Char) → Reader Json
  | [], text => .ok (value, text)
  | _ :: _, [] => .error (.before .endInValue [])
  | expected :: word, first :: rest =>
    if first = expected then readWord value word rest
    else .error (.past .expectedWord (first :: rest))

def readScalar : Reader Json := fun text =>
  match text with
  | [] => .error (.before .endInValue [])
  | 'n' :: rest => readWord .null "ull".toList rest
  | 't' :: rest => readWord (.boolean true) "rue".toList rest
  | 'f' :: rest => readWord (.boolean false) "alse".toList rest
  | '"' :: rest => do
    let (content, rest) ← Quotation.read rest
    return (.string content, rest)
  | first :: _ =>
    if first = '-' ∨ first.isDigit then Number.read text else .error (.past .expectedValue text)

def nextItem (first : Bool) (text : List Char) : Except Fault (Option (List Char)) :=
  match skipBlanks text with
  | [] => .error (.before .endInList [])
  | ']' :: _ => .ok none
  | ',' :: rest =>
    -- A comma in front of the first item is left to the reader of the item, which refuses it.
    if first then .ok (some (',' :: rest))
    else match skipBlanks rest with
      | [] => .error (.before .endInValue [])
      | ']' :: rest => .error (.past .trailingComma (']' :: rest))
      | item => .ok (some item)
  | item => if first then .ok (some item) else .error (.past .expectedCommaOrListEnd item)

def nextMember (first : Bool) (text : List Char) : Except Fault (Option (List Char)) :=
  match skipBlanks text with
  | [] => .error (.before .endInObject [])
  | '}' :: _ => .ok none
  | ',' :: rest =>
    if first then .error (.past .keyNotText (',' :: rest))
    else match skipBlanks rest with
      | [] => .error (.before .endInValue [])
      | '"' :: rest => .ok (some rest)
      | '}' :: rest => .error (.past .trailingComma ('}' :: rest))
      | other => .error (.past .keyNotText other)
  | '"' :: rest =>
    if first then .ok (some rest) else .error (.past .expectedCommaOrObjectEnd ('"' :: rest))
  | other =>
    .error (.past (if first then .keyNotText else .expectedCommaOrObjectEnd) other)

def readColon (text : List Char) : Except Fault (List Char) :=
  match skipBlanks text with
  | [] => .error (.before .endInObject [])
  | ':' :: rest => .ok rest
  | other => .error (.past .expectedColon other)

section Sequences

variable {σ α : Type}

def readItems (item : σ → Reader σ) :
    (characters : Nat) → (first : Bool) → σ → Reader σ
  | 0, _, _, _ => .error (.before .endInList [])
  | characters + 1, first, state, text => do
    match ← nextItem first text with
    | none => return (state, skipBlanks text)
    | some rest =>
      let (state, rest) ← item state rest
      readItems item characters false state rest

/-- Read members up to the closing brace, which is left. The member reader is
given the name and what stands behind it. -/
def readMembers (member : σ → String → Reader σ) :
    (characters : Nat) → (first : Bool) → σ → Reader σ
  | 0, _, _, _ => .error (.before .endInObject [])
  | characters + 1, first, state, text => do
    match ← nextMember first text with
    | none => return (state, skipBlanks text)
    | some rest =>
      let (name, rest) ← Quotation.read rest
      let (state, rest) ← member state name rest
      readMembers member characters false state rest

def endList (text : List Char) : Except Fault (List Char) :=
  match skipBlanks text with
  | [] => .error (.before .endInList [])
  | ']' :: rest => .ok rest
  | ',' :: rest =>
    match skipBlanks rest with
    | ']' :: rest => .error (.past .trailingComma (']' :: rest))
    | other => .error (.past .trailingCharacters other)
  | other => .error (.past .trailingCharacters other)

/-- As much of a text as is taken at the end of a list that is at fault. -/
def closeList (text : List Char) : List Char :=
  match skipBlanks text with
  | ']' :: rest => rest
  | ',' :: rest => skipBlanks rest
  | other => other

def endObject (text : List Char) : Except Fault (List Char) :=
  match skipBlanks text with
  | [] => .error (.before .endInObject [])
  | '}' :: rest => .ok rest
  | ',' :: rest => .error (.past .trailingComma (',' :: rest))
  | other => .error (.past .trailingCharacters other)

def closeObject (text : List Char) : List Char :=
  match skipBlanks text with
  | '}' :: rest => rest
  | other => other

/-- A list whose inside is read by `inside`. Faults without a place get one here. -/
def bracketed (inside : Reader α) : Reader α := fun text =>
  match inside text with
  | .error fault => .error (fault.settle closeList)
  | .ok (value, rest) => (endList rest).map (value, ·)

def braced (inside : Reader α) : Reader α := fun text =>
  match inside text with
  | .error fault => .error (fault.settle closeObject)
  | .ok (value, rest) => (endObject rest).map (value, ·)

end Sequences

def readValue (depth : Nat) : Reader Json := fun text =>
  match depth, skipBlanks text with
  | 0, '[' :: rest => .error (.past .nestedTooDeeply ('[' :: rest))
  | 0, '{' :: rest => .error (.past .nestedTooDeeply ('{' :: rest))
  | depth + 1, '[' :: rest => do
    let item (items : List Json) : Reader (List Json) := fun text => do
      let (value, rest) ← readValue depth text
      return (value :: items, rest)
    let (items, rest) ← bracketed (readItems item (rest.length + 1) true []) rest
    return (.list items.reverse, rest)
  | depth + 1, '{' :: rest => do
    let member (members : List (String × Json)) (name : String) : Reader (List (String × Json)) :=
      fun text => do
        let (value, rest) ← readValue depth (← readColon text)
        return ((name, value) :: members, rest)
    let (members, rest) ← braced (readMembers member (rest.length + 1) true []) rest
    return (.object members.reverse, rest)
  | _, rest => readScalar rest

/-- The fault of a value that has the wrong type. Scalars are read first, and
what is wrong with them goes before. -/
def wrongType {α : Type} (expected : String) (text : List Char) : Except Fault (α × List Char) :=
  match text with
  | '[' :: _ => .error (.before (.wrongType .list expected) text)
  | '{' :: _ => .error (.before (.wrongType .object expected) text)
  | _ => do
    let (value, rest) ← readScalar text
    throw (.before (.wrongType (.ofJson value) expected) rest)

def readText (expected : String) : Reader String := fun text =>
  match skipBlanks text with
  | [] => .error (.before .endInValue [])
  | '"' :: rest => Quotation.read rest
  | other => wrongType expected other

def readAll {α : Type} (reader : Reader α) (text : List Char) : Except Fault α := do
  let (value, rest) ← reader text
  match skipBlanks rest with
  | [] => return value
  | other => throw (.past .trailingCharacters other)

end Phrasebook.Json
