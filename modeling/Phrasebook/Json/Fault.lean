import Phrasebook.Json.Basic
import Phrasebook.Number.Text
import Phrasebook.Text.Quoted

/-! What can be wrong with a JSON text, and where.

A fault is placed by what was left to read. Some faults are found only when a
whole list or object has been read; these get their place at its end.
-/

set_option autoImplicit false

namespace Phrasebook.Json

inductive FaultKind where
  | syntactic
  | mismatch
  | unexpectedEnd
  deriving DecidableEq, Repr

inductive Found where
  | null
  | boolean (value : Bool)
  | integer (value : Int)
  | real (value : Binary64)
  | string (value : String)
  | list
  | object
  deriving DecidableEq

inductive Cause where
  | endInValue
  | endInList
  | endInObject
  | endInText
  | expectedColon
  | expectedCommaOrListEnd
  | expectedCommaOrObjectEnd
  | expectedWord
  | expectedValue
  | keyNotText
  | trailingComma
  | trailingCharacters
  | invalidEscape
  | endOfHexEscape
  | loneSurrogate
  | controlCharacter
  | invalidNumber
  | outOfRange
  | nestedTooDeeply
  | missingMember (name : String)
  | duplicateMember (name : String)
  | unknownName (name : String) (known : List String)
  | wrongType (found : Found) (expected : String)
  | wrongLength (length : Nat) (expected : String)
  | noSection
  deriving DecidableEq

namespace Found

def ofJson : Json → Found
  | .null => .null
  | .boolean value => .boolean value
  | .integer value => .integer value
  | .real value => .real value
  | .string value => .string value
  | .list _ => .list
  | .object _ => .object

def describe : Found → String
  | .null => "null"
  | .boolean value => "boolean `" ++ (if value then "true" else "false") ++ "`"
  | .integer value => "integer `" ++ String.ofList (Numeral.ofInt value) ++ "`"
  | .real value => "floating point `" ++ (value.json?.getD value.display) ++ "`"
  | .string value => "string " ++ Text.quoted value
  | .list => "sequence"
  | .object => "map"

end Found

namespace Cause

def kind : Cause → FaultKind
  | .endInValue | .endInList | .endInObject | .endInText => .unexpectedEnd
  | .missingMember _ | .duplicateMember _ | .unknownName _ _ | .wrongType _ _
  | .wrongLength _ _ | .noSection => .mismatch
  | _ => .syntactic

def message : Cause → String
  | .endInValue => "EOF while parsing a value"
  | .endInList => "EOF while parsing a list"
  | .endInObject => "EOF while parsing an object"
  | .endInText => "EOF while parsing a string"
  | .expectedColon => "expected `:`"
  | .expectedCommaOrListEnd => "expected `,` or `]`"
  | .expectedCommaOrObjectEnd => "expected `,` or `\x7d`"
  | .expectedWord => "expected ident"
  | .expectedValue => "expected value"
  | .keyNotText => "key must be a string"
  | .trailingComma => "trailing comma"
  | .trailingCharacters => "trailing characters"
  | .invalidEscape => "invalid escape"
  | .endOfHexEscape => "unexpected end of hex escape"
  | .loneSurrogate => "lone leading surrogate in hex escape"
  | .controlCharacter =>
    "control character (\\u0000-\\u001F) found while parsing a string"
  | .invalidNumber => "invalid number"
  | .outOfRange => "number out of range"
  | .nestedTooDeeply => "recursion limit exceeded"
  | .missingMember name => "missing field `" ++ name ++ "`"
  | .duplicateMember name => "duplicate field `" ++ name ++ "`"
  | .unknownName name known =>
    "unknown variant `" ++ name ++ "`, expected one of " ++
      ", ".intercalate (known.map fun known => "`" ++ known ++ "`")
  | .wrongType found expected =>
    "invalid type: " ++ found.describe ++ ", expected " ++ expected
  | .wrongLength length expected =>
    "invalid length " ++ Numeral.display length ++ ", expected " ++ expected
  | .noSection => "data did not match any variant of untagged enum SectionRepr"

end Cause

/-- A cause with what was left to read and the number of bytes past its beginning
that count as read. An unplaced fault only tells how far reading had come. -/
structure Fault where
  cause : Cause
  rest : List Char
  ahead : Nat
  placed : Bool
  deriving DecidableEq

namespace Fault

def before (cause : Cause) (rest : List Char) : Fault := ⟨cause, rest, 0, true⟩

def past (cause : Cause) (rest : List Char) : Fault := ⟨cause, rest, 1, true⟩

def unplaced (cause : Cause) (rest : List Char) : Fault := ⟨cause, rest, 0, false⟩

/-- Place a fault that has no place, after as much of the rest as `close` takes. -/
def settle (close : List Char → List Char) (fault : Fault) : Fault :=
  if fault.placed then fault else before fault.cause (close fault.rest)

end Fault

/-- A line, counted from one, and the bytes read on it. -/
structure Position where
  line : Nat
  column : Nat
  deriving DecidableEq, Repr

namespace Position

def start : Position := ⟨1, 0⟩

def advance (position : Position) : (bytes : Nat) → List Char → Position
  | _, [] => position
  | bytes, character :: rest =>
    if bytes = 0 then position
    else if character = '\n' then advance ⟨position.line + 1, 0⟩ (bytes - 1) rest
    else if bytes < character.utf8Size then ⟨position.line, position.column + bytes⟩
    else advance ⟨position.line, position.column + character.utf8Size⟩
      (bytes - character.utf8Size) rest

end Position

def byteLength (text : List Char) : Nat := (text.map Char.utf8Size).sum

namespace Fault

def position? (fault : Fault) (text : List Char) : Option Position :=
  if fault.placed then
    some (Position.start.advance (byteLength text - byteLength fault.rest + fault.ahead) text)
  else none

def message (fault : Fault) (text : List Char) : String :=
  match fault.position? text with
  | none => fault.cause.message
  | some position =>
    fault.cause.message ++ " at line " ++ Numeral.display position.line ++
      " column " ++ Numeral.display position.column

end Fault

end Phrasebook.Json
