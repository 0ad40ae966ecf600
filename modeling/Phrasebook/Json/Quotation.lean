import Phrasebook.Json.Number

/-! Texts in JSON, between double quotes.

Quotes, backslashes and control characters are escaped. A character outside the
basic plane may be escaped as a pair of surrogates, and a surrogate may not stand
alone.
-/

set_option autoImplicit false

namespace Phrasebook.Json.Quotation

def hexValue? (digit : Char) : Option Nat :=
  if digit.isDigit then some (digit.toNat - '0'.toNat)
  else if 'a' ≤ digit ∧ digit ≤ 'f' then some (digit.toNat - 'a'.toNat + 10)
  else if 'A' ≤ digit ∧ digit ≤ 'F' then some (digit.toNat - 'A'.toNat + 10)
  else none

/-- Four hexadecimal digits. A fault lies behind four bytes, or at the end if
there are not so many. -/
def readHex (text : List Char) : Except Fault Nat :=
  let digits := (text.take 4).filterMap hexValue?
  if digits.length = 4 then .ok (digits.foldl (fun number digit => number * 16 + digit) 0)
  else if byteLength text < 4 then .error (.before .endInText [])
  else .error ⟨.invalidEscape, text, 4, true⟩

def isHighSurrogate (unit : Nat) : Bool := 0xd800 ≤ unit && unit ≤ 0xdbff

def isLowSurrogate (unit : Nat) : Bool := 0xdc00 ≤ unit && unit ≤ 0xdfff

def joinSurrogates (high low : Nat) : Char :=
  Char.ofNat ((high - 0xd800) * 0x400 + (low - 0xdc00) + 0x10000)

def readLowSurrogate (text : List Char) : Except Fault Nat :=
  match text with
  | [] => .error (.before .endInText [])
  | ['\\'] => .error (.before .endInText [])
  | '\\' :: 'u' :: rest => do
    let unit ← readHex rest
    if isLowSurrogate unit then return unit
    else throw (.before .loneSurrogate (rest.drop 4))
  | '\\' :: rest => .error (.past .endOfHexEscape rest)
  | _ => .error (.past .endOfHexEscape text)

def readEscape (text : List Char) : Except Fault (Char × Nat) :=
  match text with
  | [] => .error (.before .endInText [])
  | '"' :: _ => .ok ('"', 1)
  | '\\' :: _ => .ok ('\\', 1)
  | '/' :: _ => .ok ('/', 1)
  | 'b' :: _ => .ok ('\x08', 1)
  | 'f' :: _ => .ok ('\x0c', 1)
  | 'n' :: _ => .ok ('\n', 1)
  | 'r' :: _ => .ok ('\r', 1)
  | 't' :: _ => .ok ('\t', 1)
  | 'u' :: rest => do
    let unit ← readHex rest
    if isLowSurrogate unit then throw (.before .loneSurrogate (rest.drop 4))
    else if isHighSurrogate unit then
      -- Two escapes of six characters, less the backslash that is gone.
      return (joinSurrogates unit (← readLowSurrogate (rest.drop 4)), 11)
    else return (Char.ofNat unit, 5)
  | _ => .error (.past .invalidEscape text)

/-- The characters up to the closing quote, and the rest behind it. The first
characters belong to an escape that was already read. -/
def readAfter : (covered : Nat) → Reader (List Char)
  | _, [] => .error (.before .endInText [])
  | covered + 1, _ :: rest => readAfter covered rest
  | 0, first :: rest =>
    if first = '"' then .ok ([], rest)
    else if first = '\\' then do
      let (character, covered) ← readEscape rest
      let (characters, rest) ← readAfter covered rest
      return (character :: characters, rest)
    else if first < ' ' then .error (.before .controlCharacter rest)
    else do
      let (characters, rest) ← readAfter 0 rest
      return (first :: characters, rest)

def read : Reader String := fun text => do
  let (characters, rest) ← readAfter 0 text
  return (String.ofList characters, rest)

def skipEscape (text : List Char) : Except Fault Nat :=
  match text with
  | [] => .error (.before .endInText [])
  | 'u' :: rest => do
    let _ ← readHex rest
    return 5
  | letter :: _ =>
    if "\"\\/bfnrt".toList.contains letter then .ok 1 else .error (.past .invalidEscape text)

/-- Pass over the rest of a text that is not wanted. Its surrogates are not paired. -/
def skipAfter : (covered : Nat) → List Char → Except Fault (List Char)
  | _, [] => .error (.before .endInText [])
  | covered + 1, _ :: rest => skipAfter covered rest
  | 0, first :: rest =>
    if first = '"' then .ok rest
    else if first = '\\' then do skipAfter (← skipEscape rest) rest
    else if first < ' ' then .error (.before .controlCharacter (first :: rest))
    else skipAfter 0 rest

def hexDigits (unit : Nat) : List Char :=
  let digits := Nat.toDigits 16 unit
  List.replicate (4 - digits.length) '0' ++ digits

def escape (character : Char) : List Char :=
  if character = '"' then ['\\', '"']
  else if character = '\\' then ['\\', '\\']
  else if character = '\x08' then ['\\', 'b']
  else if character = '\x0c' then ['\\', 'f']
  else if character = '\n' then ['\\', 'n']
  else if character = '\r' then ['\\', 'r']
  else if character = '\t' then ['\\', 't']
  else if character < ' ' then '\\' :: 'u' :: hexDigits character.toNat
  else [character]

def write (text : String) : List Char := '"' :: text.toList.flatMap escape ++ ['"']

end Phrasebook.Json.Quotation
