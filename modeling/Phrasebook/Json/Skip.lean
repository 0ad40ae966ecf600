import Phrasebook.Json.Reader

/-! Passing over JSON values that are not wanted.

What is passed over has to be well formed, but its numbers may be of any size
and it may be nested to any depth. The open lists and objects are kept on a
stack, and every step takes at least one character.
-/

set_option autoImplicit false

namespace Phrasebook.Json.Skip

def exponent (text : List Char) : Except Fault (List Char) :=
  let digits := match text with
    | '+' :: rest => rest
    | '-' :: rest => rest
    | _ => text
  if digits.head?.any Char.isDigit then .ok (digits.dropWhile Char.isDigit)
  else .error (.past .invalidNumber digits)

def optionalExponent (text : List Char) : Except Fault (List Char) :=
  match text with
  | letter :: rest => if letter = 'e' ∨ letter = 'E' then exponent rest else .ok text
  | [] => .ok []

def number (text : List Char) : Except Fault (List Char) :=
  let digits := text.takeWhile Char.isDigit
  match digits, text.dropWhile Char.isDigit with
  | [], _ => .error (.past .invalidNumber text)
  | '0' :: _ :: _, _ => .error (.past .invalidNumber text.tail)
  | _, '.' :: fraction =>
    if fraction.head?.any Char.isDigit then
      optionalExponent (fraction.dropWhile Char.isDigit)
    else .error (.past .invalidNumber fraction)
  | _, rest => optionalExponent rest

inductive Frame where
  | list
  | object
  deriving DecidableEq, Repr

def Frame.endInside : Frame → Cause
  | .list => .endInList
  | .object => .endInObject

def Frame.expectedCommaOrEnd : Frame → Cause
  | .list => .expectedCommaOrListEnd
  | .object => .expectedCommaOrObjectEnd

def Frame.closing : Frame → Char
  | .list => ']'
  | .object => '}'

def Frame.enter (frame : Frame) (text : List Char) : Except Fault (List Char) :=
  match frame with
  | .list => .ok text
  | .object =>
    match skipBlanks text with
    | [] => .error (.before .endInObject [])
    | '"' :: rest => do readColon (← Quotation.skipAfter 0 rest)
    | other => .error (.past .keyNotText other)

def scalar (text : List Char) : Except Fault (List Char) :=
  match text with
  | [] => .error (.before .endInValue [])
  | '"' :: rest => Quotation.skipAfter 0 rest
  | '-' :: rest => number rest
  | first :: _ => if first.isDigit then number text else (readScalar text).map (·.2)

inductive Stage where
  | value
  | opened
  | closed
  deriving DecidableEq, Repr

def run : (characters : Nat) → Stage → List Frame → List Char → Except Fault (List Char)
  | 0, _, _, _ => .error (.before .endInValue [])
  | characters + 1, .value, frames, text =>
    match skipBlanks text with
    | '[' :: rest => run characters .opened (.list :: frames) rest
    | '{' :: rest => run characters .opened (.object :: frames) rest
    | rest => do run characters .closed frames (← scalar rest)
  | _ + 1, .opened, [], text => .ok text
  | characters + 1, .opened, frame :: frames, text =>
    match skipBlanks text with
    | [] => .error (.before frame.endInside [])
    | first :: rest =>
      if first = frame.closing then run characters .closed frames rest
      else do run characters .value (frame :: frames) (← frame.enter (first :: rest))
  | _ + 1, .closed, [], text => .ok text
  | characters + 1, .closed, frame :: frames, text =>
    match skipBlanks text with
    | [] => .error (.before frame.endInside [])
    | first :: rest =>
      if first = ',' then do run characters .value (frame :: frames) (← frame.enter rest)
      else if first = frame.closing then run characters .closed frames rest
      else .error (.past frame.expectedCommaOrEnd (first :: rest))

/-- Pass over one value. Opening a list or an object takes one character and one
step more than it takes, so two steps for each character are enough. -/
def value (text : List Char) : Except Fault (List Char) :=
  run (2 * text.length + 2) .value [] text

end Phrasebook.Json.Skip
