/-! The grammar of command-line arguments.

Options begin with two hyphens and have values behind an equals sign or in the
next argument. Some have a letter, and letters may be put together behind one
hyphen. Two hyphens alone end the options. Everything else is an operand.
-/

set_option autoImplicit false

namespace Phrasebook.CommandLine

inductive Arity where
  | flag
  | single
  | many
  deriving DecidableEq, Repr

structure OptionForm where
  name : String
  letter : Option Char := none
  arity : Arity
  deriving DecidableEq, Repr

structure Grammar where
  options : List OptionForm
  negativeOperands : Bool := false

/-- Why arguments are refused. -/
inductive UsageError where
  | unknownOption (argument : String)
  | missingValue (option : String)
  | unexpectedValue (option : String)
  | repeatedOption (option : String)
  | missingOption (option : String)
  | missingOperand (name : String)
  | unexpectedOperand (argument : String)
  | invalidValue (name value : String)
  | missingCommand
  | unknownCommand (name : String)
  deriving DecidableEq, Repr

namespace UsageError

def message : UsageError → String
  | .unknownOption argument => "unknown option '" ++ argument ++ "'"
  | .missingValue option => "option '--" ++ option ++ "' needs a value"
  | .unexpectedValue option => "option '--" ++ option ++ "' takes no value"
  | .repeatedOption option => "option '--" ++ option ++ "' is given more than once"
  | .missingOption option => "option '--" ++ option ++ "' is required"
  | .missingOperand name => "operand '" ++ name ++ "' is required"
  | .unexpectedOperand argument => "unexpected operand '" ++ argument ++ "'"
  | .invalidValue name value => "invalid value '" ++ value ++ "' for '" ++ name ++ "'"
  | .missingCommand => "a command is required"
  | .unknownCommand name => "unknown command '" ++ name ++ "'"

end UsageError

inductive Given where
  | option (form : OptionForm) (value : Option String)
  | operand (text : String)
  deriving DecidableEq, Repr

/-- What an argument is taken for, before the next one is looked at. -/
inductive Shape where
  | terminator
  | long (name : List Char) (value : Option (List Char))
  | letters (letters : List Char)
  | operand
  deriving DecidableEq, Repr

namespace Grammar

def findName (grammar : Grammar) (name : List Char) : Option OptionForm :=
  grammar.options.find? (·.name.toList == name)

def findLetter (grammar : Grammar) (letter : Char) : Option OptionForm :=
  grammar.options.find? (·.letter == some letter)

/-- Digits behind the first digits of a number: one point and one exponent letter,
neither of them first, and no letter last. -/
def isNumberTail (pointAllowed letterAllowed : Bool) : List Char → Bool
  | [] => true
  | first :: rest =>
    if first.isDigit then isNumberTail pointAllowed letterAllowed rest
    else if first = '.' then pointAllowed && isNumberTail false letterAllowed rest
    else if first = 'e' ∨ first = 'E' then
      letterAllowed && !rest.isEmpty && isNumberTail false false rest
    else false

def looksNumeric (text : List Char) : Bool :=
  text.head?.any Char.isDigit && isNumberTail true true text

def shape (grammar : Grammar) (argument : List Char) : Shape :=
  match argument with
  | ['-', '-'] => .terminator
  | '-' :: '-' :: text =>
    let name := text.takeWhile (· ≠ '=')
    match text.dropWhile (· ≠ '=') with
    | _ :: value => .long name (some value)
    | [] => .long name none
  | '-' :: first :: rest =>
    if grammar.negativeOperands && looksNumeric (first :: rest) then .operand
    else .letters (first :: rest)
  | _ => .operand

/-- Options given by letters behind one hyphen. The first that has a value takes
what is left for it; if nothing is left, the value is still to come. -/
def readLetters (grammar : Grammar) : List Char → Except UsageError (List Given × Option OptionForm)
  | [] => .ok ([], none)
  | letter :: rest =>
    match grammar.findLetter letter with
    | none => .error (.unknownOption (String.ofList ['-', letter]))
    | some form =>
      if form.arity = .flag then do
        let (given, open?) ← readLetters grammar rest
        return (.option form none :: given, open?)
      else match rest with
        | [] => .ok ([], some form)
        | '=' :: value => .ok ([.option form (some (String.ofList value))], none)
        | value => .ok ([.option form (some (String.ofList value))], none)

/-- Read arguments one after the other. An option may be waiting for its value,
which must not look like an option. -/
def readArguments (grammar : Grammar) : (waiting : Option OptionForm) → List String →
    Except UsageError (List Given)
  | none, [] => .ok []
  | some form, [] => .error (.missingValue form.name)
  | some form, argument :: rest =>
    match grammar.shape argument.toList with
    | .operand => do
      return .option form (some argument) :: (← readArguments grammar none rest)
    | _ => .error (.missingValue form.name)
  | none, argument :: rest =>
    match grammar.shape argument.toList with
    | .terminator => .ok (rest.map .operand)
    | .operand => do return .operand argument :: (← readArguments grammar none rest)
    | .letters letters => do
      let (given, waiting) ← grammar.readLetters letters
      return given ++ (← readArguments grammar waiting rest)
    | .long name value =>
      match grammar.findName name with
      | none => .error (.unknownOption argument)
      | some form =>
        match form.arity, value with
        | .flag, none => do return .option form none :: (← readArguments grammar none rest)
        | .flag, some _ => .error (.unexpectedValue form.name)
        | _, some value => do
          return .option form (some (String.ofList value)) :: (← readArguments grammar none rest)
        | _, none => readArguments grammar (some form) rest

def read (grammar : Grammar) (arguments : List String) : Except UsageError (List Given) :=
  readArguments grammar none arguments

end Grammar

def repeated? : List Given → Option String
  | [] => none
  | .operand _ :: rest => repeated? rest
  | .option form _ :: rest =>
    if form.arity ≠ .many ∧ rest.any fun
        | .option other _ => other.name == form.name
        | .operand _ => false
    then some form.name
    else repeated? rest

def valuesOf (name : String) (given : List Given) : List String :=
  given.filterMap fun
    | .option form value => if form.name = name then value else none
    | .operand _ => none

def isGiven (name : String) (given : List Given) : Bool :=
  given.any fun
    | .option form _ => form.name == name
    | .operand _ => false

def operands (given : List Given) : List String :=
  given.filterMap fun
    | .operand text => some text
    | .option _ _ => none

end Phrasebook.CommandLine
