import Phrasebook.CommandLine.Arguments
import Phrasebook.Engine.Basic
import Phrasebook.Text.Split

/-! The commands and their options. -/

set_option autoImplicit false

namespace Phrasebook.CommandLine

structure Environment where
  catalog : Option String := none
  defaultLanguage : Option String := none

structure TranslateOptions where
  catalog : String
  language : String
  within : Section
  defaultLanguage : String
  cardinals : List String
  key : String
  parameters : Parameters
  audit : Bool
  json : Bool

structure PluralOptions where
  language : String
  numbers : List Binary64
  json : Bool

structure CheckOptions where
  catalog : String
  cardinals : List String
  json : Bool

structure CoverageOptions where
  catalog : String
  source : String
  languages : List String
  strict : Bool
  json : Bool

inductive Command where
  | translate (options : TranslateOptions)
  | plural (options : PluralOptions)
  | check (options : CheckOptions)
  | coverage (options : CoverageOptions)

inductive Request where
  | version
  | command (command : Command)

/-- A section by number if the text is one, and by name otherwise. -/
def readSection (text : String) : Section :=
  match Numeral.readBelow (2 ^ 32) text.toList with
  | some number => .number (UInt32.ofNat number)
  | none => .ofName text

/-- A value given as text: an integer, a floating-point number or the text itself. -/
def readValue (text : String) : Value :=
  match Numeral.readInt64 text.toList with
  | some number => .integer number
  | none =>
    match Binary64.read text.toList with
    | some number => .float number
    | none => .text text

def readParameter (text : String) : Except UsageError (String × Value) :=
  match text.toList.dropWhile (· ≠ '=') with
  | _ :: value =>
    .ok (String.ofList (text.toList.takeWhile (· ≠ '=')), readValue (String.ofList value))
  | [] => .error (.invalidValue "param" text)

def readNumber (text : String) : Except UsageError Binary64 :=
  match Binary64.read text.toList with
  | some number => .ok number
  | none => .error (.invalidValue "numbers" text)

def colorForm : OptionForm := ⟨"color", none, .single⟩

def verboseForm : OptionForm := ⟨"verbose", some 'v', .flag⟩

def versionForm : OptionForm := ⟨"version", some 'V', .flag⟩

def globalForms : List OptionForm := [colorForm, verboseForm]

def jsonForm : OptionForm := ⟨"json", none, .flag⟩

def single (name : String) : OptionForm := ⟨name, none, .single⟩

def translateGrammar : Grammar where
  options := [single "catalog", single "lang", single "section", single "default-lang",
    ⟨"cldr", none, .many⟩, ⟨"param", some 'p', .many⟩, ⟨"audit", none, .flag⟩, jsonForm] ++
    globalForms

def pluralGrammar : Grammar where
  options := [single "lang", jsonForm] ++ globalForms
  negativeOperands := true

def checkGrammar : Grammar where
  options := [single "catalog", ⟨"cldr", none, .many⟩, jsonForm] ++ globalForms

def coverageGrammar : Grammar where
  options := [single "catalog", single "source", ⟨"lang", none, .many⟩, ⟨"strict", none, .flag⟩,
    jsonForm] ++ globalForms

def readColor (value : String) : Except UsageError Unit :=
  if ["auto", "always", "never"].contains value then .ok ()
  else .error (.invalidValue "color" value)

def listed (name : String) (given : List Given) : List String :=
  (valuesOf name given).flatMap (Text.splitString ',')

def required (name : String) (value : Option String) : Except UsageError String :=
  match value with
  | some value => .ok value
  | none => .error (.missingOption name)

def readCatalogPath (environment : Environment) (given : List Given) :
    Except UsageError String := do
  let path ← required "catalog" ((valuesOf "catalog" given).head?.or environment.catalog)
  if path = "" then throw (.invalidValue "catalog" path)
  return path

theorem readCatalogPath_of_head? (environment : Environment) {given : List Given} {path : String}
    (first : (valuesOf "catalog" given).head? = some path) (named : path ≠ "") :
    readCatalogPath environment given = .ok path := by
  rw [readCatalogPath, first]
  exact if_neg named

def noOperands (given : List Given) : Except UsageError Unit :=
  match operands given with
  | [] => .ok ()
  | first :: _ => .error (.unexpectedOperand first)

def Grammar.readOnce (grammar : Grammar) (arguments : List String) :
    Except UsageError (List Given) := do
  let given ← grammar.read arguments
  match repeated? given with
  | some name => throw (.repeatedOption name)
  | none =>
    (valuesOf "color" given).forM readColor
    return given

def readTranslate (environment : Environment) (arguments : List String) :
    Except UsageError TranslateOptions := do
  let given ← translateGrammar.readOnce arguments
  let key ← match operands given with
    | [] => throw (.missingOperand "key")
    | [key] => pure key
    | _ :: other :: _ => throw (.unexpectedOperand other)
  let parameters ← (valuesOf "param" given).mapM readParameter
  return {
    catalog := ← readCatalogPath environment given
    language := ← required "lang" (valuesOf "lang" given).head?
    within := readSection ((valuesOf "section" given).head?.getD "0")
    defaultLanguage :=
      ((valuesOf "default-lang" given).head?.or environment.defaultLanguage).getD "en"
    cardinals := listed "cldr" given
    key := key
    parameters := parameters.foldl (fun parameters entry =>
      parameters.insert entry.1 entry.2) ∅
    audit := isGiven "audit" given
    json := isGiven "json" given }

def readPlural (arguments : List String) : Except UsageError PluralOptions := do
  let given ← pluralGrammar.readOnce arguments
  let numbers ← (operands given).mapM readNumber
  if numbers.isEmpty then throw (.missingOperand "numbers")
  return {
    language := ← required "lang" (valuesOf "lang" given).head?
    numbers := numbers
    json := isGiven "json" given }

def readCheck (environment : Environment) (arguments : List String) :
    Except UsageError CheckOptions := do
  let given ← checkGrammar.readOnce arguments
  noOperands given
  return {
    catalog := ← readCatalogPath environment given
    cardinals := listed "cldr" given
    json := isGiven "json" given }

def readCoverage (environment : Environment) (arguments : List String) :
    Except UsageError CoverageOptions := do
  let given ← coverageGrammar.readOnce arguments
  noOperands given
  if !isGiven "lang" given then throw (.missingOption "lang")
  return {
    catalog := ← readCatalogPath environment given
    source := ((valuesOf "source" given).head?.or environment.defaultLanguage).getD "en"
    languages := listed "lang" given
    strict := isGiven "strict" given
    json := isGiven "json" given }

def readCommand (environment : Environment) (name : String) (arguments : List String) :
    Except UsageError Command :=
  match name with
  | "translate" => (readTranslate environment arguments).map .translate
  | "plural" => (readPlural arguments).map .plural
  | "check" => (readCheck environment arguments).map .check
  | "coverage" => (readCoverage environment arguments).map .coverage
  | _ => .error (.unknownCommand name)

def leadingGrammar : Grammar where
  options := [colorForm, verboseForm, versionForm]

def addLeading (seen : List OptionForm) (form : OptionForm) : Except UsageError (List OptionForm) :=
  if seen.contains form then .error (.repeatedOption form.name) else .ok (form :: seen)

/-- Letters behind one hyphen, all of which are flags here. As soon as the version
is asked for, nothing else is looked at. -/
def readLeadingLetters (seen : List OptionForm) :
    List Char → Except UsageError (Option (List OptionForm))
  | [] => .ok (some seen)
  | letter :: rest =>
    match leadingGrammar.findLetter letter with
    | none => .error (.unknownOption (String.ofList ['-', letter]))
    | some form =>
      if form = versionForm then .ok none
      else do readLeadingLetters (← addLeading seen form) rest

def readFrom (environment : Environment) : (waiting : Option OptionForm) →
    (seen : List OptionForm) → List String → Except UsageError Request
  | none, _, [] => .error .missingCommand
  | some form, _, [] => .error (.missingValue form.name)
  | some form, seen, argument :: rest =>
    match leadingGrammar.shape argument.toList with
    | .operand => do
      readColor argument
      readFrom environment none (← addLeading seen form) rest
    | _ => .error (.missingValue form.name)
  | none, seen, argument :: rest =>
    match leadingGrammar.shape argument.toList with
    | .operand => (readCommand environment argument rest).map .command
    | .terminator => .error .missingCommand
    | .letters letters => do
      match ← readLeadingLetters seen letters with
      | none => return .version
      | some seen => readFrom environment none seen rest
    | .long name value =>
      match leadingGrammar.findName name with
      | none => .error (.unknownOption argument)
      | some form =>
        match form.arity, value with
        | .flag, some _ => .error (.unexpectedValue form.name)
        | .flag, none =>
          if form = versionForm then .ok .version
          else do readFrom environment none (← addLeading seen form) rest
        | _, none => readFrom environment (some form) seen rest
        | _, some value => do
          readColor (String.ofList value)
          readFrom environment none (← addLeading seen form) rest

def readRequest (environment : Environment) (arguments : List String) :
    Except UsageError Request :=
  readFrom environment none [] arguments

theorem readRequest_translate (environment : Environment) (arguments : List String) :
    readRequest environment ("translate" :: arguments) =
      (readTranslate environment arguments).map (.command ∘ .translate) := by
  show ((readTranslate environment arguments).map Command.translate).map Request.command = _
  cases readTranslate environment arguments <;> rfl

theorem readRequest_plural (environment : Environment) (arguments : List String) :
    readRequest environment ("plural" :: arguments) =
      (readPlural arguments).map (.command ∘ .plural) := by
  show ((readPlural arguments).map Command.plural).map Request.command = _
  cases readPlural arguments <;> rfl

end Phrasebook.CommandLine
