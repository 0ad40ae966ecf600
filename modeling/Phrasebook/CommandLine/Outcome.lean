import Phrasebook.Catalog.Basic
import Phrasebook.Catalog.Coverage
import Phrasebook.Catalog.Inspection
import Phrasebook.CommandLine.Command

/-! Running commands.

A command is given the text of its catalog, if that could be read, and answers
with an exit code and the texts for the two output streams.
-/

set_option autoImplicit false

namespace Phrasebook.CommandLine

inductive ExitCode where
  | success
  | usage
  | badData
  | failure
  deriving DecidableEq, Repr

def ExitCode.number : ExitCode → Nat
  | .success => 0
  | .usage => 2
  | .badData => 65
  | .failure => 70

structure Outcome where
  code : ExitCode
  output : String := ""
  errors : List String := []
  deriving DecidableEq, Repr

namespace Outcome

def failed (message : String) : Outcome := ⟨.failure, "", ["error: " ++ message]⟩

def refused (error : UsageError) : Outcome := ⟨.usage, "", ["error: " ++ error.message]⟩

def ofExcept (outcome : Except String Outcome) : Outcome :=
  match outcome with
  | .ok outcome => outcome
  | .error message => failed message

end Outcome

def line (text : String) : String := text ++ "\n"

def prettyJson (value : Json) : String := line (String.ofList (value.pretty 0))

def coloured (colour : String) (text : String) : String :=
  "\x1b[" ++ colour ++ "m" ++ text ++ "\x1b[39m"

def green (text : String) : String := coloured "32" text

def red (text : String) : String := coloured "31" text

def loadEntries (path : String) (text : Option String) : Except String (List Entry) :=
  match text with
  | none => .error ("Failed to read catalog " ++ path)
  | some text => (readCatalog text).mapError CatalogDiagnostic.message

def buildRegistry (defaultLanguage : String) (cardinals : List String) : Except String Registry :=
  (Registry.build defaultLanguage cardinals).mapError ConfigurationError.message

/-- What a translation found. -/
structure Translation where
  identity : Identity
  found : Bool
  text : String
  events : List Event
  deriving DecidableEq

namespace Translation

/-- Look up a key of a catalog. Events are kept only if they are asked for. -/
def ofOptions (options : TranslateOptions) (entries : List Entry) (registry : Registry) :
    Translation :=
  let engine : Engine := { store := .ofEntries entries, registry := registry }
  let identity : Identity := ⟨options.key, options.language, options.within⟩
  let noted := (Engine.translate identity options.parameters).run engine
  let sink : Sink := if options.audit then .recording else .logging
  { identity := identity
    found := engine.contains identity
    text := noted.value.1
    events := (sink.events noted.notices).map (·.2) }

def toJson (translation : Translation) : Json :=
  .object <|
    [("id", .string translation.identity.storageKey), ("found", .boolean translation.found),
      ("text", .string translation.text)] ++
    if translation.events = [] then []
    else [("events", .list (translation.events.map fun event => .string event.display))]

def outcome (translation : Translation) (json : Bool) : Outcome where
  code := if translation.found then .success else .badData
  output := if json then prettyJson translation.toJson else line translation.text
  errors :=
    if json then []
    else translation.events.map fun event =>
      "audit: " ++ event.display ++ " " ++ translation.identity.storageKey

end Translation

def runTranslate (options : TranslateOptions) (text : Option String) : Except String Outcome := do
  let entries ← loadEntries options.catalog text
  let registry ← buildRegistry options.defaultLanguage options.cardinals
  return (Translation.ofOptions options entries registry).outcome options.json

structure PluralRow where
  number : Binary64
  category : Category
  slot : Option Nat
  deriving DecidableEq

namespace PluralRow

def ofNumber (rule : Rule) (number : Binary64) : PluralRow :=
  ⟨number, rule.category number, rule.slot? number⟩

def toJson (row : PluralRow) : Json :=
  .object [("number", .real row.number), ("form", .string row.category.name),
    ("slot", match row.slot with
      | some slot => .integer slot
      | none => .null)]

def table (rows : List PluralRow) : Text.Table where
  header := ["Number", "Form", "Slot"]
  rows := rows.map fun row =>
    [row.number.display, row.category.name, match row.slot with
      | some slot => Numeral.display slot
      | none => "-"]

end PluralRow

def ruleOf (language : String) : Except String Rule :=
  (Registry.english.ruleOrCardinal language).mapError ConfigurationError.message

def runPlural (options : PluralOptions) : Except String Outcome := do
  let rule ← ruleOf options.language
  let rows := options.numbers.map (PluralRow.ofNumber rule)
  if options.json then
    return ⟨.success, prettyJson (.list (rows.map PluralRow.toJson)), []⟩
  else
    let forms := ", ".intercalate (rule.forms.map Category.name)
    return ⟨.success, line ("Forms for " ++ options.language ++ ": " ++ forms) ++
      line (PluralRow.table rows).render, []⟩

def runCheck (options : CheckOptions) (text : Option String) : Except String Outcome := do
  let entries ← loadEntries options.catalog text
  let registry ← buildRegistry Registry.english.defaultLanguage options.cardinals
  let issues := findIssues entries registry
  let output :=
    if options.json then prettyJson (.list (issues.map Issue.toJson))
    else if issues.isEmpty then
      line (green "ok:" ++ " " ++ Numeral.display entries.length ++ " entries checked")
    else
      line (issueTable issues).render ++
        line (red "error:" ++ " " ++ Numeral.display issues.length ++ " issue(s) found")
  return ⟨if issues.isEmpty then .success else .badData, output, []⟩

/-- The missing keys of a language, one in each line; nothing if none is missing. -/
def missingList (row : Coverage) : String :=
  if row.missing = [] then ""
  else line ("\nMissing in " ++ row.language ++ ":") ++
    String.join (row.missing.map fun key => line ("  - " ++ key))

def runCoverage (options : CoverageOptions) (text : Option String) : Except String Outcome := do
  let entries ← loadEntries options.catalog text
  let (total, rows) := Coverage.compute entries options.source options.languages
  let output :=
    if options.json then prettyJson (.list (rows.map (Coverage.toJson total)))
    else line (Coverage.table total rows).render ++ String.join (rows.map missingList)
  let incomplete := rows.any fun row => !row.missing.isEmpty
  return ⟨if options.strict && incomplete then .badData else .success, output, []⟩

def Command.catalog? : Command → Option String
  | .translate options => some options.catalog
  | .plural _ => none
  | .check options => some options.catalog
  | .coverage options => some options.catalog

def Command.run (command : Command) (text : Option String) : Outcome :=
  .ofExcept <| match command with
    | .translate options => runTranslate options text
    | .plural options => runPlural options
    | .check options => runCheck options text
    | .coverage options => runCoverage options text

def version : Outcome := ⟨.success, line "tongue 0.1.0", []⟩

end Phrasebook.CommandLine
