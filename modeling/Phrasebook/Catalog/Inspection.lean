import Phrasebook.Json.Basic
import Phrasebook.Registry
import Phrasebook.Store
import Phrasebook.Template.Scan
import Phrasebook.Text.Table

/-! Problems in the entries of a catalog.

Entries are inspected in order. A language that is not registered is looked up
among the cardinal rules, and one that has no rule there either is reported once.
-/

set_option autoImplicit false

namespace Phrasebook

inductive Problem where
  | duplicate
  | invalidKey (key : String)
  | noPluralizer (error : ConfigurationError)
  | extraSlots (forms : String) (slots : Nat) (language : String) (known : Nat)
  deriving DecidableEq, Repr

namespace Problem

def kind : Problem → String
  | .duplicate => "duplicate"
  | .invalidKey _ => "invalid-key"
  | .noPluralizer _ => "no-pluralizer"
  | .extraSlots _ _ _ _ => "extra-slots"

def message : Problem → String
  | .duplicate => "entry defined more than once; the last one wins"
  | .invalidKey key => "'" ++ key ++ "' is not a valid key"
  | .noPluralizer error => error.message
  | .extraSlots forms slots language known =>
    "'" ++ forms ++ "' has " ++ Numeral.display slots ++ " plural slots but '" ++ language ++
      "' has " ++ Numeral.display known ++ " forms"

end Problem

structure Issue where
  identity : Identity
  problem : Problem
  deriving DecidableEq

def Issue.toJson (issue : Issue) : Json :=
  .object [("entry", .string issue.identity.storageKey), ("kind", .string issue.problem.kind),
    ("message", .string issue.problem.message)]

/-- The rule for a language: the registered one, or else the cardinal one. -/
def Registry.ruleOrCardinal (registry : Registry) (language : String) :
    Except ConfigurationError Rule :=
  match registry.rule? language with
  | some rule => .ok rule
  | none => (Locale.ofTag language).map Rule.cardinal

structure Inspection where
  identities : List Identity := []
  withoutRule : List String := []
  issues : List Issue := []

namespace Inspection

def keyProblems (entry : Entry) : List Problem :=
  if isValidKey entry.identity.key then [] else [.invalidKey entry.identity.key]

/-- Operators with more plural slots than the rule has forms. Only operators that
name a count have plural slots. -/
def slotProblems (language : String) (rule : Rule) (template : Template) : List Problem :=
  template.operators.filterMap fun operator =>
    if operator.count.isSome ∧ rule.forms.length < operator.slots.length then
      some (.extraSlots operator.forms operator.slots.length language rule.forms.length)
    else none

def operatorProblems (registry : Registry) (withoutRule : List String) (entry : Entry) :
    List Problem :=
  let language := entry.identity.language
  let template := Template.parse entry.template
  if template.hasOperators then
    match registry.ruleOrCardinal language with
    | .ok rule => slotProblems language rule template
    | .error error => if language ∈ withoutRule then [] else [.noPluralizer error]
  else []

def add (registry : Registry) (inspection : Inspection) (entry : Entry) : Inspection :=
  let duplicates : List Problem :=
    if entry.identity ∈ inspection.identities then [.duplicate] else []
  let inOperators := operatorProblems registry inspection.withoutRule entry
  let problems := duplicates ++ keyProblems entry ++ inOperators
  { identities := entry.identity :: inspection.identities
    withoutRule :=
      if inOperators.any fun
        | .noPluralizer _ => true
        | _ => false
      then entry.identity.language :: inspection.withoutRule
      else inspection.withoutRule
    issues := inspection.issues ++ problems.map (⟨entry.identity, ·⟩) }

end Inspection

def findIssues (entries : List Entry) (registry : Registry) : List Issue :=
  (entries.foldl (Inspection.add registry) {}).issues

def issueTable (issues : List Issue) : Text.Table where
  header := ["Entry", "Issue", "Details"]
  rows := issues.map fun issue =>
    [issue.identity.storageKey, issue.problem.kind, issue.problem.message]

end Phrasebook
