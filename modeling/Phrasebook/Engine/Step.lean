import Phrasebook.Engine.Basic

/-! Runs of an engine, step by step. -/

set_option autoImplicit false

namespace Phrasebook.Engine

inductive RuleSource where
  | rule (rule : Rule)
  | locale (tag : String)

def RuleSource.resolve : RuleSource → Except ConfigurationError Rule
  | .rule given => .ok given
  | .locale tag => (Locale.ofTag tag).map Rule.cardinal

inductive Step where
  | set (entry : Entry)
  | setAll (entries : List Entry)
  | remove (identity : Identity)
  | removeAll (identities : List Identity)
  | get (identity : Identity)
  | size
  | contains (identity : Identity)
  | translate (identity : Identity) (parameters : Parameters)
  | translatePlain (identity : Identity)
  | ruleFor (identity : Identity)
  | languages
  | defaultLanguage
  | takeRegistry
  | addRule (language : String) (source : RuleSource)
  | addCardinal (language : String)

inductive Answer where
  | nothing
  | text (text : String)
  | template (template : Option String)
  | size (count : Nat) (isEmpty : Bool)
  | found (found : Bool)
  | rule (rule : Rule)
  | names (names : List String)
  | error (error : ConfigurationError)

def Answer.ofOutcome : Except ConfigurationError Unit → Answer
  | .ok () => .nothing
  | .error cause => .error cause

/-- Register a rule given by its source. The cache is given up in any case. -/
def addSource (language : String) (source : RuleSource) : Action Answer := do
  match source.resolve with
  | .ok rule =>
    addRule language rule
    return .nothing
  | .error cause =>
    discard takeRegistry
    return .error cause

def perform : Step → Action Answer
  | .set entry => do modifyStore (·.set entry); return .nothing
  | .setAll entries => do modifyStore (·.setAll entries); return .nothing
  | .remove identity => do modifyStore (·.remove identity); return .nothing
  | .removeAll identities => do modifyStore (·.removeAll identities); return .nothing
  | .get identity => return .template ((← get).store.get? identity)
  | .size => do
    let store := (← get).store
    return .size store.size store.isEmpty
  | .contains identity => return .found ((← get).contains identity)
  | .translate identity parameters => return .text (← translate identity parameters)
  | .translatePlain identity => return .text (← translatePlain identity)
  | .ruleFor identity => return .rule (← ruleFor identity)
  | .languages => return .names (← get).registry.languages
  | .defaultLanguage => return .text (← get).registry.defaultLanguage
  | .takeRegistry => do discard takeRegistry; return .nothing
  | .addRule language source => addSource language source
  | .addCardinal language => return .ofOutcome (← addCardinal language)

def run (engine : Engine) : List Step → List (Noted Answer) × Engine
  | [] => ([], engine)
  | step :: rest =>
    let noted := (perform step).run engine
    let (answers, last) := run noted.value.2 rest
    (⟨noted.value.1, noted.notices⟩ :: answers, last)

end Phrasebook.Engine
