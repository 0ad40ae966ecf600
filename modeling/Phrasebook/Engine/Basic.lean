import Phrasebook.Evaluation
import Phrasebook.Registry
import Phrasebook.Store
import Phrasebook.Template.Scan

/-! The translation engine: a store, a registry and a cache of rules.

An action reads and changes the engine and notes what happened. Translation
always gives a text: problems yield a substitute and an event.
-/

set_option autoImplicit false

namespace Phrasebook

structure Engine where
  store : Store := .empty
  registry : Registry := default
  reportsMissingGender : Bool := true
  /-- The rule of every language that was asked for since the registry last changed hands. -/
  cache : Std.ExtTreeMap String Rule := ∅

namespace Engine

abbrev Action := StateT Engine Noted

def note (notice : Notice) : Action Unit := StateT.lift (Noted.note notice)

def report (identity : Identity) (event : Event) : Action Unit := note (.audit identity event)

def log (level : Level) (message : String) (fields : List (String × String)) : Action Unit :=
  note (.log ⟨level, message, fields⟩)

def formsField (rule : Rule) : String × String :=
  ("forms", Numeral.display rule.forms.length)

/-- The rule for a language that is not cached: the registered one, or else the
default rule, which is reported. -/
def lookUpRule (identity : Identity) : Action Rule := do
  let registry := (← get).registry
  match registry.rule? identity.language with
  | some rule => return rule
  | none =>
    report identity .pluralizerMiss
    log .debug "no pluralizer registered, using default"
      [("language", identity.language), ("fallback", registry.defaultLanguage)]
    return registry.defaultRule

def ruleFor (identity : Identity) : Action Rule := do
  match (← get).cache[identity.language]? with
  | some rule => return rule
  | none =>
    let rule ← lookUpRule identity
    log .trace "caching pluralizer" [("language", identity.language), formsField rule]
    -- The default rule is cached too, so that the language is not reported again.
    modify fun engine => { engine with cache := engine.cache.insert identity.language rule }
    return rule

/-- Find the template of an identity and fill in the parameters. Without any
parameters the template is given as it is stored. The request is for the rule. -/
def translateWith (request : Action Rule) (identity : Identity) (parameters : Parameters) :
    Action String := do
  if !isValidKey identity.key then
    report identity .keyInvalid
    return ""
  let engine ← get
  match engine.store.get? identity with
  | none =>
    report identity .keyMiss
    return identity.key
  | some text =>
    report identity .keyUsed
    if parameters.isEmpty then return text
    let template := Template.parse text
    if template.isPlain then return text
    let rendering ← template.evaluate ⟨parameters, engine.reportsMissingGender⟩ request
    rendering.events.forM (report identity)
    return rendering.text

def translate (identity : Identity) (parameters : Parameters) : Action String :=
  translateWith (ruleFor identity) identity parameters

def translatePlain (identity : Identity) : Action String := translate identity ∅

def contains (engine : Engine) (identity : Identity) : Bool :=
  (engine.store.get? identity).isSome

def modifyStore (change : Store → Store) : Action Unit :=
  modify fun engine => { engine with store := change engine.store }

/-- Take the registry for changes. The cached rules are given up, since the
registry may come back with others. -/
def takeRegistry : Action Registry :=
  modifyGet fun engine => (engine.registry, { engine with cache := ∅ })

def setRegistry (registry : Registry) : Action Unit :=
  modify fun engine => { engine with registry := registry }

def addRule (language : String) (rule : Rule) : Action Unit := do
  let registry ← takeRegistry
  log .debug "registering pluralizer" [("language", language)]
  setRegistry (registry.add language rule)

/-- Register a cardinal rule. A tag that is no locale changes nothing but the cache. -/
def addCardinal (language : String) : Action (Except ConfigurationError Unit) := do
  let registry ← takeRegistry
  match registry.addCardinal language with
  | .error error => return .error error
  | .ok (rule, registry) =>
    log .debug "registering CLDR pluralizer" [("language", language), formsField rule]
    setRegistry registry
    return .ok ()

end Engine

end Phrasebook
