import Mathlib.Data.List.Induction
import Phrasebook.Proofs.Engine.Actions
import Phrasebook.Proofs.Text.ByteOrder

/-! Runs of registrations.

A registration either puts a rule in the place of the one that its language had or, if it has
no rule to give, changes nothing. So each language keeps the rule of its last successful
registration, and a built-in language always has one. The default language is built in.
-/

set_option autoImplicit false

namespace Phrasebook

/-- A rule for a language, given directly or as the cardinal rule of the locale that the
language names. -/
inductive Registration where
  | rule (language : String) (given : Rule)
  | cardinal (language : String)

namespace Registration

def language : Registration → String
  | .rule language _ => language
  | .cardinal language => language

def resolve : Registration → Except ConfigurationError Rule
  | .rule _ given => .ok given
  | .cardinal language => (Locale.ofTag language).map Rule.cardinal

def ruleFor? (registration : Registration) (language : String) : Option Rule :=
  if registration.language = language then registration.resolve.toOption else none

def step : Registration → Engine.Step
  | .rule language given => .addRule language (.rule given)
  | .cardinal language => .addCardinal language

end Registration

namespace Registry

def register (registry : Registry) : Registration → Except ConfigurationError Unit × Registry
  | .rule language given => (.ok (), registry.add language given)
  | .cardinal language =>
    match registry.addCardinal language with
    | .ok (_, next) => (.ok (), next)
    | .error cause => (.error cause, registry)

def registerAll (registry : Registry) (registrations : List Registration) : Registry :=
  registrations.foldl (fun registry registration => (registry.register registration).2) registry

def IsInitial (registry : Registry) : Prop :=
  registry = .english ∨ ∃ language, ofDefault language = .ok registry

def builtinLanguages : List String := ["en", "it", "ru"]

def builtinRule? (language : String) : Option Rule :=
  if language = "ru" then some .russian
  else if language = "en" ∨ language = "it" then some .english
  else none

theorem getElem?_builtin (language : String) : builtin[language]? = builtinRule? language := by
  simp only [builtin, builtinRule?, Std.ExtTreeMap.getElem?_insert]
  grind

theorem isSome_builtinRule? {language : String} :
    (builtinRule? language).isSome = true ↔ language ∈ builtinLanguages := by
  unfold builtinRule? builtinLanguages
  grind

theorem mem_builtin {language : String} : language ∈ builtin ↔ language ∈ builtinLanguages := by
  rw [Std.ExtTreeMap.mem_iff_isSome_getElem?, getElem?_builtin, isSome_builtinRule?]

theorem ofDefault_of_mem {language : String} (known : language ∈ builtinLanguages) :
    ofDefault language = .ok ⟨language, builtin, mem_builtin.2 known⟩ :=
  dif_pos (mem_builtin.2 known)

theorem ofDefault_of_not_mem {language : String} (unknown : language ∉ builtinLanguages) :
    ofDefault language = .error (.unknownDefaultLanguage language) :=
  dif_neg (mt mem_builtin.1 unknown)

section

variable {registry : Registry} {registration : Registration} {language : String}

theorem IsInitial.rule?_eq (initial : registry.IsInitial) (language : String) :
    registry.rule? language = builtinRule? language := by
  rw [← getElem?_builtin]
  rcases initial with rfl | ⟨fallback, built⟩
  · rfl
  · by_cases known : fallback ∈ builtinLanguages
    · rw [ofDefault_of_mem known] at built
      obtain rfl := Except.ok.inj built
      rfl
    · rw [ofDefault_of_not_mem known] at built
      contradiction

theorem register_of_ok {rule : Rule} (resolved : registration.resolve = .ok rule) :
    registry.register registration = (.ok (), registry.add registration.language rule) := by
  cases registration with
  | rule language given =>
    obtain rfl := Except.ok.inj resolved
    rfl
  | cardinal language =>
    simp only [Registration.resolve] at resolved
    cases read : Locale.ofTag language with
    | error cause => simp [read, Except.map] at resolved
    | ok locale =>
      obtain rfl : Rule.cardinal locale = rule := by simpa [read, Except.map] using resolved
      simp [register, addCardinal, read, Except.map, Registration.language]

theorem register_of_error {cause : ConfigurationError}
    (resolved : registration.resolve = .error cause) :
    registry.register registration = (.error cause, registry) := by
  cases registration with
  | rule language given => contradiction
  | cardinal language =>
    simp only [Registration.resolve] at resolved
    cases read : Locale.ofTag language with
    | error other =>
      obtain rfl : other = cause := by simpa [read, Except.map] using resolved
      simp [register, addCardinal, read, Except.map]
    | ok locale => simp [read, Except.map] at resolved

theorem defaultLanguage_register :
    (registry.register registration).2.defaultLanguage = registry.defaultLanguage := by
  cases resolved : registration.resolve with
  | ok rule => rw [register_of_ok resolved]; rfl
  | error cause => rw [register_of_error resolved]

theorem rule?_register :
    (registry.register registration).2.rule? language =
      (registration.ruleFor? language).or (registry.rule? language) := by
  unfold Registration.ruleFor?
  cases resolved : registration.resolve with
  | ok rule =>
    rw [register_of_ok resolved, rule?_add]
    split <;> rfl
  | error cause => simp [register_of_error resolved, Except.toOption]

end

variable (registry : Registry) (registrations : List Registration)

theorem registerAll_append_singleton (last : Registration) :
    registry.registerAll (registrations ++ [last]) =
      ((registry.registerAll registrations).register last).2 := by
  simp [registerAll]

theorem defaultLanguage_registerAll :
    (registry.registerAll registrations).defaultLanguage = registry.defaultLanguage := by
  induction registrations using List.reverseRecOn with
  | nil => rfl
  | append_singleton earlier last ih =>
    rw [registerAll_append_singleton, defaultLanguage_register, ih]

/-- The last registration that gives a language a rule decides. -/
theorem rule?_registerAll (language : String) :
    (registry.registerAll registrations).rule? language =
      (registrations.filterMap (·.ruleFor? language)).getLast?.or (registry.rule? language) := by
  induction registrations using List.reverseRecOn with
  | nil => rfl
  | append_singleton earlier last ih =>
    rw [registerAll_append_singleton, rule?_register, ih, List.filterMap_append]
    cases given : last.ruleFor? language <;> simp [given]

theorem mem_languages {language : String} :
    language ∈ registry.languages ↔ (registry.rule? language).isSome = true := by
  rw [languages, Std.ExtTreeMap.mem_keys, Std.ExtTreeMap.mem_iff_isSome_getElem?, rule?]

theorem pairwise_languages : registry.languages.Pairwise (Text.bytes · < Text.bytes ·) :=
  registry.rules.ordered_keys.imp fun less =>
    Text.bytes_lt_of_lt (compareOfLessAndEq_eq_lt.1 less)

end Registry

namespace Engine

theorem value_perform_step (engine : Engine) (registration : Registration) :
    ((perform registration.step).run engine).value =
      (.ofOutcome (engine.registry.register registration).1,
        { engine with registry := (engine.registry.register registration).2, cache := ∅ }) := by
  cases registration with
  | rule language given => exact value_run_addSource_of_ok engine language rfl
  | cardinal language =>
    cases result : engine.registry.addCardinal language with
    | ok added =>
      simp [Registration.step, perform, value_run_addCardinal_of_ok result, Registry.register,
        result]
    | error cause =>
      simp [Registration.step, perform, value_run_addCardinal_of_error result, Registry.register,
        result]

theorem registry_run_step (engine : Engine) (registrations : List Registration) :
    (run engine (registrations.map Registration.step)).2.registry =
      engine.registry.registerAll registrations := by
  induction registrations generalizing engine with
  | nil => rfl
  | cons registration rest ih =>
    rw [List.map_cons, run, ih, value_perform_step]
    rfl

end Engine

namespace Registry

/-- What a registry is after some registrations, the failed ones among them. -/
structure After (registry : Registry) (registrations : List Registration) (last : Registry) :
    Prop where
  defaultLanguage : last.defaultLanguage = registry.defaultLanguage
  registered : last.rule? last.defaultLanguage = some last.defaultRule
  increasing : last.languages.Pairwise (Text.bytes · < Text.bytes ·)
  mem_languages (language : String) : language ∈ last.languages ↔
    language ∈ builtinLanguages ∨ ∃ registration ∈ registrations,
      registration.language = language ∧ ∃ rule, registration.resolve = .ok rule
  rule? (language : String) : last.rule? language =
    (registrations.filterMap (·.ruleFor? language)).getLast?.or (builtinRule? language)
  succeeds (registration : Registration) (rule : Rule) :
    registration.resolve = .ok rule → (last.register registration).1 = .ok ()
  fails (registration : Registration) (cause : ConfigurationError) :
    registration.resolve = .error cause → last.register registration = (.error cause, last)
  engine (engine : Engine) : engine.registry = registry →
    (Engine.run engine (registrations.map Registration.step)).2.registry = last

theorem isSome_ruleFor? {registration : Registration} {language : String} :
    (registration.ruleFor? language).isSome = true ↔
      registration.language = language ∧ ∃ rule, registration.resolve = .ok rule := by
  unfold Registration.ruleFor?
  cases registration.resolve <;> simp [Except.toOption]

theorem IsInitial.after {registry : Registry} (initial : registry.IsInitial)
    (registrations : List Registration) :
    registry.After registrations (registry.registerAll registrations) := by
  have given (language : String) := registry.rule?_registerAll registrations language
  simp only [initial.rule?_eq] at given
  constructor
  case defaultLanguage => exact registry.defaultLanguage_registerAll registrations
  case registered => exact rule?_defaultLanguage _
  case increasing => exact pairwise_languages _
  case mem_languages =>
    intro language
    rw [Registry.mem_languages, given, Option.isSome_or, Bool.or_eq_true, or_comm,
      isSome_builtinRule?, List.getLast?_isSome, ne_eq, List.filterMap_eq_nil_iff]
    simp [← isSome_ruleFor?, Option.isSome_iff_ne_none]
  case rule? => exact given
  case succeeds =>
    intro registration rule resolved
    rw [register_of_ok resolved]
  case fails =>
    intro registration cause resolved
    exact register_of_error resolved
  case engine =>
    rintro engine rfl
    exact Engine.registry_run_step engine registrations

/-- Each built-in language, and no other, can be the default of a new registry. Whatever is
registered afterwards, with or without success, the default language stays and has a rule. The
languages are the built-in ones and those registered with success, each once and in order, and
the rule of a language is the last one registered, or else the built-in one. A registration
that fails leaves the registry as it is. -/
theorem defaultLanguage_stays_registered :
    (∀ language, if language ∈ builtinLanguages then
        ∃ registry, ofDefault language = .ok registry ∧ registry.defaultLanguage = language
      else ofDefault language = .error (.unknownDefaultLanguage language)) ∧
    ∀ registry : Registry, registry.IsInitial → ∀ registrations : List Registration,
      registry.After registrations (registry.registerAll registrations) := by
  refine ⟨fun language => ?_, fun registry initial => initial.after⟩
  split
  · next known => exact ⟨_, ofDefault_of_mem known, rfl⟩
  · next unknown => exact ofDefault_of_not_mem unknown

def russian : Registry := ⟨"ru", builtin, by simp [builtin]⟩

def replacements : List Registration :=
  [.rule "de" .russian, .cardinal "??", .cardinal "ru", .rule "de" .english, .rule "ru" .english]

theorem russian_replaced :
    russian.IsInitial ∧ russian.After replacements (russian.registerAll replacements) ∧
      (russian.registerAll replacements).languages = ["de", "en", "it", "ru"] ∧
      (russian.registerAll replacements).defaultRule.forms = [.one, .other] := by
  have initial : russian.IsInitial := .inr ⟨"ru", ofDefault_of_mem (by decide)⟩
  have after := defaultLanguage_stays_registered.2 russian initial replacements
  refine ⟨initial, after, ?_, ?_⟩
  · decide +kernel
  · decide +kernel

end Registry

end Phrasebook
