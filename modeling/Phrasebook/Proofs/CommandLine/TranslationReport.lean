import Phrasebook.CommandLine.Outcome
import Phrasebook.Proofs.Engine.Actions

/-! What the command for translations reports.

It reports success if there is a template under the storage key. A translation goes
by that template only if the key is valid, so the report and the translation part
ways for a template that is stored under a key that is not.
-/

set_option autoImplicit false

namespace Phrasebook.CommandLine

namespace TranslateOptions

def identity (options : TranslateOptions) : Identity :=
  ⟨options.key, options.language, options.within⟩

def Uses (options : TranslateOptions) (engine : Engine) : Prop :=
  (options.identity, .keyUsed) ∈ Engine.auditEntries
    ((Engine.translate options.identity options.parameters).run engine).notices

/-- A template is stored, but its key is not valid. -/
def Misfiled (options : TranslateOptions) (engine : Engine) : Prop :=
  isValidKey options.key = false ∧ engine.contains options.identity = true

variable {options : TranslateOptions} {text : Option String} {outcome : Outcome}

theorem contains_iff (options : TranslateOptions) (engine : Engine) :
    engine.contains options.identity = true ↔ options.Uses engine ∨ options.Misfiled engine := by
  rw [Uses, Engine.keyUsed_mem_auditEntries_iff, Misfiled, Engine.hit?, Engine.contains]
  cases valid : isValidKey options.key <;> simp [identity, valid]

theorem run_of_loadEntries_error {message : String}
    (loaded : loadEntries options.catalog text = .error message) :
    (Command.translate options).run text = Outcome.failed message := by
  show Outcome.ofExcept (runTranslate options text) = _
  rw [runTranslate, loaded]
  rfl

theorem run_of_buildRegistry_error {entries : List Entry} {message : String}
    (loaded : loadEntries options.catalog text = .ok entries)
    (built : buildRegistry options.defaultLanguage options.cardinals = .error message) :
    (Command.translate options).run text = Outcome.failed message := by
  show Outcome.ofExcept (runTranslate options text) = _
  rw [runTranslate, loaded, built]
  rfl

theorem run_of_ok {entries : List Entry} {registry : Registry}
    (loaded : loadEntries options.catalog text = .ok entries)
    (built : buildRegistry options.defaultLanguage options.cardinals = .ok registry) :
    (Command.translate options).run text =
      (Translation.ofOptions options entries registry).outcome options.json := by
  show Outcome.ofExcept (runTranslate options text) = _
  rw [runTranslate, loaded, built]
  rfl

theorem exists_ok_of_code_ne (ran : ((Command.translate options).run text).code ≠ .failure) :
    ∃ entries registry, loadEntries options.catalog text = .ok entries ∧
      buildRegistry options.defaultLanguage options.cardinals = .ok registry := by
  cases loaded : loadEntries options.catalog text with
  | error message => exact absurd (congrArg Outcome.code (run_of_loadEntries_error loaded)) ran
  | ok entries =>
    cases built : buildRegistry options.defaultLanguage options.cardinals with
    | error message =>
      exact absurd (congrArg Outcome.code (run_of_buildRegistry_error loaded built)) ran
    | ok registry => exact ⟨entries, registry, rfl, rfl⟩

end TranslateOptions

namespace Translation

theorem code_outcome_eq_success_iff (translation : Translation) (json : Bool) :
    (translation.outcome json).code = .success ↔ translation.found = true := by
  cases found : translation.found <;> simp [outcome, found]

theorem code_outcome_of_ne_success {translation : Translation} {json : Bool}
    (other : (translation.outcome json).code ≠ .success) :
    (translation.outcome json).code = .badData := by
  rw [Ne, code_outcome_eq_success_iff] at other
  simp [outcome, other]

theorem output_outcome_json (translation : Translation) :
    ∃ members, (translation.outcome true).output = prettyJson (.object members) ∧
      ∀ value, ("found", value) ∈ members ↔ value = .boolean translation.found := by
  refine ⟨_, rfl, fun value => ?_⟩
  split <;> simp

end Translation

/-- A translation that runs reports success or bad data, and `found` in JSON alike. It
reports success just when the translation uses a template or when there is one under
a key that is not valid. -/
theorem translate_report {options : TranslateOptions} {text : Option String}
    (ran : ((Command.translate options).run text).code ≠ .failure) :
    ∃ entries registry, loadEntries options.catalog text = .ok entries ∧
      buildRegistry options.defaultLanguage options.cardinals = .ok registry ∧
      let engine : Engine := { store := .ofEntries entries, registry := registry }
      let outcome := (Command.translate options).run text
      (outcome.code = .success ↔ options.Uses engine ∨ options.Misfiled engine) ∧
        (outcome.code ≠ .success → outcome.code = .badData) ∧
        (options.json = true → ∃ members, outcome.output = prettyJson (.object members) ∧
          ∀ value, ("found", value) ∈ members ↔
            value = .boolean (decide (outcome.code = .success))) := by
  obtain ⟨entries, registry, loaded, built⟩ := TranslateOptions.exists_ok_of_code_ne ran
  refine ⟨entries, registry, loaded, built, ?_⟩
  simp only [TranslateOptions.run_of_ok loaded built]
  refine ⟨?_, Translation.code_outcome_of_ne_success, ?_⟩
  · rw [Translation.code_outcome_eq_success_iff]
    exact options.contains_iff _
  · intro json
    rw [json]
    simpa only [Translation.code_outcome_eq_success_iff, Bool.decide_eq_true] using
      (Translation.ofOptions options entries registry).output_outcome_json

/-- A catalog with two templates, one of them under a key that is not valid. -/
def greetings : String :=
  "[\x7b\"key\":\"hello\",\"language\":\"en\",\"template\":\"Hello\"\x7d," ++
    "\x7b\"key\":\"Hello\",\"language\":\"en\",\"template\":\"Hello\"\x7d]"

def greetingOptions (key : String) : TranslateOptions where
  catalog := "c"
  language := "en"
  within := default
  defaultLanguage := "en"
  cardinals := []
  key := key
  parameters := ∅
  audit := true
  json := true

theorem hello_used :
    ((Command.translate (greetingOptions "hello")).run (some greetings)).code = .success ∧
      ∃ entries registry, loadEntries "c" (some greetings) = .ok entries ∧
        buildRegistry "en" [] = .ok registry ∧
        (greetingOptions "hello").Uses { store := .ofEntries entries, registry := registry } := by
  have success :
      ((Command.translate (greetingOptions "hello")).run (some greetings)).code = .success := by
    decide +kernel
  obtain ⟨entries, registry, loaded, built, report, -⟩ :=
    @translate_report (greetingOptions "hello") (some greetings) (by decide +kernel)
  refine ⟨success, entries, registry, loaded, built, ?_⟩
  rcases report.1 success with used | ⟨invalid, -⟩
  · exact used
  · exact absurd invalid (by decide)

/-- The other template is reported as found, with no text and an event for its key. -/
theorem invalidHello_reported :
    isValidKey "Hello" = false ∧
      readRequest {} ["translate", "--catalog", "c", "--lang", "en", "--audit", "--json", "Hello"] =
        .ok (.command (.translate (greetingOptions "Hello"))) ∧
      (Command.translate (greetingOptions "Hello")).run (some greetings) =
        ⟨.success, "\x7b\n  \"id\": \"en/0/Hello\",\n  \"found\": true,\n  \"text\": \"\",\n" ++
          "  \"events\": [\n    \"key_invalid\"\n  ]\n\x7d\n", []⟩ :=
  ⟨by decide, rfl, by decide +kernel⟩

end Phrasebook.CommandLine
