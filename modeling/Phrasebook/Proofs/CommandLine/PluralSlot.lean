import Phrasebook.Proofs.CommandLine.OptionValue
import Phrasebook.Proofs.CommandLine.TranslationReport
import Phrasebook.Proofs.Plural.Slots
import Phrasebook.Proofs.Template.Selection

/-! The slot of a number, in a report and in a translation.

One command reports the slot of a number and another selects it in a template. Each reads
the number and looks up the rule in its own way.
-/

set_option autoImplicit false

namespace Phrasebook.CommandLine

section Arguments

variable (environment : Environment) {path language number key : String} {json : Bool}
  {arguments : List String}

def jsonFlag (json : Bool) : List String := if json then ["--json"] else []

inductive AsksSlot (language number : String) (json : Bool) : List String → Prop where
  | operand {languages : List String} :
      Gives pluralGrammar (single "lang") language languages →
      pluralGrammar.shape number.toList = .operand →
      AsksSlot language number json (languages ++ (jsonFlag json ++ [number]))
  | ended {languages : List String} :
      Gives pluralGrammar (single "lang") language languages →
      AsksSlot language number json (languages ++ (jsonFlag json ++ ["--", number]))

def cardinalForm : OptionForm := ⟨"cldr", none, .many⟩

/-- The arguments that ask for the translation of a key with a count. The language is
given once more if it has no built-in rule. -/
inductive AsksCount (path language number key : String) : List String → Prop where
  | builtin {catalogs languages : List String} : language ∈ Registry.builtin →
      Gives translateGrammar (single "catalog") path catalogs →
      Gives translateGrammar (single "lang") language languages →
      AsksCount path language number key
        (catalogs ++ (languages ++ ["-p", "n=" ++ number, "--", key]))
  | cardinal {catalogs languages cardinals : List String} : language ∉ Registry.builtin →
      Gives translateGrammar (single "catalog") path catalogs →
      Gives translateGrammar (single "lang") language languages →
      Gives translateGrammar cardinalForm language cardinals →
      AsksCount path language number key
        (catalogs ++ (languages ++ (cardinals ++ ["-p", "n=" ++ number, "--", key])))

def slotGiven (language number : String) (json : Bool) : List Given :=
  .option (single "lang") (some language) ::
    ((if json then [.option jsonForm none] else []) ++ [.operand number])

def countGiven (path language number key : String) : List Given :=
  .option (single "catalog") (some path) :: .option (single "lang") (some language) ::
    ((Registry.cardinalsFor language).map fun tag => .option cardinalForm (some tag)) ++
      [.option ⟨"param", some 'p', .many⟩ (some ("n=" ++ number)), .operand key]

def countParameters (number : String) : Parameters :=
  (∅ : Parameters).insert "n" (readValue number)

def countOptions (path language number key : String) : TranslateOptions where
  catalog := path
  language := language
  within := default
  defaultLanguage := environment.defaultLanguage.getD "en"
  cardinals := Registry.cardinalsFor language
  key := key
  parameters := countParameters number
  audit := false
  json := false

theorem readArguments_jsonFlag (json : Bool) (rest : List String) :
    pluralGrammar.readArguments none (jsonFlag json ++ rest) =
      (pluralGrammar.readArguments none rest).map
        ((if json then [.option jsonForm none] else []) ++ ·) := by
  cases json with
  | false =>
    show pluralGrammar.readArguments none rest = _
    cases pluralGrammar.readArguments none rest <;> rfl
  | true =>
    show (pluralGrammar.readArguments none rest >>= fun given =>
      pure (.option jsonForm none :: given)) = _
    cases pluralGrammar.readArguments none rest <;> rfl

theorem readOnce_of_asksSlot (asks : AsksSlot language number json arguments) :
    pluralGrammar.readOnce arguments = .ok (slotGiven language number json) := by
  have valued : pluralGrammar.Valued (single "lang") := ⟨rfl, nofun, by decide, by decide⟩
  cases asks with
  | operand languages shape =>
    have last : pluralGrammar.readArguments none [number] = .ok [.operand number] := by
      rw [Grammar.readArguments, shape]
      rfl
    rw [Grammar.readOnce, Grammar.read, valued.readArguments_append languages,
      readArguments_jsonFlag, last]
    cases json <;> rfl
  | ended languages =>
    rw [Grammar.readOnce, Grammar.read, valued.readArguments_append languages,
      readArguments_jsonFlag]
    cases json <;> rfl

theorem readPlural_of_asksSlot (asks : AsksSlot language number json arguments) :
    readPlural arguments = (readNumber number).map (⟨language, [·], json⟩) := by
  have given : operands (slotGiven language number json) = [number] ∧
      valuesOf "lang" (slotGiven language number json) = [language] ∧
      isGiven "json" (slotGiven language number json) = json := by
    cases json <;> exact ⟨rfl, rfl, rfl⟩
  rw [readPlural, readOnce_of_asksSlot asks]
  obtain ⟨operand, lang, flag⟩ := given
  simp only [bind, Except.bind, operand, lang, flag, List.mapM_cons, List.mapM_nil]
  cases readNumber number <;> rfl

theorem readArguments_count (number key : String) :
    translateGrammar.readArguments none ["-p", "n=" ++ number, "--", key] =
      .ok [.option ⟨"param", some 'p', .many⟩ (some ("n=" ++ number)), .operand key] := by
  have shape : translateGrammar.shape ("n=" ++ number).toList = .operand := by
    rw [String.toList_append]
    rfl
  show (translateGrammar.readArguments (some ⟨"param", some 'p', .many⟩)
    ["n=" ++ number, "--", key]).map ([] ++ ·) = _
  rw [Grammar.readArguments, shape]
  rfl

theorem readOnce_of_asksCount (asks : AsksCount path language number key arguments) :
    translateGrammar.readOnce arguments = .ok (countGiven path language number key) := by
  have catalog : translateGrammar.Valued (single "catalog") :=
    ⟨rfl, nofun, by decide, by decide⟩
  have lang : translateGrammar.Valued (single "lang") := ⟨rfl, nofun, by decide, by decide⟩
  have cardinal : translateGrammar.Valued cardinalForm := ⟨rfl, nofun, by decide, by decide⟩
  cases asks with
  | builtin own catalogs languages =>
    rw [Grammar.readOnce, Grammar.read, catalog.readArguments_append catalogs,
      lang.readArguments_append languages, readArguments_count, countGiven,
      Registry.cardinalsFor, if_pos own]
    rfl
  | cardinal other catalogs languages cardinals =>
    rw [Grammar.readOnce, Grammar.read, catalog.readArguments_append catalogs,
      lang.readArguments_append languages, cardinal.readArguments_append cardinals,
      readArguments_count, countGiven, Registry.cardinalsFor, if_neg other]
    rfl

theorem listed_countGiven (noComma : ',' ∉ language.toList) :
    listed "cldr" (countGiven path language number key) = Registry.cardinalsFor language := by
  unfold countGiven Registry.cardinalsFor
  split
  · rfl
  · show Text.splitString ',' language ++ [] = [language]
    rw [Text.splitString_of_not_mem noComma]
    rfl

theorem readParameter_count (number : String) :
    readParameter ("n=" ++ number) = .ok ("n", readValue number) := by
  have shape : ("n=" ++ number).toList = 'n' :: '=' :: number.toList := String.toList_append
  simp [readParameter, shape]

theorem readTranslate_of_asksCount (noComma : ',' ∉ language.toList) (named : path ≠ "")
    (asks : AsksCount path language number key arguments) :
    readTranslate environment arguments =
      .ok (countOptions environment path language number key) := by
  have cardinals := @listed_countGiven path language number key noComma
  have catalog := @readCatalogPath_of_head? environment
    (countGiven path language number key) path rfl named
  have others : operands (countGiven path language number key) = [key] ∧
      valuesOf "param" (countGiven path language number key) = ["n=" ++ number] ∧
      valuesOf "lang" (countGiven path language number key) = [language] ∧
      valuesOf "section" (countGiven path language number key) = [] ∧
      valuesOf "default-lang" (countGiven path language number key) = [] ∧
      isGiven "audit" (countGiven path language number key) = false ∧
      isGiven "json" (countGiven path language number key) = false := by
    unfold countGiven Registry.cardinalsFor
    split <;> exact ⟨rfl, rfl, rfl, rfl, rfl, rfl, rfl⟩
  rw [readTranslate, readOnce_of_asksCount asks]
  generalize countGiven path language number key = given at cardinals catalog others
  obtain ⟨operand, parameter, lang, part, fallback, audit, json⟩ := others
  simp only [bind, Except.bind, operand, parameter, List.mapM_cons, List.mapM_nil,
    readParameter_count, pure, Except.pure, catalog, lang, part, fallback, audit, json, cardinals]
  rfl

theorem readRequest_of_asksCount (noComma : ',' ∉ language.toList) (named : path ≠ "")
    (asks : AsksCount path language number key arguments) :
    readRequest environment ("translate" :: arguments) =
      .ok (.command (.translate (countOptions environment path language number key))) := by
  rw [readRequest_translate, readTranslate_of_asksCount environment noComma named asks]
  rfl

theorem readRequest_of_asksSlot (asks : AsksSlot language number json arguments)
    {request : Request} (accepted : readRequest environment ("plural" :: arguments) = .ok request) :
    ∃ value, Binary64.read number.toList = some value ∧
      request = .command (.plural ⟨language, [value], json⟩) := by
  rw [readRequest_plural, readPlural_of_asksSlot asks, readNumber] at accepted
  cases read : Binary64.read number.toList with
  | none => rw [read] at accepted; cases accepted
  | some value =>
    rw [read] at accepted
    exact ⟨value, rfl, (Except.ok.inj accepted).symm⟩

end Arguments

theorem count_readValue {text : String} {number : Binary64}
    (read : Binary64.read text.toList = some number) : (readValue text).count.Same number := by
  unfold readValue
  split
  · next whole found =>
    obtain ⟨value, again, same⟩ := Binary64.read_of_readInt64 found
    rw [read, Option.some.injEq] at again
    exact again ▸ same
  · simp only [read]
    exact .refl number

section Runs

variable {fallback language : String}

theorem map_rule?_buildRegistry (registered : fallback ∈ Registry.builtin) (language : String) :
    (buildRegistry fallback (Registry.cardinalsFor language)).map (·.rule? language) =
      (ruleOf language).map some := by
  have same := Registry.map_rule?_build registered language
  rw [buildRegistry, ruleOf]
  cases built : Registry.build fallback (Registry.cardinalsFor language) <;>
    cases found : Registry.english.ruleOrCardinal language <;>
    simp_all [Except.map, Except.mapError]

def slotReport (language : String) (rule : Rule) (row : PluralRow) (json : Bool) : String :=
  if json then prettyJson (.list [row.toJson])
  else
    line ("Forms for " ++ language ++ ": " ++ ", ".intercalate (rule.forms.map Category.name)) ++
      line (PluralRow.table [row]).render

theorem run_plural_of_ok {rule : Rule} (found : ruleOf language = .ok rule) (number : Binary64)
    (json : Bool) (catalog : Option String) :
    (Command.plural ⟨language, [number], json⟩).run catalog =
      ⟨.success, slotReport language rule (.ofNumber rule number) json, []⟩ := by
  show Outcome.ofExcept (runPlural ⟨language, [number], json⟩) = _
  rw [runPlural, found]
  cases json <;> rfl

theorem run_plural_of_error {message : String} (found : ruleOf language = .error message)
    (numbers : List Binary64) (json : Bool) (catalog : Option String) :
    (Command.plural ⟨language, numbers, json⟩).run catalog = Outcome.failed message := by
  show Outcome.ofExcept (runPlural ⟨language, numbers, json⟩) = _
  rw [runPlural, found]
  rfl

theorem run_translate_of_operators {environment : Environment} {path number key text : String}
    {catalog : Option String} {entries : List Entry} {registry : Registry} {rule : Rule}
    (loaded : loadEntries path catalog = .ok entries)
    (built : buildRegistry (environment.defaultLanguage.getD "en")
      (Registry.cardinalsFor language) = .ok registry)
    (found : registry.rule? language = some rule) (valid : isValidKey key = true)
    (stored : (Store.ofEntries entries).get? ⟨key, language, default⟩ = some text)
    (operators : (Template.parse text).hasOperators = true) :
    (Command.translate (countOptions environment path language number key)).run catalog =
      ⟨.success,
        line ((Template.parse text).render ⟨countParameters number, true⟩ rule).text, []⟩ := by
  let engine : Engine := { store := .ofEntries entries, registry := registry }
  let identity : Identity := ⟨key, language, default⟩
  have current : engine.currentRule language = rule := by
    simp [engine, Engine.currentRule, Registry.ruleOrDefault, found]
  have given : (countParameters number).isEmpty = false := by simp [countParameters]
  have hit : engine.store.get? identity = some text := stored
  have translation : engine.translation rule identity (countParameters number) =
      ((Template.parse text).render ⟨countParameters number, true⟩ rule).text := by
    simp [Engine.translation, identity, valid, stored, engine, given,
      Template.isPlain_eq_false_of_hasOperators operators]
  have value := Engine.value_run_translate engine identity (countParameters number)
  rw [current, translation] at value
  have ran := @TranslateOptions.run_of_ok (countOptions environment path language number key)
    catalog entries registry loaded built
  rw [ran]
  show Translation.outcome ⟨identity, engine.contains identity,
    ((Engine.translate identity (countParameters number)).run engine).value.1, []⟩ false = _
  rw [value, Engine.contains, hit]
  rfl

theorem code_run_translate_of_error {environment : Environment} {path number key message : String}
    (unbuilt : buildRegistry (environment.defaultLanguage.getD "en")
      (Registry.cardinalsFor language) = .error message) (catalog : Option String) :
    ((Command.translate (countOptions environment path language number key)).run catalog).code =
      .failure := by
  cases loaded : loadEntries path catalog with
  | error fault =>
    have ran := @TranslateOptions.run_of_loadEntries_error
      (countOptions environment path language number key) catalog fault loaded
    rw [ran]
    rfl
  | ok entries =>
    have ran := @TranslateOptions.run_of_buildRegistry_error
      (countOptions environment path language number key) catalog entries message loaded unbuilt
    rw [ran]
    rfl

end Runs

theorem provided_of_ruleOf {language : String} {rule : Rule}
    (found : ruleOf language = .ok rule) : rule.Provided := by
  cases looked : Registry.english.ruleOrCardinal language with
  | error fault => rw [ruleOf, looked] at found; cases found
  | ok other =>
    rw [ruleOf, looked] at found
    exact Except.ok.inj found ▸ Registry.provided_of_ruleOrCardinal looked

theorem exists_ruleOf {language : String}
    (known : language ∈ Registry.builtin ∨ ∃ locale, Locale.ofTag language = .ok locale) :
    ∃ rule, ruleOf language = .ok rule := by
  by_cases own : language ∈ Registry.builtin
  · rw [ruleOf, Registry.ruleOrCardinal_of_mem own]
    exact ⟨_, rfl⟩
  · obtain ⟨locale, tag⟩ := known.resolve_left own
    rw [ruleOf, Registry.ruleOrCardinal_of_not_mem own, tag]
    exact ⟨_, rfl⟩

/-- The slot that is reported for a number is selected in every template, by each operator
that has a count only and slots for all forms of the rule. A language with no built-in rule
is given once more for the translation; if it is no locale either, both commands fail. -/
theorem reported_slot_selected {environment : Environment} {path language number key : String}
    {json : Bool} {slotArguments countArguments : List String} {request : Request}
    (registered : environment.defaultLanguage.getD "en" ∈ Registry.builtin)
    (noComma : ',' ∉ language.toList) (named : path ≠ "")
    (asksSlot : AsksSlot language number json slotArguments)
    (asksCount : AsksCount path language number key countArguments)
    (accepted : readRequest environment ("plural" :: slotArguments) = .ok request) :
    ∃ value report translation,
      Binary64.read number.toList = some value ∧ request = .command report ∧
      readRequest environment ("translate" :: countArguments) = .ok (.command translation) ∧
      (language ∉ Registry.builtin → (∃ fault, Locale.ofTag language = .error fault) →
        ∀ catalog, (report.run catalog).code = .failure ∧
          (translation.run catalog).code = .failure) ∧
      (language ∈ Registry.builtin ∨ (∃ locale, Locale.ofTag language = .ok locale) →
        ∃ rule slot, ruleOf language = .ok rule ∧ slot < rule.forms.length ∧
          (∀ catalog, report.run catalog =
            ⟨.success, slotReport language rule ⟨value, rule.category value, some slot⟩ json, []⟩) ∧
          ∀ catalog entries text, loadEntries path catalog = .ok entries →
            isValidKey key = true →
            (Store.ofEntries entries).get? ⟨key, language, default⟩ = some text →
            ∀ operator ∈ (Template.parse text).operators,
              operator.count = some "n" → operator.gender = none →
              rule.forms.length ≤ (Text.splitString ',' operator.forms).length →
              operator.Selects rule (countParameters number) slot ∧
                translation.run catalog = ⟨.success,
                  line ((Template.parse text).render ⟨countParameters number, true⟩ rule).text,
                  []⟩) := by
  obtain ⟨value, read, rfl⟩ := readRequest_of_asksSlot environment asksSlot accepted
  have looked := map_rule?_buildRegistry registered language
  refine ⟨value, _, _, read, rfl, readRequest_of_asksCount environment noComma named asksCount,
    ?_, ?_⟩
  · rintro other ⟨fault, invalid⟩ catalog
    have missing : ruleOf language = .error fault.message := by
      rw [ruleOf, Registry.ruleOrCardinal_of_not_mem other, invalid]
      rfl
    refine ⟨congrArg Outcome.code (run_plural_of_error missing _ _ catalog), ?_⟩
    rw [missing] at looked
    cases built : buildRegistry (environment.defaultLanguage.getD "en")
        (Registry.cardinalsFor language) with
    | error message => exact code_run_translate_of_error built catalog
    | ok registry => rw [built] at looked; cases looked
  · intro known
    obtain ⟨rule, found⟩ := exists_ruleOf known
    have provided := provided_of_ruleOf found
    obtain ⟨slot, slotted⟩ := provided.exists_slot value
    have below := Rule.slot?_lt slotted
    refine ⟨rule, slot, found, below, fun catalog => ?_, ?_⟩
    · rw [run_plural_of_ok found, PluralRow.ofNumber, slotted]
    · intro catalog entries text loaded valid stored operator inside count countOnly enough
      have operators : (Template.parse text).hasOperators = true := by
        cases shape : (Template.parse text).operators with
        | nil => rw [shape] at inside; cases inside
        | cons first others => rw [Template.hasOperators, shape]; rfl
      -- The count is the reported number up to the sign of a zero.
      have index : operator.slot? rule (countParameters number) = some slot := by
        have same := provided.slot?_eq_of_same (count_readValue read)
        simp [Operator.slot?, count, countParameters, same, slotted]
      refine ⟨Operator.selects_of_slot? countOnly index (Nat.lt_of_lt_of_le below enough), ?_⟩
      rw [found] at looked
      cases built : buildRegistry (environment.defaultLanguage.getD "en")
          (Registry.cardinalsFor language) with
      | error message => rw [built] at looked; cases looked
      | ok registry =>
        rw [built] at looked
        exact run_translate_of_operators loaded built (Except.ok.inj looked) valid stored operators

def polishForms : String :=
  "[\x7b\"key\":\"k\",\"language\":\"pl\",\"template\":\"%\x7bn -> a,b,c,d\x7d\"\x7d]"

/-- Zero with a minus sign is read as a number in one way and as an integer in the other. -/
theorem negativeZero_selected :
    "en" ∈ Registry.builtin ∧ ',' ∉ "pl".toList ∧ "c" ≠ "" ∧
      AsksSlot "pl" "-0" false ["--lang=pl", "-0"] ∧
      AsksCount "c" "pl" "-0" "k"
        ["--catalog=c", "--lang=pl", "--cldr=pl", "-p", "n=-0", "--", "k"] ∧
      readRequest {} ["plural", "--lang=pl", "-0"] =
        .ok (.command (.plural ⟨"pl", [.ofOrdinal true 0], false⟩)) ∧
      ∃ rule slot translation, ruleOf "pl" = .ok rule ∧
        readRequest {} ["translate", "--catalog=c", "--lang=pl", "--cldr=pl", "-p", "n=-0", "--",
          "k"] = .ok (.command translation) ∧
        Operator.Selects ⟨some "n", none, "a,b,c,d"⟩ rule (countParameters "-0") slot ∧
        (translation.run (some polishForms)).code = .success := by
  have own : "en" ∈ Registry.builtin := by simp [Registry.builtin]
  have other : "pl" ∉ Registry.builtin := by simp [Registry.builtin]
  have asksSlot : AsksSlot "pl" "-0" false ["--lang=pl", "-0"] := .operand .joined rfl
  have asksCount : AsksCount "c" "pl" "-0" "k"
      ["--catalog=c", "--lang=pl", "--cldr=pl", "-p", "n=-0", "--", "k"] :=
    .cardinal other .joined .joined .joined
  have accepted : readRequest {} ["plural", "--lang=pl", "-0"] =
      .ok (.command (.plural ⟨"pl", [.ofOrdinal true 0], false⟩)) := rfl
  have loaded : loadEntries "c" (some polishForms) =
      .ok [⟨⟨"k", "pl", default⟩, "%\x7bn -> a,b,c,d\x7d"⟩] := rfl
  obtain ⟨_, _, translation, -, -, asked, -, agreed⟩ := @reported_slot_selected {} "c" "pl" "-0" "k"
    false _ _ _ own (by decide) (by decide) asksSlot asksCount accepted
  obtain ⟨rule, slot, found, -, -, selected⟩ := agreed (.inr ⟨_, rfl⟩)
  -- The operator has as many slots as the rule has forms.
  have forms : rule.forms.length = 4 := by
    have four : (ruleOf "pl").map (·.forms.length) = .ok 4 := rfl
    rw [found] at four
    exact Except.ok.inj four
  have stored : (Store.ofEntries [⟨⟨"k", "pl", default⟩, "%\x7bn -> a,b,c,d\x7d"⟩]).get?
      ⟨"k", "pl", default⟩ = some "%\x7bn -> a,b,c,d\x7d" := by
    simp [Store.ofEntries, Store.setAll, Store.get?_set]
  obtain ⟨selects, ran⟩ := selected _ _ _ loaded (by decide) stored
    ⟨some "n", none, "a,b,c,d"⟩ (by decide) rfl rfl (by rw [forms]; decide)
  exact ⟨own, by decide, by decide, asksSlot, asksCount, accepted, rule, slot, translation, found,
    asked, selects, congrArg Outcome.code ran⟩

end Phrasebook.CommandLine
