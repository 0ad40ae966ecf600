import Phrasebook.Proofs.Catalog.Duplicates
import Phrasebook.Proofs.Catalog.Inspection
import Phrasebook.Proofs.Engine.AuditTrail
import Phrasebook.Proofs.Engine.MissReports
import Phrasebook.Proofs.Engine.RuleCache

/-! Translating the entries of a catalog in which no issue was found.

An inspection and an engine both go by the registered rule of a language. A language
without one is inspected by the cardinal rule of the locale it names, while an engine
reports it and goes by the default rule. So the slots of an entry fit the rule in use
if its language is registered, and the cardinal rule otherwise.
-/

set_option autoImplicit false

namespace Phrasebook

namespace Registry

variable {registry : Registry} {language : String} {rule : Rule}

theorem ruleOrDefault_of_ruleOrCardinal (registered : language ∈ registry.rules)
    (found : registry.ruleOrCardinal language = .ok rule) :
    registry.ruleOrDefault language = rule := by
  have known : registry.rule? language = some registry.rules[language] :=
    Std.ExtTreeMap.getElem?_eq_some_getElem registered
  rw [ruleOrCardinal, known] at found
  rw [ruleOrDefault, known, Option.getD_some]
  exact Except.ok.inj found

theorem exists_locale_of_ruleOrCardinal (unregistered : language ∉ registry.rules)
    (found : registry.ruleOrCardinal language = .ok rule) :
    ∃ locale, Locale.ofTag language = .ok locale ∧ rule = .cardinal locale := by
  have unknown : registry.rule? language = none := Std.ExtTreeMap.getElem?_eq_none unregistered
  rw [ruleOrCardinal, unknown] at found
  cases tag : Locale.ofTag language with
  | error cause => rw [tag] at found; cases found
  | ok locale =>
    rw [tag] at found
    exact ⟨locale, rfl, (Except.ok.inj found).symm⟩

end Registry

namespace Engine

variable {engine : Engine} {identity : Identity} {parameters : Parameters}

def ReportsMiss (engine : Engine) (identity : Identity) (parameters : Parameters) : Prop :=
  ∃ reported, (reported, .pluralizerMiss) ∈
    auditEntries ((translate identity parameters).run engine).notices

theorem reportsMiss_iff :
    engine.ReportsMiss identity parameters ↔
      engine.needsRule identity parameters = true ∧ engine.knows identity.language = false := by
  cases needed : engine.needsRule identity parameters with
  | false =>
    have other := engine.lookUpEvent_ne_pluralizerMiss identity
    rw [ReportsMiss, translate, run_translateWith_of_not_needsRule _
      (engine.currentRule identity.language) needed]
    simp [other.symm]
  | true =>
    obtain ⟨text, hit, given, operators⟩ := needsRule_iff.1 needed
    rw [ReportsMiss, translate, run_translateWith_of_needsRule _ hit given operators]
    have silent : Event.pluralizerMiss ∉ ((Template.parse text).render
        ⟨parameters, engine.reportsMissingGender⟩ (engine.currentRule identity.language)).events := by
      rw [Template.events_render, List.mem_flatMap]
      rintro ⟨operator, -, member⟩
      exact operator.pluralizerMiss_notMem_missing _ member
    simp only [value_run_ruleFor, auditEntries_cons_audit, auditEntries_append,
      auditEntries_run_ruleFor, auditEntries_map_audit]
    cases engine.knows identity.language <;> simp [silent]

section Clean

variable {entries : List Entry} {entry : Entry}

theorem slotsWithin_ruleFor (current : engine.CacheCurrent)
    (clean : findIssues entries engine.registry = []) (member : entry ∈ entries)
    (registered : entry.identity.language ∈ engine.registry.rules) :
    (Template.parse entry.template).SlotsWithin
      ((ruleFor entry.identity).run engine).value.1 := by
  rw [value_run_ruleFor, current.currentRule]
  cases operators : (Template.parse entry.template).hasOperators with
  | false => exact Template.slotsWithin_of_not_hasOperators operators _
  | true =>
    obtain ⟨rule, found, within⟩ := rule_of_findIssues_eq_nil clean member operators
    rw [Registry.ruleOrDefault_of_ruleOrCardinal registered found]
    exact within

theorem needsRule_of_clean (stored : engine.store = .ofEntries entries)
    (clean : findIssues entries engine.registry = []) (differ : StorageKeysDiffer entries)
    (member : entry ∈ entries) (parameters : Parameters) :
    engine.needsRule entry.identity parameters =
      (!parameters.isEmpty && (Template.parse entry.template).hasOperators) := by
  have nodup : (entries.map (·.identity)).Nodup :=
    (duplicateCount_eq_zero_iff entries engine.registry).1 (clean ▸ duplicateCount_nil)
  have hit : engine.hit? entry.identity = some entry.template :=
    hit?_eq_some_iff.2
      ⟨isValidKey_of_findIssues_eq_nil clean member, stored ▸ get?_ofEntries nodup differ member⟩
  rw [needsRule, hit, Option.any_some]

end Clean

/-- What a run of an engine makes of a catalog that is in its store and has no issue under
its registry. In a registered language the slots of an entry fit the rule in use, and no
translation reports a miss. In another one the slots of an entry with an operator fit the
cardinal rule of the language, which is a locale. If no storage key stands for two entries
then just the translations that have parameters for an operator in a language neither
registered nor cached report a miss. -/
theorem clean_entry_pluralized {direct : Direct} {steps : List Step} {entries : List Entry}
    (stored : (run direct.withCache steps).2.store = .ofEntries entries)
    (clean : findIssues entries (run direct.withCache steps).2.registry = []) :
    let engine := (run direct.withCache steps).2
    ∀ entry ∈ entries,
      let language := entry.identity.language
      let template := Template.parse entry.template
      (language ∈ engine.registry.rules →
        template.SlotsWithin ((ruleFor entry.identity).run engine).value.1 ∧
          ∀ parameters, ¬engine.ReportsMiss entry.identity parameters) ∧
      (language ∉ engine.registry.rules → template.hasOperators = true →
        ∃ locale, Locale.ofTag language = .ok locale ∧ template.SlotsWithin (.cardinal locale)) ∧
      (StorageKeysDiffer entries → ∀ parameters,
        (engine.ReportsMiss entry.identity parameters ↔
          (language ∉ engine.registry.rules ∧ template.hasOperators = true) ∧
            language ∉ engine.cache ∧ parameters ≠ ∅)) := by
  have built : direct.withCache.CacheCurrent := cacheCurrent_of_empty rfl
  have current : (run direct.withCache steps).2.CacheCurrent := (built.run steps).2
  -- All that matters of the run is that the cache is current.
  generalize (run direct.withCache steps).2 = engine at stored clean current
  intro engine entry member language template
  refine ⟨?_, ?_, ?_⟩
  · intro registered
    refine ⟨slotsWithin_ruleFor current clean member registered, ?_⟩
    intro parameters reported
    have unknown := (reportsMiss_iff.1 reported).2
    rw [knows_iff.2 (.inr registered)] at unknown
    cases unknown
  · intro unregistered operators
    obtain ⟨rule, found, within⟩ := rule_of_findIssues_eq_nil clean member operators
    obtain ⟨locale, tag, rfl⟩ := Registry.exists_locale_of_ruleOrCardinal unregistered found
    exact ⟨locale, tag, within⟩
  · intro differ parameters
    rw [reportsMiss_iff, needsRule_of_clean stored clean differ member, ← Bool.not_eq_true,
      knows_iff]
    simp only [Bool.and_eq_true, Bool.not_eq_eq_eq_not, Bool.not_true, not_or,
      Std.ExtTreeMap.isEmpty_eq_false_iff]
    constructor
    · rintro ⟨⟨given, operators⟩, uncached, unregistered⟩
      exact ⟨⟨unregistered, operators⟩, uncached, given⟩
    · rintro ⟨⟨unregistered, operators⟩, uncached, given⟩
      exact ⟨⟨given, operators⟩, uncached, unregistered⟩

/-- The same word in a registered language and in one that is only a locale. -/
def englishFiles : Entry := ⟨⟨"files", "en", default⟩, "%\x7bn\x7d %\x7bn -> file,files\x7d"⟩

def polishFiles : Entry := ⟨⟨"files", "pl", default⟩, "%\x7bn -> plik,pliki,plików,pliku\x7d"⟩

def bilingual : Direct := ⟨.ofEntries [englishFiles, polishFiles], .english, true⟩

theorem englishFiles_pluralized :
    (run bilingual.withCache []).2.store = .ofEntries [englishFiles, polishFiles] ∧
      findIssues [englishFiles, polishFiles] (run bilingual.withCache []).2.registry = [] ∧
      (Template.parse englishFiles.template).SlotsWithin
        ((ruleFor englishFiles.identity).run bilingual.withCache).value.1 ∧
      (∀ parameters, ¬bilingual.withCache.ReportsMiss englishFiles.identity parameters) ∧
      bilingual.withCache.ReportsMiss polishFiles.identity two := by
  have clean : findIssues [englishFiles, polishFiles] Registry.english = [] := by decide +kernel
  have differ : StorageKeysDiffer [englishFiles, polishFiles] := by
    unfold StorageKeysDiffer
    decide +kernel
  have fitting := @clean_entry_pluralized bilingual [] [englishFiles, polishFiles] rfl clean
  obtain ⟨inEnglish, -, -⟩ := fitting englishFiles (by decide)
  obtain ⟨-, -, reported⟩ := fitting polishFiles (by decide)
  obtain ⟨within, silent⟩ := inEnglish (by decide +kernel)
  refine ⟨rfl, clean, within, silent, (reported differ two).2 ?_⟩
  decide +kernel

/-- No issue is found in the catalog, and yet the Polish entry is reported, and it has four
slots for the two forms of the rule that the engine goes by. -/
theorem polishFiles_reported :
    findIssues [englishFiles, polishFiles] bilingual.registry = [] ∧
      bilingual.withCache.ReportsMiss polishFiles.identity two ∧
      ¬(Template.parse polishFiles.template).SlotsWithin
        ((ruleFor polishFiles.identity).run bilingual.withCache).value.1 := by
  refine ⟨by decide +kernel, ?_, ?_⟩
  · rw [reportsMiss_iff]
    decide +kernel
  · intro within
    have last := within ⟨some "n", none, "plik,pliki,plików,pliku"⟩ (by decide +kernel) rfl 3
      (by decide +kernel)
    exact absurd last (by decide +kernel)

end Engine

end Phrasebook
