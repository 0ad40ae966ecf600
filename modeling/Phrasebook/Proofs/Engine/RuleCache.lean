import Phrasebook.Proofs.Engine.Actions

/-! The cache of rules shows in no answer.

Each cached rule is the one that the registry gives at that moment, for every
change of the registry gives the cache up. So an engine answers each step of a
run as one that has no cache and asks the registry every time.
-/

set_option autoImplicit false

namespace Phrasebook

/-- An engine without a cache. -/
structure Direct where
  store : Store
  registry : Registry
  reportsMissingGender : Bool

namespace Direct

open Engine (Step Answer)

def withCache (direct : Direct) : Engine where
  store := direct.store
  registry := direct.registry
  reportsMissingGender := direct.reportsMissingGender

def ruleFor (direct : Direct) (identity : Identity) : Rule :=
  direct.registry.ruleOrDefault identity.language

def translate (direct : Direct) (identity : Identity) (parameters : Parameters) : String :=
  if isValidKey identity.key then
    match direct.store.get? identity with
    | none => identity.key
    | some text =>
      let template := Template.parse text
      if parameters.isEmpty || template.isPlain then text
      else (Id.run (template.evaluate ⟨parameters, direct.reportsMissingGender⟩
        (pure (direct.ruleFor identity)))).text
  else ""

def perform (direct : Direct) : Step → Answer × Direct
  | .set entry => (.nothing, { direct with store := direct.store.set entry })
  | .setAll entries => (.nothing, { direct with store := direct.store.setAll entries })
  | .remove identity => (.nothing, { direct with store := direct.store.remove identity })
  | .removeAll identities => (.nothing, { direct with store := direct.store.removeAll identities })
  | .get identity => (.template (direct.store.get? identity), direct)
  | .size => (.size direct.store.size direct.store.isEmpty, direct)
  | .contains identity => (.found (direct.store.get? identity).isSome, direct)
  | .translate identity parameters => (.text (direct.translate identity parameters), direct)
  | .translatePlain identity => (.text (direct.translate identity ∅), direct)
  | .ruleFor identity => (.rule (direct.ruleFor identity), direct)
  | .languages => (.names direct.registry.languages, direct)
  | .defaultLanguage => (.text direct.registry.defaultLanguage, direct)
  | .takeRegistry => (.nothing, direct)
  | .addRule language source =>
    match source.resolve with
    | .ok rule => (.nothing, { direct with registry := direct.registry.add language rule })
    | .error cause => (.error cause, direct)
  | .addCardinal language =>
    match direct.registry.addCardinal language with
    | .ok (_, registry) => (.nothing, { direct with registry := registry })
    | .error cause => (.error cause, direct)

def run (direct : Direct) : List Step → List Answer × Direct
  | [] => ([], direct)
  | step :: rest =>
    let (answer, next) := direct.perform step
    let (answers, last) := next.run rest
    (answer :: answers, last)

end Direct

namespace Engine

def withoutCache (engine : Engine) : Direct where
  store := engine.store
  registry := engine.registry
  reportsMissingGender := engine.reportsMissingGender

/-- Each cached rule is the one that the registry gives now. -/
def CacheCurrent (engine : Engine) : Prop :=
  ∀ language rule, engine.cache[language]? = some rule →
    engine.registry.ruleOrDefault language = rule

variable {engine : Engine}

theorem cacheCurrent_of_empty (empty : engine.cache = ∅) : engine.CacheCurrent := by
  intro language rule cached
  simp [empty] at cached

theorem CacheCurrent.currentRule (current : engine.CacheCurrent) (language : String) :
    engine.currentRule language = engine.registry.ruleOrDefault language := by
  unfold Engine.currentRule
  cases cached : engine.cache[language]? with
  | none => rfl
  | some rule => exact (current language rule cached).symm

@[simp] theorem withoutCache_remember (engine : Engine) (language : String) :
    (engine.remember language).withoutCache = engine.withoutCache := by
  unfold remember
  split <;> rfl

theorem CacheCurrent.remember (current : engine.CacheCurrent) (language : String) :
    (engine.remember language).CacheCurrent := by
  unfold Engine.remember
  split
  · exact current
  -- The new entry is what the registry gives, and the others are as before.
  · intro other rule cached
    rw [Std.ExtTreeMap.getElem?_insert] at cached
    split at cached
    · next same =>
      obtain rfl := Std.LawfulEqCmp.eq_of_compare same
      exact Option.some.inj cached
    · exact current other rule cached

theorem CacheCurrent.translation (current : engine.CacheCurrent) (identity : Identity)
    (parameters : Parameters) :
    engine.translation (engine.currentRule identity.language) identity parameters =
      engine.withoutCache.translate identity parameters := by
  rw [current.currentRule]
  simp only [Engine.translation, Direct.translate, Template.run_evaluate_pure]
  rfl

theorem CacheCurrent.translate (current : engine.CacheCurrent) (identity : Identity)
    (parameters : Parameters) :
    let result := ((translate identity parameters).run engine).value
    result.1 = engine.withoutCache.translate identity parameters ∧
      result.2.withoutCache = engine.withoutCache ∧ result.2.CacheCurrent := by
  simp only [value_run_translate, current.translation, true_and]
  split
  · exact ⟨withoutCache_remember engine identity.language, current.remember identity.language⟩
  · exact ⟨rfl, current⟩

/-- One step answers and goes on as it does without a cache, and keeps the cache current. -/
theorem CacheCurrent.perform (current : engine.CacheCurrent) (step : Step) :
    let result := ((perform step).run engine).value
    (result.1, result.2.withoutCache) = engine.withoutCache.perform step ∧
      result.2.CacheCurrent := by
  -- Translations and requests read and fill the cache; changes of the registry empty it.
  cases step with
  | set entry => exact ⟨rfl, current⟩
  | setAll entries => exact ⟨rfl, current⟩
  | remove identity => exact ⟨rfl, current⟩
  | removeAll identities => exact ⟨rfl, current⟩
  | get identity => exact ⟨rfl, current⟩
  | size => exact ⟨rfl, current⟩
  | contains identity => exact ⟨rfl, current⟩
  | translate identity parameters =>
    obtain ⟨text, same, kept⟩ := current.translate identity parameters
    exact ⟨Prod.ext (congrArg Answer.text text) same, kept⟩
  | translatePlain identity =>
    obtain ⟨text, same, kept⟩ := current.translate identity ∅
    exact ⟨Prod.ext (congrArg Answer.text text) same, kept⟩
  | ruleFor identity =>
    have answered := value_run_ruleFor engine identity
    rw [current.currentRule] at answered
    simp only [Engine.perform, Direct.perform, StateT.run_bind, Noted.value_bind, answered]
    exact ⟨Prod.ext rfl (withoutCache_remember engine identity.language),
      current.remember identity.language⟩
  | languages => exact ⟨rfl, current⟩
  | defaultLanguage => exact ⟨rfl, current⟩
  | takeRegistry => exact ⟨rfl, cacheCurrent_of_empty rfl⟩
  | addRule language source =>
    cases resolved : source.resolve with
    | ok rule =>
      simp only [Engine.perform, Direct.perform, value_run_addSource_of_ok _ _ resolved, resolved]
      exact ⟨rfl, cacheCurrent_of_empty rfl⟩
    | error cause =>
      simp only [Engine.perform, Direct.perform, value_run_addSource_of_error _ _ resolved, resolved]
      exact ⟨rfl, cacheCurrent_of_empty rfl⟩
  | addCardinal language =>
    cases result : engine.registry.addCardinal language with
    | ok added =>
      simp only [Engine.perform, Direct.perform, StateT.run_bind, Noted.value_bind,
        value_run_addCardinal_of_ok result, withoutCache, result]
      exact ⟨rfl, cacheCurrent_of_empty rfl⟩
    | error cause =>
      simp only [Engine.perform, Direct.perform, StateT.run_bind, Noted.value_bind,
        value_run_addCardinal_of_error result, withoutCache, result]
      exact ⟨rfl, cacheCurrent_of_empty rfl⟩

/-- A whole run answers as it does without a cache, and ends with a current cache. -/
theorem CacheCurrent.run (current : engine.CacheCurrent) (steps : List Step) :
    let result := run engine steps
    (result.1.map Noted.value, result.2.withoutCache) = engine.withoutCache.run steps ∧
      result.2.CacheCurrent := by
  -- The invariant on the cache is what makes the next step answer alike.
  induction steps generalizing engine with
  | nil => exact ⟨rfl, current⟩
  | cons step rest ih =>
    obtain ⟨same, next⟩ := current.perform step
    obtain ⟨answers, last⟩ := ih next
    simp only [Engine.run, Direct.run, ← same, ← answers, List.map_cons]
    exact ⟨trivial, last⟩

end Engine

namespace Registry

theorem defaultRule_add_defaultLanguage (registry : Registry) (rule : Rule) :
    (registry.add registry.defaultLanguage rule).defaultRule = rule := by
  have found := rule?_defaultLanguage (registry.add registry.defaultLanguage rule)
  rw [rule?_add] at found
  exact (Option.some.inj ((if_pos rfl).symm.trans found)).symm

theorem ruleOrDefault_add_defaultLanguage {registry : Registry} {language : String}
    (unregistered : registry.rule? language = none) (rule : Rule) :
    (registry.add registry.defaultLanguage rule).ruleOrDefault language = rule := by
  have other : registry.defaultLanguage ≠ language := by
    rintro rfl
    simp [rule?_defaultLanguage] at unregistered
  simp [ruleOrDefault, rule?_add, other, unregistered, defaultRule_add_defaultLanguage]

end Registry

namespace Engine

/-- From an engine as it is built, every run keeps the cache current and answers as a
run without a cache, also when the rule of the default language is replaced behind
a language that fell back on it. -/
theorem run_withCache (direct : Direct) (steps : List Step) :
    let result := run direct.withCache steps
    result.2.CacheCurrent ∧
      result.1.map Noted.value = (direct.run steps).1 ∧
      ∀ identity rule, result.2.registry.rule? identity.language = none →
        (run result.2 [.ruleFor identity,
            .addRule result.2.registry.defaultLanguage (.rule rule), .ruleFor identity]).1.map
          Noted.value = [.rule result.2.registry.defaultRule, .nothing, .rule rule] := by
  have built : direct.withCache.CacheCurrent := cacheCurrent_of_empty rfl
  obtain ⟨same, current⟩ := built.run steps
  refine ⟨current, congrArg Prod.fst same, ?_⟩
  intro identity rule unregistered
  have answers := congrArg Prod.fst (current.run [.ruleFor identity,
    .addRule (run direct.withCache steps).2.registry.defaultLanguage (.rule rule),
    .ruleFor identity]).1
  -- Without a cache the fallback is looked up anew, before the replacement and behind it.
  have replaced := Registry.ruleOrDefault_add_defaultLanguage unregistered rule
  have before : (run direct.withCache steps).2.registry.ruleOrDefault identity.language =
      (run direct.withCache steps).2.registry.defaultRule := by
    simp [Registry.ruleOrDefault, unregistered]
  refine answers.trans ?_
  simp [Direct.run, Direct.perform, Direct.ruleFor, withoutCache, RuleSource.resolve, before,
    replaced]

end Engine

end Phrasebook
