import Phrasebook.Engine.Step
import Phrasebook.Proofs.Template.Rendering

/-! What the actions of an engine give, change and note.

A request for a rule answers from the cache, or else from the registry and
remembers the answer. A translation ends in one of five ways, and only the last
of them requests a rule.
-/

set_option autoImplicit false

namespace Phrasebook

def Registry.ruleOrDefault (registry : Registry) (language : String) : Rule :=
  (registry.rule? language).getD registry.defaultRule

namespace Engine

def currentRule (engine : Engine) (language : String) : Rule :=
  engine.cache[language]?.getD (engine.registry.ruleOrDefault language)

def remember (engine : Engine) (language : String) : Engine :=
  match engine.cache[language]? with
  | some _ => engine
  | none =>
    { engine with cache := engine.cache.insert language (engine.registry.ruleOrDefault language) }

/-- Whether a language has a rule of its own, in the cache or in the registry. -/
def knows (engine : Engine) (language : String) : Bool :=
  engine.cache[language]?.isSome || (engine.registry.rule? language).isSome

def auditEntries (notices : List Notice) : List AuditEntry := Sink.recording.events notices

@[simp] theorem auditEntries_append (first rest : List Notice) :
    auditEntries (first ++ rest) = auditEntries first ++ auditEntries rest := by
  simp [auditEntries, Sink.events]

@[simp] theorem auditEntries_cons_audit (identity : Identity) (event : Event)
    (notices : List Notice) :
    auditEntries (.audit identity event :: notices) = (identity, event) :: auditEntries notices :=
  rfl

@[simp] theorem auditEntries_cons_log (entry : LogRecord) (notices : List Notice) :
    auditEntries (.log entry :: notices) = auditEntries notices := rfl

@[simp] theorem auditEntries_nil : auditEntries [] = [] := rfl

@[simp] theorem auditEntries_map_audit (identity : Identity) (events : List Event) :
    auditEntries (events.map (.audit identity)) = events.map (identity, ·) := by
  induction events with
  | nil => rfl
  | cons event events ih => simp [ih]

@[simp] theorem run_report (engine : Engine) (identity : Identity) (event : Event) :
    (report identity event).run engine = ⟨((), engine), [.audit identity event]⟩ := rfl

@[simp] theorem run_log (engine : Engine) (level : Level) (message : String)
    (fields : List (String × String)) :
    (log level message fields).run engine = ⟨((), engine), [.log ⟨level, message, fields⟩]⟩ := rfl

@[simp] theorem run_reports (engine : Engine) (identity : Identity) (events : List Event) :
    (forM events (report identity)).run engine =
      ⟨((), engine), events.map (.audit identity)⟩ := by
  induction events with
  | nil => rfl
  | cons event events ih =>
    rw [List.forM_cons, StateT.run_bind, run_report]
    ext : 1 <;> simp [ih]

theorem value_run_lookUpRule (engine : Engine) (identity : Identity) :
    ((lookUpRule identity).run engine).value =
      (engine.registry.ruleOrDefault identity.language, engine) := by
  unfold lookUpRule
  cases found : engine.registry.rule? identity.language <;>
    simp [Registry.ruleOrDefault, found]

theorem auditEntries_run_lookUpRule (engine : Engine) (identity : Identity) :
    auditEntries ((lookUpRule identity).run engine).notices =
      if (engine.registry.rule? identity.language).isSome then []
      else [(identity, .pluralizerMiss)] := by
  unfold lookUpRule
  cases found : engine.registry.rule? identity.language <;> simp [found]

theorem value_run_ruleFor (engine : Engine) (identity : Identity) :
    ((ruleFor identity).run engine).value =
      (engine.currentRule identity.language, engine.remember identity.language) := by
  unfold ruleFor
  cases cached : engine.cache[identity.language]? with
  | none => simp [value_run_lookUpRule, currentRule, remember, cached]
  | some rule => simp [currentRule, remember, cached]

theorem auditEntries_run_ruleFor (engine : Engine) (identity : Identity) :
    auditEntries ((ruleFor identity).run engine).notices =
      if engine.knows identity.language then [] else [(identity, .pluralizerMiss)] := by
  unfold ruleFor
  cases cached : engine.cache[identity.language]? with
  | none => simp [auditEntries_run_lookUpRule, knows, cached]
  | some rule => simp [knows, cached]

def lookUpEvent (engine : Engine) (identity : Identity) : Event :=
  if isValidKey identity.key then
    match engine.store.get? identity with
    | none => .keyMiss
    | some _ => .keyUsed
  else .keyInvalid

/-- The template that a translation goes by: one that is stored under a valid key. -/
def hit? (engine : Engine) (identity : Identity) : Option String :=
  if isValidKey identity.key then engine.store.get? identity else none

/-- Whether a translation needs a rule. -/
def needsRule (engine : Engine) (identity : Identity) (parameters : Parameters) : Bool :=
  (engine.hit? identity).any fun text =>
    !parameters.isEmpty && (Template.parse text).hasOperators

def translation (engine : Engine) (rule : Rule) (identity : Identity)
    (parameters : Parameters) : String :=
  if isValidKey identity.key then
    match engine.store.get? identity with
    | none => identity.key
    | some text =>
      let template := Template.parse text
      if parameters.isEmpty || template.isPlain then text
      else (template.render ⟨parameters, engine.reportsMissingGender⟩ rule).text
  else ""

theorem hit?_eq_some_iff {engine : Engine} {identity : Identity} {text : String} :
    engine.hit? identity = some text ↔
      isValidKey identity.key = true ∧ engine.store.get? identity = some text := by
  simp [hit?]

theorem needsRule_iff {engine : Engine} {identity : Identity} {parameters : Parameters} :
    engine.needsRule identity parameters = true ↔
      ∃ text, engine.hit? identity = some text ∧ parameters.isEmpty = false ∧
        (Template.parse text).hasOperators = true := by
  simp [needsRule, Option.any_eq_true]

/-- A translation that needs a rule requests it once, right after the template was found. -/
theorem run_translateWith_of_needsRule (request : Action Rule) {engine : Engine}
    {identity : Identity} {parameters : Parameters} {text : String}
    (hit : engine.hit? identity = some text) (given : parameters.isEmpty = false)
    (operators : (Template.parse text).hasOperators = true) :
    (translateWith request identity parameters).run engine =
      let noted := request.run engine
      let rendering := (Template.parse text).render
        ⟨parameters, engine.reportsMissingGender⟩ noted.value.1
      ⟨(rendering.text, noted.value.2),
        .audit identity .keyUsed :: (noted.notices ++ rendering.events.map (.audit identity))⟩ := by
  obtain ⟨valid, found⟩ := hit?_eq_some_iff.1 hit
  have filled : (Template.parse text).isPlain = false :=
    Template.isPlain_eq_false_of_hasOperators operators
  unfold translateWith
  ext : 1 <;>
    simp [valid, found, given, filled, Template.evaluate_of_hasOperators _ _ operators]

theorem run_translateWith_of_not_needsRule (request : Action Rule) (rule : Rule)
    {engine : Engine} {identity : Identity} {parameters : Parameters}
    (unneeded : engine.needsRule identity parameters = false) :
    (translateWith request identity parameters).run engine =
      ⟨(engine.translation rule identity parameters, engine),
        [.audit identity (engine.lookUpEvent identity)]⟩ := by
  unfold translateWith
  -- The key is not valid, there is no template, nothing is given, all is literal, or
  -- the template has placeholders but no operator.
  cases valid : isValidKey identity.key with
  | false => ext : 1 <;> simp [translation, lookUpEvent, valid]
  | true =>
    cases stored : engine.store.get? identity with
    | none => ext : 1 <;> simp [translation, lookUpEvent, valid, stored]
    | some text =>
      by_cases given : parameters.isEmpty = true
      · ext : 1 <;> simp [translation, lookUpEvent, valid, stored, given]
      by_cases plain : (Template.parse text).isPlain = true
      · ext : 1 <;> simp [translation, lookUpEvent, valid, stored, given, plain]
      have noOperators : (Template.parse text).hasOperators = false := by
        simpa [needsRule, hit?, valid, stored, given] using unneeded
      have noEvents := Template.events_render_of_not_hasOperators
        ⟨parameters, engine.reportsMissingGender⟩ rule noOperators
      ext : 1 <;>
        simp [translation, lookUpEvent, valid, stored, given, plain, noEvents,
          Template.evaluate_of_not_hasOperators _ _ rule noOperators]

theorem lookUpEvent_eq_keyUsed_iff {engine : Engine} {identity : Identity} :
    engine.lookUpEvent identity = .keyUsed ↔ (engine.hit? identity).isSome = true := by
  unfold lookUpEvent hit?
  split
  · cases engine.store.get? identity <;> simp
  · simp

/-- A translation tells that a key is used just when it goes by a template. -/
theorem keyUsed_mem_auditEntries_iff (engine : Engine) (identity : Identity)
    (parameters : Parameters) :
    (identity, .keyUsed) ∈ auditEntries ((translate identity parameters).run engine).notices ↔
      (engine.hit? identity).isSome = true := by
  cases needed : engine.needsRule identity parameters with
  | false =>
    rw [translate, run_translateWith_of_not_needsRule _ (engine.currentRule identity.language)
      needed, ← lookUpEvent_eq_keyUsed_iff]
    simp [eq_comm]
  | true =>
    obtain ⟨text, hit, given, operators⟩ := needsRule_iff.1 needed
    rw [translate, run_translateWith_of_needsRule _ hit given operators, hit]
    simp

/-- A translation gives the text under the rule in force and remembers that rule if it needs one. -/
theorem value_run_translate (engine : Engine) (identity : Identity) (parameters : Parameters) :
    ((translate identity parameters).run engine).value =
      (engine.translation (engine.currentRule identity.language) identity parameters,
        if engine.needsRule identity parameters then engine.remember identity.language
        else engine) := by
  cases needed : engine.needsRule identity parameters with
  | false =>
    rw [translate, run_translateWith_of_not_needsRule _ (engine.currentRule identity.language) needed]
    simp
  | true =>
    obtain ⟨text, hit, given, operators⟩ := needsRule_iff.1 needed
    obtain ⟨valid, found⟩ := hit?_eq_some_iff.1 hit
    rw [translate, run_translateWith_of_needsRule _ hit given operators]
    simp [value_run_ruleFor, translation, valid, found, given,
      Template.isPlain_eq_false_of_hasOperators operators]

@[simp] theorem run_takeRegistry (engine : Engine) :
    takeRegistry.run engine = ⟨(engine.registry, { engine with cache := ∅ }), []⟩ := rfl

@[simp] theorem run_setRegistry (engine : Engine) (registry : Registry) :
    (setRegistry registry).run engine = ⟨((), { engine with registry := registry }), []⟩ := rfl

@[simp] theorem run_discard_takeRegistry (engine : Engine) :
    (discard takeRegistry : Action Unit).run engine = ⟨((), { engine with cache := ∅ }), []⟩ := rfl

-- The registry is handed out before the rule is known, so the cache is empty either way.
theorem value_run_addSource_of_ok (engine : Engine) (language : String) {source : RuleSource}
    {rule : Rule} (resolved : source.resolve = .ok rule) :
    ((addSource language source).run engine).value =
      (.nothing, { engine with registry := engine.registry.add language rule, cache := ∅ }) := by
  simp [addSource, addRule, resolved]

theorem value_run_addSource_of_error (engine : Engine) (language : String) {source : RuleSource}
    {cause : ConfigurationError} (resolved : source.resolve = .error cause) :
    ((addSource language source).run engine).value =
      (.error cause, { engine with cache := ∅ }) := by
  simp [addSource, resolved]

theorem value_run_addCardinal_of_ok {engine : Engine} {language : String}
    {added : Rule × Registry} (result : engine.registry.addCardinal language = .ok added) :
    ((addCardinal language).run engine).value =
      (.ok (), { engine with registry := added.2, cache := ∅ }) := by
  simp [addCardinal, result]

theorem value_run_addCardinal_of_error {engine : Engine} {language : String}
    {cause : ConfigurationError} (result : engine.registry.addCardinal language = .error cause) :
    ((addCardinal language).run engine).value = (.error cause, { engine with cache := ∅ }) := by
  simp [addCardinal, result]

end Engine

end Phrasebook
