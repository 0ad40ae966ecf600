import Phrasebook.Proofs.Engine.Actions

/-! How often a language without a rule is reported.

A request for the rule of a language is answered from the cache once it has been
answered from the registry. The cache is given up whenever the registry is handed
out for changes. Between two such steps only the first request for a language can
find it unknown, so only that request reports it.
-/

set_option autoImplicit false

namespace Phrasebook

theorem Operator.pluralizerMiss_notMem_missing (operator : Operator) (context : Context) :
    Event.pluralizerMiss ∉ operator.missing context := by
  intro member
  rcases List.mem_append.1 member with inCount | inGender
  · split at inCount <;> simp at inCount
  · split at inGender <;> simp at inGender

namespace Engine

def Step.changesRegistry : Step → Bool
  | .takeRegistry | .addRule _ _ | .addCardinal _ => true
  | _ => false

def Step.request? (engine : Engine) : Step → Option Identity
  | .translate identity parameters =>
    if engine.needsRule identity parameters then some identity else none
  | .ruleFor identity => some identity
  | _ => none

def next (engine : Engine) (step : Step) : Engine := ((perform step).run engine).value.2

def requests (language : String) (engine : Engine) : List Step → List (Option Identity)
  | [] => []
  | step :: rest =>
    (step.request? engine).filter (·.language = language) ::
      requests language (engine.next step) rest

def misses (language : String) (notices : List Notice) : List Identity :=
  (auditEntries notices).filterMap fun entry =>
    if entry.2 = .pluralizerMiss ∧ entry.1.language = language then some entry.1 else none

def firstOnly : List (Option Identity) → List (List Identity)
  | [] => []
  | none :: rest => [] :: firstOnly rest
  | some identity :: rest => [identity] :: List.replicate rest.length []

variable {engine : Engine} {step : Step} {identity : Identity} {language : String}

@[simp] theorem misses_append (language : String) (first rest : List Notice) :
    misses language (first ++ rest) = misses language first ++ misses language rest := by
  simp [misses]

theorem misses_cons_audit {event : Event} (other : event ≠ .pluralizerMiss)
    (notices : List Notice) :
    misses language (.audit identity event :: notices) = misses language notices := by
  simp [misses, other]

theorem misses_map_audit {events : List Event} (other : Event.pluralizerMiss ∉ events) :
    misses language (events.map (.audit identity)) = [] := by
  rw [misses, auditEntries_map_audit, List.filterMap_eq_nil_iff]
  intro entry member
  obtain ⟨event, inside, rfl⟩ := List.mem_map.1 member
  refine if_neg ?_
  rintro ⟨rfl, -⟩
  exact other inside

theorem misses_run_ruleFor (engine : Engine) (identity : Identity) (language : String) :
    misses language ((ruleFor identity).run engine).notices =
      if engine.knows language then []
      else ((some identity).filter (·.language = language)).toList := by
  rw [misses, auditEntries_run_ruleFor]
  by_cases same : identity.language = language
  · subst same
    cases engine.knows identity.language <;> simp [Option.filter_some]
  · cases engine.knows identity.language <;> simp [Option.filter_some, same]

theorem lookUpEvent_ne_pluralizerMiss (engine : Engine) (identity : Identity) :
    engine.lookUpEvent identity ≠ .pluralizerMiss := by
  unfold lookUpEvent
  split
  · split <;> exact nofun
  · exact nofun

theorem misses_run_translate_of_not_needsRule {parameters : Parameters}
    (unneeded : engine.needsRule identity parameters = false) :
    misses language ((translate identity parameters).run engine).notices = [] := by
  rw [translate,
    run_translateWith_of_not_needsRule _ (engine.currentRule identity.language) unneeded,
    misses_cons_audit (engine.lookUpEvent_ne_pluralizerMiss identity)]
  rfl

theorem misses_run_translate_of_needsRule {parameters : Parameters}
    (needed : engine.needsRule identity parameters = true) :
    misses language ((translate identity parameters).run engine).notices =
      misses language ((ruleFor identity).run engine).notices := by
  obtain ⟨text, hit, given, operators⟩ := needsRule_iff.1 needed
  rw [translate, run_translateWith_of_needsRule _ hit given operators]
  simp only [misses_cons_audit (show Event.keyUsed ≠ .pluralizerMiss by decide), misses_append]
  rw [misses_map_audit, List.append_nil]
  rw [Template.events_render, List.mem_flatMap]
  rintro ⟨operator, -, member⟩
  exact operator.pluralizerMiss_notMem_missing _ member

theorem knows_remember (engine : Engine) (identity : Identity) (language : String) :
    (engine.remember identity.language).knows language =
      (engine.knows language || ((some identity).filter (·.language = language)).isSome) := by
  unfold remember
  by_cases same : identity.language = language
  · subst same
    cases cached : engine.cache[identity.language]? <;> simp [knows, cached, Option.filter_some]
  · cases cached : engine.cache[identity.language]? <;>
      simp [knows, Std.ExtTreeMap.getElem?_insert, Option.filter_some, same]

theorem not_needsRule_empty (engine : Engine) (identity : Identity) :
    engine.needsRule identity ∅ = false := by
  simp [needsRule]

theorem notices_perform_translate (engine : Engine) (identity : Identity)
    (parameters : Parameters) :
    ((perform (.translate identity parameters)).run engine).notices =
      ((translate identity parameters).run engine).notices := by
  simp [perform]

theorem next_translate (engine : Engine) (identity : Identity) (parameters : Parameters) :
    engine.next (.translate identity parameters) =
      if engine.needsRule identity parameters then engine.remember identity.language
      else engine := by
  simp [next, perform, value_run_translate]

theorem notices_perform_ruleFor (engine : Engine) (identity : Identity) :
    ((perform (.ruleFor identity)).run engine).notices =
      ((ruleFor identity).run engine).notices := by
  simp [perform]

theorem next_ruleFor (engine : Engine) (identity : Identity) :
    engine.next (.ruleFor identity) = engine.remember identity.language := by
  simp [next, perform, value_run_ruleFor]

/-- A step that leaves the registry alone reports a language that is not known if it
requests its rule, and makes it known. -/
theorem misses_perform (quiet : step.changesRegistry = false) (language : String) :
    let asked := (step.request? engine).filter (·.language = language)
    misses language ((perform step).run engine).notices =
        (if engine.knows language then [] else asked.toList) ∧
      (engine.next step).knows language = (engine.knows language || asked.isSome) := by
  -- Most steps request no rule. They report nothing and leave what is known.
  have silent : (if engine.knows language then [] else (none : Option Identity).toList) = [] := by
    simp
  have same :
      engine.knows language = (engine.knows language || (none : Option Identity).isSome) := by
    simp
  cases step with
  | set entry => exact ⟨silent.symm, same⟩
  | setAll entries => exact ⟨silent.symm, same⟩
  | remove identity => exact ⟨silent.symm, same⟩
  | removeAll identities => exact ⟨silent.symm, same⟩
  | get identity => exact ⟨silent.symm, same⟩
  | size => exact ⟨silent.symm, same⟩
  | contains identity => exact ⟨silent.symm, same⟩
  | translate identity parameters =>
    rw [notices_perform_translate, next_translate, Step.request?]
    cases needed : engine.needsRule identity parameters with
    | false => exact ⟨(misses_run_translate_of_not_needsRule needed).trans silent.symm, same⟩
    | true =>
      rw [misses_run_translate_of_needsRule needed, misses_run_ruleFor]
      exact ⟨rfl, engine.knows_remember identity language⟩
  | translatePlain identity =>
    have unneeded := engine.not_needsRule_empty identity
    have plain : (perform (.translatePlain identity)).run engine =
        (perform (.translate identity ∅)).run engine := rfl
    rw [next, plain, ← next, notices_perform_translate, next_translate, unneeded]
    exact ⟨(misses_run_translate_of_not_needsRule unneeded).trans silent.symm, same⟩
  | ruleFor identity =>
    rw [notices_perform_ruleFor, next_ruleFor, misses_run_ruleFor]
    exact ⟨rfl, engine.knows_remember identity language⟩
  | languages => exact ⟨silent.symm, same⟩
  | defaultLanguage => exact ⟨silent.symm, same⟩
  | takeRegistry => exact nomatch quiet
  | addRule language source => exact nomatch quiet
  | addCardinal language => exact nomatch quiet

theorem length_requests (language : String) (engine : Engine) (steps : List Step) :
    (requests language engine steps).length = steps.length := by
  induction steps generalizing engine with
  | nil => rfl
  | cons step rest ih => simp [requests, ih]

/-- A language that is known is not reported, and another by the first request only. -/
theorem misses_run {stretch : List Step} (quiet : ∀ step ∈ stretch, step.changesRegistry = false)
    (language : String) :
    (run engine stretch).1.map (fun noted => misses language noted.notices) =
      if engine.knows language then List.replicate stretch.length []
      else firstOnly (requests language engine stretch) := by
  induction stretch generalizing engine with
  | nil => simp [run, requests, firstOnly]
  | cons step rest ih =>
    obtain ⟨quietStep, quietRest⟩ := List.forall_mem_cons.1 quiet
    obtain ⟨reported, known⟩ := @misses_perform engine step quietStep language
    have later := @ih (engine.next step) quietRest
    have answers : (run engine (step :: rest)).1.map (fun noted => misses language noted.notices) =
        misses language ((perform step).run engine).notices ::
          (run (engine.next step) rest).1.map fun noted => misses language noted.notices := rfl
    rw [answers, later, reported, known]
    -- A language that is requested here is known in the rest, and not reported there.
    cases engine.knows language with
    | true => simp [List.replicate_succ]
    | false =>
      rw [requests]
      cases (step.request? engine).filter (·.language = language) <;>
        simp [firstOnly, length_requests]

theorem flatten_firstOnly (requested : List (Option Identity)) :
    (firstOnly requested).flatten = (requested.findSome? id).toList := by
  induction requested with
  | nil => rfl
  | cons first rest ih =>
    cases first with
    | none => simpa [firstOnly, List.findSome?_cons] using ih
    | some identity => simp [firstOnly]

theorem run_append (engine : Engine) (first rest : List Step) :
    run engine (first ++ rest) =
      ((run engine first).1 ++ (run (run engine first).2 rest).1,
        (run (run engine first).2 rest).2) := by
  induction first generalizing engine with
  | nil => rfl
  | cons step others ih => simp [run, ih]

theorem length_run (engine : Engine) (steps : List Step) :
    (run engine steps).1.length = steps.length := by
  induction steps generalizing engine with
  | nil => rfl
  | cons step rest ih => simp [run, ih]

theorem cache_next (changes : step.changesRegistry = true) : (engine.next step).cache = ∅ := by
  cases step with
  | takeRegistry => rfl
  | addRule language source =>
    cases resolved : source.resolve with
    | ok rule => simp [next, perform, value_run_addSource_of_ok _ _ resolved]
    | error cause => simp [next, perform, value_run_addSource_of_error _ _ resolved]
  | addCardinal language =>
    cases result : engine.registry.addCardinal language with
    | ok added => simp [next, perform, value_run_addCardinal_of_ok result]
    | error cause => simp [next, perform, value_run_addCardinal_of_error result]
  | _ => exact nomatch changes

/-- A part of a run without changes of the registry, behind such a change or at the start. -/
structure IsStretch (before stretch : List Step) : Prop where
  opens : before = [] ∨ ∃ earlier change, before = earlier ++ [change] ∧
    change.changesRegistry = true
  quiet : ∀ step ∈ stretch, step.changesRegistry = false

theorem IsStretch.cache_run {before stretch : List Step} (part : IsStretch before stretch)
    (built : engine.cache = ∅) : (run engine before).2.cache = ∅ := by
  rcases part.opens with rfl | ⟨earlier, change, rfl, changes⟩
  · exact built
  · rw [run_append]
    exact cache_next changes

@[simp] theorem registry_remember (engine : Engine) (language : String) :
    (engine.remember language).registry = engine.registry := by
  unfold remember
  split <;> rfl

theorem registry_next (quiet : step.changesRegistry = false) :
    (engine.next step).registry = engine.registry := by
  cases step with
  | translate identity parameters =>
    rw [next_translate]
    split
    · exact engine.registry_remember identity.language
    · rfl
  | translatePlain identity =>
    have plain : engine.next (.translatePlain identity) = engine.next (.translate identity ∅) := rfl
    rw [plain, next_translate, not_needsRule_empty]
    rfl
  | ruleFor identity =>
    rw [next_ruleFor, registry_remember]
  | takeRegistry => exact nomatch quiet
  | addRule language source => exact nomatch quiet
  | addCardinal language => exact nomatch quiet
  | _ => rfl

theorem registry_run {stretch : List Step}
    (quiet : ∀ step ∈ stretch, step.changesRegistry = false) :
    (run engine stretch).2.registry = engine.registry := by
  induction stretch generalizing engine with
  | nil => rfl
  | cons step rest ih =>
    obtain ⟨quietStep, quietRest⟩ := List.forall_mem_cons.1 quiet
    exact (ih quietRest).trans (registry_next quietStep)

/-- A stretch leaves the registry alone. A language that is registered is not reported
in it, and another is reported once if its rule is requested: by the first request,
with the identity of that request. A template without an operator causes no report. -/
theorem misses_stretch {before stretch : List Step} (built : engine.cache = ∅)
    (part : IsStretch before stretch) (after : List Step) :
    let start := (run engine before).2
    let answers := ((run engine (before ++ stretch ++ after)).1.drop before.length).take stretch.length
    (run start stretch).2.registry = start.registry ∧
      (∀ language,
        let reports := answers.map fun noted => misses language noted.notices
        if language ∈ start.registry.rules then reports = List.replicate stretch.length []
        else reports = firstOnly (requests language start stretch) ∧
          reports.flatten = ((requests language start stretch).findSome? id).toList) ∧
      ∀ (engine : Engine) (identity : Identity) (parameters : Parameters) (text language : String),
        engine.store.get? identity = some text → (Template.parse text).hasOperators = false →
          misses language ((translate identity parameters).run engine).notices = [] := by
  intro start answers
  have inStretch : answers = (run start stretch).1 := by
    simp only [answers, run_append, List.append_assoc]
    rw [← length_run engine before, List.drop_left, ← length_run start stretch, List.take_left]
  have fresh : start.cache = ∅ := part.cache_run built
  refine ⟨registry_run part.quiet, ?_, ?_⟩
  · intro language reports
    have told : reports = _ := inStretch ▸ misses_run part.quiet language
    -- The cache is still empty, so what is known is what is registered.
    have known : start.knows language = true ↔ language ∈ start.registry.rules := by
      simp [knows, fresh, Registry.rule?]
    simp only [known] at told
    split
    · next registered => rw [told, if_pos registered]
    · next unregistered =>
      rw [told, if_neg unregistered]
      exact ⟨rfl, flatten_firstOnly _⟩
  · intro engine identity parameters text language stored noOperators
    apply misses_run_translate_of_not_needsRule
    rw [needsRule, hit?]
    split
    · simp [stored, noOperators]
    · rfl

def files : Identity := ⟨"files", "de", default⟩

def filesEngine : Engine := { store := .ofEntries [⟨files, "%\x7bn -> Datei,Dateien\x7d"⟩] }

def two : Parameters := (∅ : Parameters).insert "n" (.integer 2)

/-- The second of four lookups is the first that requests a rule. -/
theorem files_reported_once :
    filesEngine.cache = ∅ ∧
      IsStretch [.translate files two, .takeRegistry]
        [.translatePlain files, .translate files two, .ruleFor files, .translate files two] ∧
      (((run filesEngine ([.translate files two, .takeRegistry] ++
            [.translatePlain files, .translate files two, .ruleFor files, .translate files two] ++
            [.addCardinal "de"])).1.drop 2).take 4).map
        (fun noted => misses "de" noted.notices) = [[], [files], [], []] := by
  have part : IsStretch [.translate files two, .takeRegistry]
      [.translatePlain files, .translate files two, .ruleFor files, .translate files two] :=
    ⟨.inr ⟨[.translate files two], .takeRegistry, rfl, rfl⟩, by decide⟩
  have reports := (@misses_stretch filesEngine _ _ rfl part [.addCardinal "de"]).2.1 "de"
  refine ⟨rfl, part, ?_⟩
  rw [if_neg (by decide +kernel)] at reports
  refine reports.1.trans ?_
  decide +kernel

end Engine

end Phrasebook
