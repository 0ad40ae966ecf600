import Phrasebook.Proofs.Engine.Actions

/-! The events of a translation.

They are told in advance by the engine, the identity and the parameters: one
event for the look-up, then one for a language without a rule, then those of the
operators in the order of the template. A rule is requested only on behalf of an
operator that is filled in, and only once.
-/

set_option autoImplicit false

namespace Phrasebook

def Parameters.absence (parameters : Parameters) (event : Event) : Option String → List Event
  | some name => if name ∈ parameters then [] else [event]
  | none => []

/-- The events for the parameters that an operator names: its count, then its gender. -/
def Operator.absences (operator : Operator) (parameters : Parameters)
    (reportsMissingGender : Bool) : List Event :=
  parameters.absence .keyMiss operator.count ++
    if reportsMissingGender then parameters.absence .keywordMiss operator.gender else []

theorem Parameters.absence_eq (parameters : Parameters) (event : Event) (name : Option String) :
    parameters.absence event name =
      if name.any (fun name => !parameters.contains name) then [event] else [] := by
  cases name with
  | none => rfl
  | some name => by_cases given : name ∈ parameters <;> simp [absence, given]

theorem Operator.missing_eq_absences (operator : Operator) (context : Context) :
    operator.missing context =
      operator.absences context.parameters context.reportsMissingGender := by
  unfold missing absences
  rw [Parameters.absence_eq, Parameters.absence_eq]
  cases context.reportsMissingGender <;> simp

namespace Engine

def auditTrail (engine : Engine) (identity : Identity) (parameters : Parameters) : List Event :=
  if isValidKey identity.key = false then [.keyInvalid]
  else
    match engine.store.get? identity with
    | none => [.keyMiss]
    | some text =>
      let operators := (Template.parse text).operators
      .keyUsed ::
        if parameters = ∅ ∨ operators = [] then []
        else
          (if identity.language ∈ engine.cache ∨ identity.language ∈ engine.registry.rules then []
            else [.pluralizerMiss]) ++
          operators.flatMap (·.absences parameters engine.reportsMissingGender)

variable {engine : Engine} {identity : Identity} {parameters : Parameters}

theorem knows_iff {language : String} :
    engine.knows language = true ↔ language ∈ engine.cache ∨ language ∈ engine.registry.rules := by
  simp [knows, Registry.rule?]

theorem auditTrail_of_not_needsRule (unneeded : engine.needsRule identity parameters = false) :
    engine.auditTrail identity parameters = [engine.lookUpEvent identity] := by
  unfold auditTrail lookUpEvent
  cases valid : isValidKey identity.key with
  | false => rfl
  | true =>
    cases stored : engine.store.get? identity with
    | none => rfl
    | some text =>
      have idle : parameters = ∅ ∨ (Template.parse text).operators = [] := by
        by_cases given : parameters = ∅
        · exact .inl given
        · exact .inr (by simpa [needsRule, hit?, valid, stored, given,
            Template.hasOperators] using unneeded)
      simp [idle]

theorem auditTrail_of_needsRule {text : String} (hit : engine.hit? identity = some text)
    (given : parameters.isEmpty = false)
    (operators : (Template.parse text).hasOperators = true) :
    engine.auditTrail identity parameters =
      .keyUsed :: ((if engine.knows identity.language then [] else [.pluralizerMiss]) ++
        (Template.parse text).operators.flatMap
          (·.missing ⟨parameters, engine.reportsMissingGender⟩)) := by
  obtain ⟨valid, found⟩ := hit?_eq_some_iff.1 hit
  have busy : ¬(parameters = ∅ ∨ (Template.parse text).operators = []) := by
    rintro (empty | none)
    · simp [empty] at given
    · simp [Template.hasOperators, none] at operators
  simp only [auditTrail, valid, found, if_neg busy, knows_iff, Operator.missing_eq_absences]
  simp

/-- The request of a translation is made once if it needs a rule, and otherwise not
at all: whatever is noted with each request is noted so many times more. -/
theorem count_request (request : Action Rule) (notice : Notice) :
    (((translateWith (note notice *> request) identity parameters).run engine).notices).count
        notice =
      (((translateWith request identity parameters).run engine).notices).count notice +
        if engine.needsRule identity parameters then 1 else 0 := by
  cases needed : engine.needsRule identity parameters with
  | false =>
    rw [run_translateWith_of_not_needsRule _ (engine.currentRule identity.language) needed,
      run_translateWith_of_not_needsRule _ (engine.currentRule identity.language) needed]
    simp
  | true =>
    obtain ⟨text, hit, given, operators⟩ := needsRule_iff.1 needed
    have noted : (note notice *> request).run engine =
        ⟨(request.run engine).value, notice :: (request.run engine).notices⟩ := rfl
    rw [run_translateWith_of_needsRule _ hit given operators,
      run_translateWith_of_needsRule _ hit given operators]
    simp [noted, List.count_cons]
    omega

/-- The events of a translation are exactly its audit trail, each with the identity it
is about, and it requests a rule once if it needs one and never otherwise. -/
theorem auditEntries_run_translate (engine : Engine) (identity : Identity)
    (parameters : Parameters) :
    auditEntries ((translate identity parameters).run engine).notices =
        (engine.auditTrail identity parameters).map (identity, ·) ∧
      ∀ notice,
        (((translateWith (note notice *> ruleFor identity) identity parameters).run
            engine).notices).count notice =
          (((translate identity parameters).run engine).notices).count notice +
            if engine.needsRule identity parameters then 1 else 0 := by
  refine ⟨?_, fun notice => count_request (ruleFor identity) notice⟩
  cases needed : engine.needsRule identity parameters with
  | false =>
    rw [translate, run_translateWith_of_not_needsRule _ (engine.currentRule identity.language)
      needed, auditTrail_of_not_needsRule needed]
    rfl
  | true =>
    obtain ⟨text, hit, given, operators⟩ := needsRule_iff.1 needed
    rw [translate, run_translateWith_of_needsRule _ hit given operators,
      auditTrail_of_needsRule hit given operators]
    simp only [auditEntries_cons_audit, auditEntries_append, auditEntries_run_ruleFor,
      auditEntries_map_audit, Template.events_render, List.map_cons, List.map_append]
    split <;> rfl

end Engine

end Phrasebook
