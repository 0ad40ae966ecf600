import Phrasebook.Evaluation

/-! Evaluating a template is rendering it under the rule that it asks for.

A template with an operator asks once, before anything else. A template without
one does not ask, and its rendering is the same under every rule.
-/

set_option autoImplicit false

namespace Phrasebook

def Segment.render (context : Context) (rule : Rule) : Segment → Rendering
  | .literal text => ⟨text, []⟩
  | .placeholder name => ⟨fillPlaceholder context.parameters name, []⟩
  | .operator choice => ⟨choice.resolve rule context.parameters, choice.missing context⟩

namespace Template

def renderSegments (context : Context) (rule : Rule) : List Segment → Rendering
  | [] => .empty
  | segment :: rest =>
    let first := segment.render context rule
    let others := renderSegments context rule rest
    ⟨first.text ++ others.text, first.events ++ others.events⟩

def render (template : Template) (context : Context) (rule : Rule) : Rendering :=
  renderSegments context rule template.segments

theorem hasOperators_cons (segment : Segment) (rest : List Segment) :
    hasOperators ⟨segment :: rest⟩ = (segment.operator?.isSome || hasOperators ⟨rest⟩) := by
  cases segment <;> simp [hasOperators, operators, List.filterMap_cons, Segment.operator?]

theorem isPlain_eq_false_of_hasOperators {template : Template}
    (operators : template.hasOperators = true) : template.isPlain = false := by
  obtain ⟨segments⟩ := template
  induction segments with
  | nil => simp [hasOperators, Template.operators] at operators
  | cons segment rest ih =>
    rw [hasOperators_cons] at operators
    cases segment with
    | literal text => exact ih operators
    | placeholder name => simp [isPlain, Segment.isLiteral]
    | operator operator => simp [isPlain, Segment.isLiteral]

theorem events_render (template : Template) (context : Context) (rule : Rule) :
    (template.render context rule).events =
      template.operators.flatMap (·.missing context) := by
  obtain ⟨segments⟩ := template
  simp only [render, operators]
  induction segments with
  | nil => rfl
  | cons segment rest ih =>
    cases segment <;> simp [renderSegments, List.filterMap_cons, Segment.render, Segment.operator?, ih]

theorem events_render_of_not_hasOperators {template : Template} (context : Context) (rule : Rule)
    (plain : template.hasOperators = false) : (template.render context rule).events = [] := by
  have none : template.operators = [] := by simpa [hasOperators] using plain
  rw [events_render, none, List.flatMap_nil]

section

variable {m : Type → Type} [Monad m] [LawfulMonad m]

theorem evaluateSegments_known (context : Context) (request : m Rule) (rule : Rule)
    (segments : List Segment) :
    evaluateSegments context request (some rule) segments =
      pure (renderSegments context rule segments) := by
  induction segments with
  | nil => rfl
  | cons segment rest ih =>
    cases segment <;>
      simp [evaluateSegments, renderSegments, Segment.render, Rendering.after, ih]

/-- Evaluation is rendering under one rule: the requested one if there is an operator,
and any rule otherwise. -/
theorem evaluate_eq (template : Template) (context : Context) (request : m Rule) (rule : Rule) :
    template.evaluate context request = do
      let chosen ← if template.hasOperators then request else pure rule
      return template.render context chosen := by
  obtain ⟨segments⟩ := template
  simp only [evaluate, render]
  induction segments with
  | nil => simp [hasOperators, operators, evaluateSegments, renderSegments]
  | cons segment rest ih =>
    rw [hasOperators_cons]
    cases segment with
    | literal text =>
      rw [evaluateSegments, ih]
      cases hasOperators ⟨rest⟩ <;>
        simp [renderSegments, Segment.render, Rendering.after, Segment.operator?]
    | placeholder name =>
      rw [evaluateSegments, ih]
      cases hasOperators ⟨rest⟩ <;>
        simp [renderSegments, Segment.render, Rendering.after, Segment.operator?]
    | operator choice =>
      -- From the first operator on the rule is known, and the rest requests nothing.
      simp [evaluateSegments, evaluateSegments_known, renderSegments, Segment.render,
        Segment.operator?]

theorem evaluate_of_hasOperators {template : Template} (context : Context) (request : m Rule)
    (operators : template.hasOperators = true) :
    template.evaluate context request = do
      let rule ← request
      return template.render context rule := by
  rw [evaluate_eq template context request .english, if_pos operators]

theorem evaluate_of_not_hasOperators {template : Template} (context : Context)
    (request : m Rule) (rule : Rule) (plain : template.hasOperators = false) :
    template.evaluate context request = pure (template.render context rule) := by
  rw [evaluate_eq template context request rule, plain, if_neg Bool.false_ne_true, pure_bind]

end

/-- With a rule at hand, evaluation is rendering. -/
theorem run_evaluate_pure (template : Template) (context : Context) (rule : Rule) :
    Id.run (template.evaluate context (pure rule)) = template.render context rule := by
  rw [evaluate_eq template context (pure rule) rule, ite_self]
  rfl

end Template

end Phrasebook
