import Phrasebook.Proofs.Template.Rendering

/-! What a template takes from its parameters.

A segment asks for the parameters that it names, and of a value it sees how the value is
shown, what it counts as and which position it selects. Parameters that agree in this under
the names of a template render it alike.
-/

set_option autoImplicit false

namespace Phrasebook

/-- What an evaluation sees of a value. -/
structure Value.View where
  shown : String
  count : Binary64
  position : Option Nat
  deriving DecidableEq

def Value.view (value : Value) : Value.View := ⟨value.display, value.count, value.position?⟩

/-- What an evaluation sees of a parameter, if it is given. -/
def Parameters.view? (parameters : Parameters) (name : String) : Option Value.View :=
  parameters[name]?.map Value.view

namespace Parameters

variable (parameters : Parameters) (name : String)

theorem contains_eq : parameters.contains name = (parameters.view? name).isSome := by
  rw [Std.ExtTreeMap.contains_eq_isSome_getElem?, view?, Option.isSome_map]

theorem bind_count {α : Type} (use : Binary64 → Option α) :
    (parameters[name]?.bind fun value => use value.count) =
      (parameters.view? name).bind fun view => use view.count := by
  rw [view?, Option.bind_map]
  rfl

theorem bind_position? :
    parameters[name]?.bind Value.position? = (parameters.view? name).bind Value.View.position := by
  rw [view?, Option.bind_map]
  rfl

theorem fillPlaceholder_eq :
    fillPlaceholder parameters name =
      ((parameters.view? name).map Value.View.shown).getD (placeholderText name) := by
  unfold fillPlaceholder view?
  cases parameters[name]? <;> rfl

end Parameters

def Operator.names (operator : Operator) : List String :=
  operator.count.toList ++ operator.gender.toList

def Segment.names : Segment → List String
  | .literal _ => []
  | .placeholder name => [name]
  | .operator choice => choice.names

def Template.names (template : Template) : List String := template.segments.flatMap Segment.names

variable {first second : Parameters}

namespace Operator

variable {operator : Operator}

theorem mem_names {name : String} :
    name ∈ operator.names ↔ operator.count = some name ∨ operator.gender = some name := by
  simp [names]

theorem slot?_congr (rule : Rule)
    (agree : ∀ name ∈ operator.names, first.view? name = second.view? name) :
    operator.slot? rule first = operator.slot? rule second := by
  apply Option.bind_congr
  intro name counted
  rw [Parameters.bind_count, Parameters.bind_count, agree name (mem_names.2 (.inl counted))]

theorem variant?_congr
    (agree : ∀ name ∈ operator.names, first.view? name = second.view? name) :
    operator.variant? first = operator.variant? second := by
  apply Option.bind_congr
  intro name gendered
  rw [Parameters.bind_position?, Parameters.bind_position?,
    agree name (mem_names.2 (.inr gendered))]

theorem resolve_congr (rule : Rule)
    (agree : ∀ name ∈ operator.names, first.view? name = second.view? name) :
    operator.resolve rule first = operator.resolve rule second := by
  unfold resolve
  rw [slot?_congr rule agree, variant?_congr agree]

theorem missing_congr (reportsMissingGender : Bool)
    (agree : ∀ name ∈ operator.names, first.view? name = second.view? name) :
    operator.missing ⟨first, reportsMissingGender⟩ =
      operator.missing ⟨second, reportsMissingGender⟩ := by
  have given (asked : Option String) (named : ∀ name ∈ asked, name ∈ operator.names) :
      (asked.any fun name => !first.contains name) =
        asked.any fun name => !second.contains name := by
    cases asked with
    | none => rfl
    | some name => simp [Parameters.contains_eq, agree name (named name rfl)]
  simp only [missing, given operator.count fun name same => mem_names.2 (.inl same),
    given operator.gender fun name same => mem_names.2 (.inr same)]

end Operator

theorem Segment.render_congr {segment : Segment} (rule : Rule) (reportsMissingGender : Bool)
    (agree : ∀ name ∈ segment.names, first.view? name = second.view? name) :
    segment.render ⟨first, reportsMissingGender⟩ rule =
      segment.render ⟨second, reportsMissingGender⟩ rule := by
  cases segment with
  | literal text => rfl
  | placeholder name =>
    simp only [Segment.render, Parameters.fillPlaceholder_eq, agree name (by simp [names])]
  | operator choice =>
    simp only [Segment.render, choice.resolve_congr rule agree,
      choice.missing_congr reportsMissingGender agree]

theorem Template.render_congr {template : Template} (rule : Rule) (reportsMissingGender : Bool)
    (agree : ∀ name ∈ template.names, first.view? name = second.view? name) :
    template.render ⟨first, reportsMissingGender⟩ rule =
      template.render ⟨second, reportsMissingGender⟩ rule := by
  obtain ⟨segments⟩ := template
  simp only [render]
  induction segments with
  | nil => rfl
  | cons segment rest ih =>
    have here := segment.render_congr rule reportsMissingGender fun name member =>
      agree name (List.mem_append_left _ member)
    have behind := ih fun name member => agree name (List.mem_append_right _ member)
    rw [renderSegments, renderSegments, here, behind]

end Phrasebook
