import Phrasebook.Audit
import Phrasebook.Plural.Rule
import Phrasebook.Template.Basic
import Phrasebook.Value

/-! Evaluating templates.

A placeholder becomes the text of its parameter, or stays as written if there is
none. An operator picks a slot by the plural rule and a variant of it by
position, and falls back to the first of them at each of the two levels.
-/

set_option autoImplicit false

namespace Phrasebook

structure Context where
  parameters : Parameters
  reportsMissingGender : Bool := true

/-- The choice at a position, or the first one if there is no such position. -/
def pick (choices : List String) (position : Option Nat) : String :=
  (position.bind (choices[·]?)).getD (choices.headD "")

namespace Operator

def slot? (operator : Operator) (rule : Rule) (parameters : Parameters) : Option Nat :=
  operator.count.bind fun name => parameters[name]?.bind fun value => rule.slot? value.count

def variant? (operator : Operator) (parameters : Parameters) : Option Nat :=
  operator.gender.bind fun name => parameters[name]?.bind Value.position?

def resolve (operator : Operator) (rule : Rule) (parameters : Parameters) : String :=
  let slot := pick operator.slots (operator.slot? rule parameters)
  -- Where bars separate the slots there are no variants in a slot.
  if operator.barsAreSlots then slot
  else pick (Text.splitString '|' slot) (operator.variant? parameters)

def missing (operator : Operator) (context : Context) : List Event :=
  let absent (name : Option String) : Bool := name.any fun name => !context.parameters.contains name
  (if absent operator.count then [.keyMiss] else []) ++
    if absent operator.gender && context.reportsMissingGender then [.keywordMiss] else []

end Operator

/-- The text of a template with the events of its operators. -/
structure Rendering where
  text : String
  events : List Event
  deriving DecidableEq, Repr

namespace Rendering

def empty : Rendering := ⟨"", []⟩

def after (text : String) (rendering : Rendering) : Rendering :=
  ⟨text ++ rendering.text, rendering.events⟩

end Rendering

def placeholderText (name : String) : String :=
  String.ofList ('%' :: '{' :: name.toList ++ ['}'])

def fillPlaceholder (parameters : Parameters) (name : String) : String :=
  match parameters[name]? with
  | some value => value.display
  | none => placeholderText name

namespace Template

variable {m : Type → Type} [Monad m]

/-- Evaluate segments from left to right. The rule is requested for the first
operator, unless it is known already, and kept for the others. -/
def evaluateSegments (context : Context) (request : m Rule) :
    Option Rule → List Segment → m Rendering
  | _, [] => pure .empty
  | known, .literal text :: rest => do
    return (← evaluateSegments context request known rest).after text
  | known, .placeholder name :: rest => do
    return (← evaluateSegments context request known rest).after
      (fillPlaceholder context.parameters name)
  | known, .operator operator :: rest => do
    let rule ← match known with
      | some rule => pure rule
      | none => request
    let rendering ← evaluateSegments context request (some rule) rest
    return ⟨operator.resolve rule context.parameters ++ rendering.text,
      operator.missing context ++ rendering.events⟩

def evaluate (template : Template) (context : Context) (request : m Rule) : m Rendering :=
  evaluateSegments context request none template.segments

end Template

end Phrasebook
