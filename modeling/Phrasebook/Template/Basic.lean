import Phrasebook.Text.Split

/-! Templates: literal text, placeholders and operators.

An operator picks one of several forms by a count and a gender. Its forms are
kept as written and split on demand.
-/

set_option autoImplicit false

namespace Phrasebook

structure Operator where
  count : Option String
  gender : Option String
  forms : String
  deriving DecidableEq, Repr

inductive Segment where
  | literal (text : String)
  | placeholder (name : String)
  | operator (operator : Operator)
  deriving DecidableEq, Repr

structure Template where
  segments : List Segment
  deriving DecidableEq, Repr

namespace Operator

/-- Bars separate plural slots when only a count is named and there is no comma.
In all other operators they separate gender variants. -/
def barsAreSlots (operator : Operator) : Bool :=
  operator.count.isSome && operator.gender.isNone && !operator.forms.toList.contains ','

def slots (operator : Operator) : List String :=
  Text.splitString (if operator.barsAreSlots then '|' else ',') operator.forms

theorem slots_ne_nil (operator : Operator) : operator.slots ≠ [] := by
  simp [slots, Text.splitString, Text.split_ne_nil]

end Operator

namespace Segment

def operator? : Segment → Option Operator
  | .operator choice => some choice
  | _ => none

def isLiteral : Segment → Bool
  | .literal _ => true
  | _ => false

end Segment

namespace Template

def literal (text : String) : Template := ⟨[.literal text]⟩

def isPlain (template : Template) : Bool := template.segments.all Segment.isLiteral

def operators (template : Template) : List Operator :=
  template.segments.filterMap Segment.operator?

def hasOperators (template : Template) : Bool := !template.operators.isEmpty

end Template

end Phrasebook
