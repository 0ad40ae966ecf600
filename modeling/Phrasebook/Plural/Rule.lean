import Phrasebook.Locale.Reader
import Phrasebook.Number.Binary
import Phrasebook.Plural.Cardinal

/-! Plural rules.

A rule gives every number a category and lists the forms that its language
tells apart. The place of a category in this list is the slot that it selects.
-/

set_option autoImplicit false

namespace Phrasebook

structure Rule where
  forms : List Category
  category : Binary64 → Category

namespace Rule

/-- The slot of a number, or none if the rule does not list the category it gives. -/
def slot? (rule : Rule) (number : Binary64) : Option Nat :=
  rule.forms.findIdx? (· == rule.category number)

theorem slot?_lt {rule : Rule} {number : Binary64} {slot : Nat}
    (found : rule.slot? number = some slot) : slot < rule.forms.length :=
  (List.findIdx?_eq_some_iff_findIdx_eq.1 found).1

def english : Rule where
  forms := [.one, .other]
  category number := if number = Binary64.ofInt 1 then .one else .other

/-- Remainders keep the sign of the number they are taken from. -/
def russianCategory (number : Int) : Category :=
  let ones := number.tmod 10
  let tens := number.tmod 100
  if ones = 1 ∧ tens ≠ 11 then .one
  else if (2 ≤ ones ∧ ones ≤ 4) ∧ ¬(12 ≤ tens ∧ tens ≤ 14) then .few
  else if ones = 0 ∨ (5 ≤ ones ∧ ones ≤ 9) ∨ (11 ≤ tens ∧ tens ≤ 14) then .many
  else .other

def russian : Rule where
  forms := [.one, .few, .many, .other]
  category number :=
    match number.whole? with
    | some whole => russianCategory (if whole.negative then -whole.magnitude else whole.magnitude)
    | none => .other

def cardinal (locale : Locale) : Rule where
  forms := Cardinal.forms (Cardinal.conditions locale)
  category number :=
    match Operands.ofNumber? number with
    | some operands => Cardinal.classify (Cardinal.conditions locale) operands
    | none => .other

def constant (forms : List Category) (category : Category) : Rule := ⟨forms, fun _ => category⟩

end Rule

end Phrasebook
