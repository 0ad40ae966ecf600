/-! Plural categories.

The set is closed. Its canonical order is zero, one, two, few, many, other, and
every list of forms keeps this order.
-/

set_option autoImplicit false

namespace Phrasebook

inductive Category where
  | zero
  | one
  | two
  | few
  | many
  | other
  deriving DecidableEq, Repr

namespace Category

def all : List Category := [.zero, .one, .two, .few, .many, .other]

def position : Category → Nat
  | .zero => 0
  | .one => 1
  | .two => 2
  | .few => 3
  | .many => 4
  | .other => 5

def name : Category → String
  | .zero => "zero"
  | .one => "one"
  | .two => "two"
  | .few => "few"
  | .many => "many"
  | .other => "other"

def ofName? (name : String) : Option Category := all.find? (·.name == name)

theorem all_position (category : Category) : all[category.position]? = some category := by
  cases category <;> rfl

theorem position_injective {first second : Category}
    (same : first.position = second.position) : first = second :=
  Option.some.inj (by rw [← all_position first, same, all_position])

end Category

end Phrasebook
