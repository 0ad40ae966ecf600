import Mathlib.Data.List.TakeWhile

/-! Where the run of a kind at the start of a list ends.

The run is all of a given part if the part is of the kind and what follows it
does not start with the kind.
-/

set_option autoImplicit false

namespace Phrasebook.Text

variable {α : Type} {kind : α → Bool} {before rest : List α}

/-- Nothing of the kind stands at the start of the list. -/
def StartsOutside (kind : α → Bool) (list : List α) : Prop :=
  ∀ first, list.head? = some first → kind first = false

theorem startsOutside_cons {first : α} (outside : kind first = false) (rest : List α) :
    StartsOutside kind (first :: rest) := by
  intro other start
  obtain rfl : first = other := by simpa using start
  exact outside

theorem startsOutside_dropWhile (kind : α → Bool) (list : List α) :
    StartsOutside kind (list.dropWhile kind) := by
  intro first start
  have outside := List.head?_dropWhile_not kind list
  simpa [start] using outside

theorem takeWhile_append (all : ∀ element ∈ before, kind element = true)
    (outside : StartsOutside kind rest) : (before ++ rest).takeWhile kind = before := by
  rw [List.takeWhile_append_of_pos all]
  cases rest with
  | nil => simp
  | cons first rest => simp [outside first rfl]

theorem dropWhile_append (all : ∀ element ∈ before, kind element = true)
    (outside : StartsOutside kind rest) : (before ++ rest).dropWhile kind = rest := by
  rw [List.dropWhile_append_of_pos all]
  cases rest with
  | nil => simp
  | cons first rest => simp [outside first rfl]

end Phrasebook.Text
