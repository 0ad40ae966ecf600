import Phrasebook.Proofs.Number.IntegerText
import Phrasebook.Proofs.Template.Grammar
import Phrasebook.Proofs.Template.Parameters

/-! Integer parameters given as texts.

An integer and the text of its numeral show alike, round alike when they are counted and
select the same position. A negative integer selects none, and neither does its numeral,
since a minus sign keeps a text from being read as a position.
-/

set_option autoImplicit false

namespace Phrasebook

theorem Text.trim_eq_self {text : List Char}
    (visible : ∀ character ∈ text, isBlank character = false) : trim text = text := by
  have kept {other : List Char} (same : ∀ character ∈ other, isBlank character = false) :
      skipBlanks other = other := by
    cases other with
    | nil => rfl
    | cons first rest =>
      rw [skipBlanks, List.dropWhile_cons_of_neg (by simp [same first List.mem_cons_self])]
  rw [trim, kept visible, kept fun character member => visible character (by simpa using member),
    List.reverse_reverse]

namespace Numeral

theorem isBlank_of_mem_ofInt {number : Int} {character : Char}
    (member : character ∈ ofInt number) : Text.isBlank character = false := by
  have visible {number : Nat} (member : character ∈ ofNat number) :
      Text.isBlank character = false := by
    by_contra blank
    have outside := Template.isBlank_bounds (Bool.not_eq_false _ ▸ blank)
    have inside := Char.isDigit_iff_toNat.1 ((ofNat_isDigits number).2 _ member)
    have zero : '0'.toNat = 48 := rfl
    have nine : '9'.toNat = 57 := rfl
    omega
  cases number with
  | ofNat number => exact visible member
  | negSucc number =>
    rcases List.mem_cons.1 member with rfl | member
    · decide
    · exact visible member

theorem trim_ofInt (number : Int) : Text.trim (ofInt number) = ofInt number :=
  Text.trim_eq_self fun _ => isBlank_of_mem_ofInt

end Numeral

namespace Value

def spelled : Value → Value
  | .integer number => .text (String.ofList (Numeral.ofInt number.toInt))
  | value => value

theorem count_spelled (value : Value) : value.spelled.count = value.count := by
  cases value with
  | integer number =>
    rw [spelled, count, count, String.toList_ofList, Numeral.trim_ofInt, Binary64.read_ofInt,
      Option.getD_some]
  | float number => rfl
  | text content => rfl

theorem position?_spelled (value : Value) : value.spelled.position? = value.position? := by
  cases value with
  | integer number =>
    have below : number.toInt < ((2 ^ 64 : Nat) : Int) := by
      have := Int64.toInt_lt number
      omega
    simp only [spelled, position?, String.toList_ofList, Numeral.readBelow_ofInt below]
  | float number => rfl
  | text content => rfl

theorem view_spelled (value : Value) : value.spelled.view = value.view := by
  have shown : value.spelled.display = value.display := by cases value <;> rfl
  rw [view, shown, count_spelled, position?_spelled, view]

end Value

namespace Parameters

/-- The parameters with the integers under the chosen names as texts. -/
def spell (chosen : String → Bool) (parameters : Parameters) : Parameters :=
  parameters.map fun name value => if chosen name then value.spelled else value

variable (chosen : String → Bool) (parameters : Parameters)

theorem view?_spell (name : String) : (parameters.spell chosen).view? name = parameters.view? name := by
  unfold spell view?
  rw [Std.ExtTreeMap.getElem?_map, Option.map_map]
  congr 1
  funext value
  cases chosen name with
  | false => rfl
  | true => exact value.view_spelled

theorem isEmpty_spell : (parameters.spell chosen).isEmpty = parameters.isEmpty := by
  rw [Bool.eq_iff_iff, Std.ExtTreeMap.isEmpty_iff, Std.ExtTreeMap.isEmpty_iff, spell,
    Std.ExtTreeMap.map_eq_empty_iff]

end Parameters

end Phrasebook
