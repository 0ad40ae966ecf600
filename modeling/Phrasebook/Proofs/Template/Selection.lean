import Phrasebook.Evaluation

/-! Which form of an operator a translation selects.

The count asks for a slot and the gender for a variant in it. Each of the two falls back to
the first choice by itself if nothing is asked for or what is asked for is not there.
-/

set_option autoImplicit false

namespace Phrasebook

/-- The position chosen from so many choices: the one that is asked for if it is there, and
otherwise the first. -/
inductive Chooses (asked : Nat → Prop) (choices : Nat) : Nat → Prop where
  | asked {position : Nat} : asked position → position < choices → Chooses asked choices position
  | first : (∀ position < choices, ¬asked position) → Chooses asked choices 0

theorem pick_some {choices : List String} {index : Nat} {choice : String}
    (found : choices[index]? = some choice) : pick choices (some index) = choice := by
  simp [pick, found]

theorem pick_none (choices : List String) : pick choices none = choices.headD "" := rfl

theorem pick_of_absent {choices : List String} {index : Option Nat}
    (absent : ∀ position < choices.length, index ≠ some position) :
    pick choices index = choices.headD "" := by
  cases index with
  | none => rfl
  | some position =>
    have beyond : choices.length ≤ position :=
      Nat.le_of_not_lt fun inside => absent position inside rfl
    simp [pick, beyond]

theorem pick_eq_iff {choices : List String} (nonempty : choices ≠ []) {index : Option Nat}
    {asked : Nat → Prop} (same : ∀ position, index = some position ↔ asked position)
    {choice : String} :
    pick choices index = choice ↔
      ∃ position, Chooses asked choices.length position ∧ choices[position]? = some choice := by
  have first : choices[0]? = some (choices.headD "") := by
    obtain ⟨head, tail, rfl⟩ := List.exists_cons_of_ne_nil nonempty
    rfl
  constructor
  · rintro rfl
    by_cases inside : ∃ position < choices.length, index = some position
    · obtain ⟨position, below, rfl⟩ := inside
      have found := List.getElem?_eq_getElem below
      exact ⟨position, .asked ((same position).1 rfl) below, by rw [pick_some found, found]⟩
    · have absent : ∀ position < choices.length, index ≠ some position :=
        fun position below equal => inside ⟨position, below, equal⟩
      exact ⟨0, .first fun position below asks => absent position below ((same position).2 asks),
        by rw [pick_of_absent absent, first]⟩
  · rintro ⟨position, ⟨asks, -⟩ | unasked, found⟩
    · rw [(same position).2 asks, pick_some found]
    · have absent : ∀ position < choices.length, index ≠ some position :=
        fun position below equal => unasked position below ((same position).1 equal)
      rw [pick_of_absent absent]
      exact Option.some.inj (first.symm.trans found)

/-- The first place of the category of a number among the forms of a rule. -/
structure Rule.IsSlot (rule : Rule) (number : Binary64) (slot : Nat) : Prop where
  listed : rule.forms[slot]? = some (rule.category number)
  first : ∀ earlier < slot, rule.forms[earlier]? ≠ some (rule.category number)

theorem Rule.slot?_eq_some_iff {rule : Rule} {number : Binary64} {slot : Nat} :
    rule.slot? number = some slot ↔ rule.IsSlot number slot := by
  rw [slot?, List.findIdx?_eq_some_iff_getElem]
  constructor
  · rintro ⟨below, same, before⟩
    refine ⟨List.getElem?_eq_some_iff.2 ⟨below, by simpa using same⟩, ?_⟩
    intro earlier less listed
    obtain ⟨_, same⟩ := List.getElem?_eq_some_iff.1 listed
    exact before earlier less (by simpa using same)
  · rintro ⟨listed, first⟩
    obtain ⟨below, same⟩ := List.getElem?_eq_some_iff.1 listed
    refine ⟨below, by simpa using same, ?_⟩
    intro earlier less found
    exact first earlier less
      (List.getElem?_eq_some_iff.2 ⟨Nat.lt_trans less below, by simpa using found⟩)

namespace Operator

def AsksSlot (operator : Operator) (rule : Rule) (parameters : Parameters) (slot : Nat) : Prop :=
  ∃ name value, operator.count = some name ∧ parameters[name]? = some value ∧
    rule.IsSlot value.count slot

def AsksVariant (operator : Operator) (parameters : Parameters) (variant : Nat) : Prop :=
  ∃ name value, operator.gender = some name ∧ parameters[name]? = some value ∧
    value.position? = some variant

/-- A count, no gender and no comma. -/
structure HasBarSlots (operator : Operator) : Prop where
  counted : operator.count ≠ none
  genderless : operator.gender = none
  commaless : ',' ∉ operator.forms.toList

/-- The form that an operator becomes: a slot as it is if bars separate the slots, and
otherwise a variant of a slot. -/
inductive Becomes (operator : Operator) (rule : Rule) (parameters : Parameters) :
    String → Prop where
  | slot {slots : List String} {slot : Nat} {form : String} :
      operator.HasBarSlots → Text.Parts '|' operator.forms slots →
      Chooses (operator.AsksSlot rule parameters) slots.length slot →
      slots[slot]? = some form → Becomes operator rule parameters form
  | variant {slots variants : List String} {slot variant : Nat} {chosen form : String} :
      ¬operator.HasBarSlots → Text.Parts ',' operator.forms slots →
      Chooses (operator.AsksSlot rule parameters) slots.length slot →
      slots[slot]? = some chosen → Text.Parts '|' chosen variants →
      Chooses (operator.AsksVariant parameters) variants.length variant →
      variants[variant]? = some form → Becomes operator rule parameters form

/-- The count gives the index of a slot, and the operator becomes the first variant in it. -/
structure Selects (operator : Operator) (rule : Rule) (parameters : Parameters)
    (slot : Nat) : Prop where
  index : operator.slot? rule parameters = some slot
  text : ∃ chosen, operator.slots[slot]? = some chosen ∧
    operator.resolve rule parameters = (Text.splitString '|' chosen).headD ""

variable {operator : Operator} {rule : Rule} {parameters : Parameters} {slot : Nat}

theorem slots_of_barsAreSlots (bars : operator.barsAreSlots = true) :
    operator.slots = Text.splitString '|' operator.forms := by
  rw [slots, if_pos bars]

theorem slots_of_not_barsAreSlots (bars : operator.barsAreSlots = false) :
    operator.slots = Text.splitString ',' operator.forms := by
  rw [slots, bars, if_neg Bool.false_ne_true]

theorem length_of_barsAreSlots (bars : operator.barsAreSlots = true) :
    (Text.splitString ',' operator.forms).length = 1 := by
  have absent : ',' ∉ operator.forms.toList := by
    simpa using (Bool.and_eq_true_iff.1 bars).2
  rw [Text.splitString_of_not_mem absent, List.length_singleton]

theorem length_le_slots (operator : Operator) :
    (Text.splitString ',' operator.forms).length ≤ operator.slots.length := by
  cases bars : operator.barsAreSlots with
  | false => exact Nat.le_of_eq (congrArg List.length (slots_of_not_barsAreSlots bars).symm)
  | true =>
    rw [length_of_barsAreSlots bars]
    exact List.length_pos_iff.2 operator.slots_ne_nil

theorem headD_of_barsAreSlots (bars : operator.barsAreSlots = true) {chosen : String}
    (member : chosen ∈ operator.slots) : (Text.splitString '|' chosen).headD "" = chosen := by
  rw [slots_of_barsAreSlots bars, Text.splitString, List.mem_map] at member
  obtain ⟨part, member, rfl⟩ := member
  rw [Text.splitString_of_not_mem, List.headD_cons]
  rw [String.toList_ofList]
  exact Text.not_mem_of_mem_split member

theorem selects_of_slot? (countOnly : operator.gender = none)
    (index : operator.slot? rule parameters = some slot)
    (enough : slot < (Text.splitString ',' operator.forms).length) :
    operator.Selects rule parameters slot := by
  have present := List.getElem?_eq_getElem (Nat.lt_of_lt_of_le enough operator.length_le_slots)
  refine ⟨index, _, present, ?_⟩
  have noVariant : operator.variant? parameters = none := by rw [variant?, countOnly]; rfl
  rw [resolve, index, pick_some present, noVariant, pick_none]
  split
  · next bars => exact (headD_of_barsAreSlots bars (List.mem_of_getElem? present)).symm
  · rfl

theorem barsAreSlots_iff (operator : Operator) :
    operator.barsAreSlots = true ↔ operator.HasBarSlots := by
  simp only [barsAreSlots, Bool.and_eq_true, Option.isSome_iff_ne_none, Option.isNone_iff_eq_none,
    Bool.not_eq_true', List.contains_eq_mem, decide_eq_false_iff_not]
  exact ⟨fun ⟨⟨counted, genderless⟩, commaless⟩ => ⟨counted, genderless, commaless⟩,
    fun ⟨counted, genderless, commaless⟩ => ⟨⟨counted, genderless⟩, commaless⟩⟩

theorem slot?_eq_some_iff (position : Nat) :
    operator.slot? rule parameters = some position ↔
      operator.AsksSlot rule parameters position := by
  simp only [Operator.slot?, Option.bind_eq_some_iff, Rule.slot?_eq_some_iff, AsksSlot,
    exists_and_left]

theorem variant?_eq_some_iff (position : Nat) :
    operator.variant? parameters = some position ↔ operator.AsksVariant parameters position := by
  simp only [variant?, Option.bind_eq_some_iff, AsksVariant, exists_and_left]

theorem pick_slots_eq_iff {chosen : String} :
    pick operator.slots (operator.slot? rule parameters) = chosen ↔
      ∃ slot, Chooses (operator.AsksSlot rule parameters) operator.slots.length slot ∧
        operator.slots[slot]? = some chosen :=
  pick_eq_iff operator.slots_ne_nil slot?_eq_some_iff

theorem pick_variants_eq_iff {chosen form : String} :
    pick (Text.splitString '|' chosen) (operator.variant? parameters) = form ↔
      ∃ variant, Chooses (operator.AsksVariant parameters) (Text.splitString '|' chosen).length
          variant ∧ (Text.splitString '|' chosen)[variant]? = some form :=
  pick_eq_iff (Text.parts_iff.2 rfl).nonempty variant?_eq_some_iff

theorem becomes_iff_of_barsAreSlots (bars : operator.barsAreSlots = true) {form : String} :
    operator.Becomes rule parameters form ↔
      pick operator.slots (operator.slot? rule parameters) = form := by
  have hasBars := operator.barsAreSlots_iff.1 bars
  rw [pick_slots_eq_iff, slots_of_barsAreSlots bars]
  constructor
  · rintro (⟨-, parts, chooses, found⟩ | ⟨barless, -⟩)
    · obtain rfl := Text.parts_iff.1 parts
      exact ⟨_, chooses, found⟩
    · exact (barless hasBars).elim
  · rintro ⟨slot, chooses, found⟩
    exact .slot hasBars (Text.parts_iff.2 rfl) chooses found

theorem becomes_iff_of_not_barsAreSlots (bars : operator.barsAreSlots = false) {form : String} :
    operator.Becomes rule parameters form ↔
      pick (Text.splitString '|' (pick operator.slots (operator.slot? rule parameters)))
        (operator.variant? parameters) = form := by
  have barless : ¬operator.HasBarSlots := fun hasBars =>
    Bool.noConfusion (bars.symm.trans (operator.barsAreSlots_iff.2 hasBars))
  rw [pick_variants_eq_iff]
  constructor
  · rintro (⟨hasBars, -⟩ | ⟨-, parts, slotChooses, slotFound, variants, chooses, found⟩)
    · exact (barless hasBars).elim
    · obtain rfl := Text.parts_iff.1 parts
      obtain rfl := Text.parts_iff.1 variants
      rw [← slots_of_not_barsAreSlots bars] at slotChooses slotFound
      rw [pick_slots_eq_iff.2 ⟨_, slotChooses, slotFound⟩]
      exact ⟨_, chooses, found⟩
  · rintro ⟨variant, chooses, found⟩
    obtain ⟨slot, slotChooses, slotFound⟩ :=
      pick_slots_eq_iff.1 (Eq.refl (pick operator.slots (operator.slot? rule parameters)))
    rw [slots_of_not_barsAreSlots bars] at slotChooses slotFound
    rw [slots_of_not_barsAreSlots bars] at chooses found
    exact .variant barless (Text.parts_iff.2 rfl) slotChooses slotFound (Text.parts_iff.2 rfl)
      chooses found

/-- An operator becomes one form, which the count and the gender choose, each among the parts
that are there. The slots are the parts of the forms as they are written. -/
theorem resolve_becomes (operator : Operator) (rule : Rule) (parameters : Parameters) :
    (operator.barsAreSlots = true ↔ operator.HasBarSlots) ∧
      Text.Parts (if operator.barsAreSlots then '|' else ',') operator.forms operator.slots ∧
      ∀ form, operator.resolve rule parameters = form ↔ operator.Becomes rule parameters form := by
  refine ⟨operator.barsAreSlots_iff, Text.parts_iff.2 rfl, fun form => ?_⟩
  rw [resolve]
  cases bars : operator.barsAreSlots with
  | true => rw [if_pos rfl, becomes_iff_of_barsAreSlots bars]
  | false => rw [if_neg Bool.false_ne_true, becomes_iff_of_not_barsAreSlots bars]

end Operator

end Phrasebook
