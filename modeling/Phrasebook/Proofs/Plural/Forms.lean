import Mathlib.Data.List.Destutter
import Mathlib.Data.List.Sort
import Phrasebook.Proofs.Plural.Slots

/-! The forms of plural rules.

The forms of a rule stand in canonical order, each once and `other` last, and each number
has a slot with its own form in it. For a locale this follows from its plural data alone:
whatever categories they list, in whatever order, it is enough that they list each
category they give but `other`.
-/

set_option autoImplicit false

namespace Phrasebook

namespace Category

def Precedes (first second : Category) : Prop := first.position < second.position

instance : DecidableRel Precedes :=
  fun first second => inferInstanceAs (Decidable (first.position < second.position))

instance : Std.Irrefl Precedes := ⟨fun category => Nat.lt_irrefl category.position⟩

instance : Std.Antisymm Precedes := ⟨fun _ _ before after => absurd after (Nat.lt_asymm before)⟩

instance : Std.Antisymm fun first second : Category => first.position ≤ second.position :=
  ⟨fun _ _ before after => position_injective (Nat.le_antisymm before after)⟩

theorem not_precedes_other (category : Category) : ¬Precedes .other category := by
  cases category <;> decide

def arranged (categories : List Category) : List Category :=
  ((categories ++ [Category.other]).mergeSort (·.position ≤ ·.position)).destutter (· ≠ ·)

theorem pairwise_mergeSort (categories : List Category) :
    (categories.mergeSort (·.position ≤ ·.position)).Pairwise (·.position ≤ ·.position) := by
  refine (List.pairwise_mergeSort ?_ ?_ categories).imp of_decide_eq_true
  · intro first second third before after
    exact decide_eq_true (Nat.le_trans (of_decide_eq_true before) (of_decide_eq_true after))
  · intro first second
    simp [Nat.le_total]

theorem arranged_eq_dedup (categories : List Category) :
    arranged categories =
      ((categories ++ [Category.other]).mergeSort (·.position ≤ ·.position)).dedup :=
  (pairwise_mergeSort _).destutter_eq_dedup

theorem mem_arranged {categories : List Category} {category : Category} :
    category ∈ arranged categories ↔ category ∈ categories ∨ category = .other := by
  simp [arranged_eq_dedup]

theorem pairwise_arranged (categories : List Category) :
    (arranged categories).Pairwise Precedes := by
  rw [arranged_eq_dedup]
  have ordered := (pairwise_mergeSort (categories ++ [Category.other])).sublist (List.dedup_sublist _)
  refine (ordered.and (List.nodup_dedup _)).imp ?_
  rintro first second ⟨before, different⟩
  exact Nat.lt_of_le_of_ne before fun same => different (position_injective same)

/-- Any list in canonical order with the same categories is the arranged one. -/
theorem arranged_eq {categories forms : List Category} (ordered : forms.Pairwise Precedes)
    (same : ∀ category, category ∈ forms ↔ category ∈ categories ∨ category = .other) :
    arranged categories = forms :=
  (pairwise_arranged categories).eq_of_mem_iff ordered fun category =>
    mem_arranged.trans (same category).symm

theorem getLast?_of_pairwise {forms : List Category} (ordered : forms.Pairwise Precedes)
    (other : .other ∈ forms) : forms.getLast? = some .other := by
  obtain ⟨before, after, rfl⟩ := List.append_of_mem other
  cases after with
  | nil => simp
  | cons next rest =>
    have follows := (List.pairwise_cons.1 (List.pairwise_append.1 ordered).2.1).1 next
    exact absurd (follows List.mem_cons_self) (not_precedes_other next)

end Category

namespace Cardinal

theorem pairwise_forms (locale : Locale) : (forms (conditions locale)).Pairwise Category.Precedes := by
  have listed : ∀ rules ∈ table, (forms rules.conditions).Pairwise Category.Precedes := by decide
  unfold conditions
  split
  · next rules found => exact listed rules (List.mem_of_find?_eq_some found)
  · exact List.pairwise_singleton _ _

theorem mem_forms {conditions : List (Category × Condition)} {category : Category} :
    category ∈ forms conditions ↔ category ∈ conditions.map (·.1) ∨ category = .other := by
  simp [forms]

end Cardinal

namespace Rule

/-- What is asked of a rule. Its forms stand in canonical order, `other` is the last of them,
and each number has a slot, which holds its form. -/
structure Regular (rule : Rule) : Prop where
  ordered : rule.forms.Pairwise Category.Precedes
  last : rule.forms.getLast? = some .other
  slotted : ∀ number, ∃ slot, rule.slot? number = some slot ∧ slot < rule.forms.length ∧
    rule.forms[slot]? = some (rule.category number)

theorem exists_slot_of_mem {rule : Rule} {number : Binary64}
    (listed : rule.category number ∈ rule.forms) :
    ∃ slot, rule.slot? number = some slot ∧ slot < rule.forms.length ∧
      rule.forms[slot]? = some (rule.category number) := by
  have slotted : (rule.slot? number).isSome = true := by
    rw [slot?, List.findIdx?_isSome, List.any_eq_true]
    exact ⟨_, listed, beq_self_eq_true _⟩
  obtain ⟨slot, found⟩ := Option.isSome_iff_exists.1 slotted
  obtain ⟨below, same, -⟩ := List.findIdx?_eq_some_iff_getElem.1 found
  exact ⟨slot, found, below, List.getElem?_eq_some_iff.2 ⟨below, beq_iff_eq.1 same⟩⟩

theorem regular_of_mem {rule : Rule} (ordered : rule.forms.Pairwise Category.Precedes)
    (other : .other ∈ rule.forms) (listed : ∀ number, rule.category number ∈ rule.forms) :
    rule.Regular where
  ordered := ordered
  last := Category.getLast?_of_pairwise ordered other
  slotted number := exists_slot_of_mem (listed number)

/-- The rule of a language by its plural data: the categories that they list, and the category
that they give to operands. -/
def ofData (categories : List Category) (classify : Operands → Category) : Rule where
  forms := Category.arranged categories
  category number :=
    match Operands.ofNumber? number with
    | some operands => classify operands
    | none => .other

theorem regular_ofData {categories : List Category} {classify : Operands → Category}
    (complete : ∀ operands, classify operands ∈ categories ∨ classify operands = .other) :
    (ofData categories classify).Regular := by
  apply regular_of_mem (Category.pairwise_arranged categories) (Category.mem_arranged.2 (.inr rfl))
  intro number
  apply Category.mem_arranged.2
  simp only [ofData]
  split
  · next operands found => exact complete operands
  · exact .inr rfl

theorem cardinal_eq_ofData {locale : Locale} {categories : List Category}
    (same : ∀ category,
      category ∈ categories ↔ category ∈ (Cardinal.conditions locale).map (·.1)) :
    cardinal locale = ofData categories (Cardinal.classify (Cardinal.conditions locale)) := by
  have forms : Category.arranged categories = Cardinal.forms (Cardinal.conditions locale) :=
    Category.arranged_eq (Cardinal.pairwise_forms locale) fun category => by
      rw [Cardinal.mem_forms, same]
  rw [ofData, forms]
  rfl

theorem regular_cardinal (locale : Locale) : (cardinal locale).Regular := by
  rw [cardinal_eq_ofData fun _ => Iff.rfl]
  exact regular_ofData fun operands =>
    Cardinal.mem_forms.1 (Cardinal.classify_mem_forms (Cardinal.conditions locale) operands)

/-- The rules that come along are regular, the cardinal one for every locale. That one is the
rule of the plural data of its locale, in whatever order and how often they list the
categories, and plural data that list what they give always make a regular rule. -/
theorem regular_of_origin :
    english.Regular ∧ russian.Regular ∧ (∀ locale, (cardinal locale).Regular) ∧
      (∀ locale categories,
        (∀ category,
          category ∈ categories ↔ category ∈ (Cardinal.conditions locale).map (·.1)) →
        cardinal locale = ofData categories (Cardinal.classify (Cardinal.conditions locale))) ∧
      ∀ categories classify,
        (∀ operands, classify operands ∈ categories ∨ classify operands = .other) →
        (ofData categories classify).Regular := by
  refine ⟨?_, ?_, regular_cardinal, fun _ _ => cardinal_eq_ofData, fun _ _ => regular_ofData⟩
  · exact regular_of_mem (by decide) (by decide) Provided.english.category_mem_forms
  · exact regular_of_mem (by decide) (by decide) Provided.russian.category_mem_forms

def arabic : Locale := ⟨⟨"ar".toList, none, none, []⟩, .none⟩

/-- The categories of Arabic out of order, two of them twice. -/
def arabicCategories : List Category := [.many, .two, .zero, .few, .two, .one, .zero]

theorem arabicCategories_arranged :
    let conditions := Cardinal.conditions arabic
    let data := ofData arabicCategories (Cardinal.classify conditions)
    Locale.ofTag "ar" = .ok arabic ∧
      (∀ category, category ∈ arabicCategories ↔ category ∈ conditions.map (·.1)) ∧
      (∀ operands, Cardinal.classify conditions operands ∈ arabicCategories ∨
        Cardinal.classify conditions operands = .other) ∧
      data.Regular ∧ data.forms = Category.all := by
  intro conditions data
  have listed : ∀ category,
      category ∈ arabicCategories ↔ category ∈ conditions.map (·.1) := by
    intro category
    cases category <;> decide
  have complete : ∀ operands, Cardinal.classify conditions operands ∈ arabicCategories ∨
      Cardinal.classify conditions operands = .other := by
    intro operands
    rw [listed]
    exact Cardinal.mem_forms.1 (Cardinal.classify_mem_forms conditions operands)
  obtain ⟨-, -, -, same, regular⟩ := regular_of_origin
  have forms : (cardinal arabic).forms = Category.all := by decide
  refine ⟨rfl, listed, complete, regular _ _ complete, ?_⟩
  rw [← forms, same arabic arabicCategories listed]

end Rule

end Phrasebook
