import Phrasebook.Catalog.Inspection

/-! What an inspection has checked of an entry when it reports nothing.

The list of issues only grows, so a list that ends empty was empty at every entry,
and no language was set down as one without a rule. Each entry has then been checked
on its own.
-/

set_option autoImplicit false

namespace Phrasebook

/-- The slots that a count can select are those of the forms of a rule. -/
def Template.SlotsWithin (template : Template) (rule : Rule) : Prop :=
  ∀ operator ∈ template.operators, operator.count.isSome = true →
    ∀ slot < operator.slots.length, slot < rule.forms.length

theorem Template.slotsWithin_of_not_hasOperators {template : Template}
    (plain : template.hasOperators = false) (rule : Rule) : template.SlotsWithin rule := by
  have none : template.operators = [] := by simpa [hasOperators] using plain
  intro operator member
  rw [none] at member
  exact absurd member List.not_mem_nil

namespace Inspection

theorem slotProblems_eq_nil_iff {language : String} {rule : Rule} {template : Template} :
    slotProblems language rule template = [] ↔ template.SlotsWithin rule := by
  rw [slotProblems, List.filterMap_eq_nil_iff]
  apply forall₂_congr
  intro operator _
  constructor
  · intro quiet counted slot below
    have enough : ¬rule.forms.length < operator.slots.length := fun more => by
      simp [counted, more] at quiet
    omega
  · intro within
    refine if_neg ?_
    rintro ⟨counted, more⟩
    exact Nat.lt_irrefl _ (within counted rule.forms.length more)

theorem operatorProblems_eq_nil_iff {registry : Registry} {entry : Entry} :
    operatorProblems registry [] entry = [] ↔
      ((Template.parse entry.template).hasOperators = true →
        ∃ rule, registry.ruleOrCardinal entry.identity.language = .ok rule ∧
          (Template.parse entry.template).SlotsWithin rule) := by
  simp only [operatorProblems]
  cases operators : (Template.parse entry.template).hasOperators with
  | false => simp
  | true =>
    cases found : registry.ruleOrCardinal entry.identity.language with
    | error cause => simp
    | ok rule => simp [slotProblems_eq_nil_iff]

theorem issues_prefix_add (registry : Registry) (inspection : Inspection) (entry : Entry) :
    inspection.issues <+: (add registry inspection entry).issues :=
  List.prefix_append _ _

theorem issues_prefix_foldl (registry : Registry) (inspection : Inspection)
    (entries : List Entry) :
    inspection.issues <+: (entries.foldl (add registry) inspection).issues := by
  induction entries generalizing inspection with
  | nil => exact List.prefix_refl _
  | cons entry rest ih => exact (issues_prefix_add registry inspection entry).trans (ih _)

theorem checks_of_issues_add_eq_nil {registry : Registry} {inspection : Inspection}
    {entry : Entry} (quiet : (add registry inspection entry).issues = []) :
    keyProblems entry = [] ∧ operatorProblems registry inspection.withoutRule entry = [] ∧
      (add registry inspection entry).withoutRule = inspection.withoutRule := by
  simp only [add, List.append_eq_nil_iff, List.map_eq_nil_iff] at quiet
  obtain ⟨-, ⟨-, inKey⟩, inOperators⟩ := quiet
  refine ⟨inKey, inOperators, ?_⟩
  simp [add, inOperators]

theorem checks_of_issues_foldl_eq_nil {registry : Registry} {inspection : Inspection}
    {entries : List Entry} (clean : (entries.foldl (add registry) inspection).issues = []) :
    ∀ entry ∈ entries, keyProblems entry = [] ∧
      operatorProblems registry inspection.withoutRule entry = [] := by
  induction entries generalizing inspection with
  | nil => exact List.forall_mem_nil _
  | cons entry rest ih =>
    have quiet : (add registry inspection entry).issues = [] :=
      List.prefix_nil.1 (clean ▸ issues_prefix_foldl registry (add registry inspection entry) rest)
    obtain ⟨inKey, inOperators, unchanged⟩ := checks_of_issues_add_eq_nil quiet
    rw [List.forall_mem_cons, ← unchanged]
    exact ⟨⟨inKey, unchanged ▸ inOperators⟩, ih clean⟩

end Inspection

theorem isValidKey_of_findIssues_eq_nil {entries : List Entry} {registry : Registry}
    (clean : findIssues entries registry = []) {entry : Entry} (member : entry ∈ entries) :
    isValidKey entry.identity.key = true := by
  have inKey := (Inspection.checks_of_issues_foldl_eq_nil clean entry member).1
  by_cases valid : isValidKey entry.identity.key = true
  · exact valid
  · simp [Inspection.keyProblems, valid] at inKey

/-- In a catalog without issues each template with an operator has a rule that reaches it. -/
theorem rule_of_findIssues_eq_nil {entries : List Entry} {registry : Registry}
    (clean : findIssues entries registry = []) {entry : Entry} (member : entry ∈ entries)
    (operators : (Template.parse entry.template).hasOperators = true) :
    ∃ rule, registry.ruleOrCardinal entry.identity.language = .ok rule ∧
      (Template.parse entry.template).SlotsWithin rule :=
  Inspection.operatorProblems_eq_nil_iff.1
    (Inspection.checks_of_issues_foldl_eq_nil clean entry member).2 operators

end Phrasebook
