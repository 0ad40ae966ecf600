import Phrasebook.Proofs.Catalog.Duplicates
import Phrasebook.Proofs.Catalog.Inspection

/-! What an inspection reports, entry by entry.

An inspection carries along the identities and the languages without a rule that it has met.
Both can be told from the entries before, so what an entry adds to the issues depends on these
and on the entry alone. Nothing is reported just when no entry has anything to add.
-/

set_option autoImplicit false

namespace Phrasebook

inductive Registry.Provides (registry : Registry) (language : String) : Rule → Prop where
  | registered {rule : Rule} :
      registry.rule? language = some rule → Provides registry language rule
  | cardinal {locale : Locale} :
      registry.rule? language = none → Locale.ofTag language = .ok locale →
        Provides registry language (.cardinal locale)

theorem Registry.ruleOrCardinal_eq_ok_iff {registry : Registry} {language : String} {rule : Rule} :
    registry.ruleOrCardinal language = .ok rule ↔ registry.Provides language rule := by
  unfold ruleOrCardinal
  constructor
  · intro found
    split at found
    · next registered =>
      obtain rfl := Except.ok.inj found
      exact .registered registered
    · next unregistered =>
      cases read : Locale.ofTag language with
      | error cause => simp [read, Except.map] at found
      | ok locale =>
        obtain rfl : Rule.cardinal locale = rule := by simpa [read, Except.map] using found
        exact .cardinal unregistered read
  · rintro (registered | ⟨unregistered, read⟩)
    · rw [registered]
    · rw [unregistered, read]
      rfl

/-- The operators with a count that have more slots than a rule has forms. -/
def Template.excess (template : Template) (rule : Rule) : List Operator :=
  template.operators.filter fun operator =>
    operator.count.isSome ∧ rule.forms.length < operator.slots.length

def issuesOfKind (kind : String) (issues : List Issue) : List Issue :=
  issues.filter (·.problem.kind == kind)

theorem issuesOfKind_append (kind : String) (issues later : List Issue) :
    issuesOfKind kind (issues ++ later) = issuesOfKind kind issues ++ issuesOfKind kind later :=
  List.filter_append issues later

namespace Entry

def hasOperators (entry : Entry) : Bool := (Template.parse entry.template).hasOperators

structure AllSound (registry : Registry) (entries : List Entry) : Prop where
  different : (entries.map (·.identity)).Nodup
  validKey : ∀ entry ∈ entries, isValidKey entry.identity.key = true
  rule : ∀ entry ∈ entries, entry.hasOperators = true →
    ∃ rule, registry.Provides entry.identity.language rule ∧
      ∀ operator ∈ (Template.parse entry.template).operators, operator.count ≠ none →
        operator.slots.length ≤ rule.forms.length

/-- The issues that an entry adds to those of the entries before it, kind by kind. -/
structure Adds (registry : Registry) (before : List Entry) (entry : Entry)
    (added : List Issue) : Prop where
  own : ∀ issue ∈ added, issue.identity = entry.identity
  duplicate : issuesOfKind "duplicate" added =
    if ∃ earlier ∈ before, earlier.identity = entry.identity then [⟨entry.identity, .duplicate⟩]
    else []
  invalidKey : issuesOfKind "invalid-key" added =
    if isValidKey entry.identity.key then []
    else [⟨entry.identity, .invalidKey entry.identity.key⟩]
  noPluralizer : issuesOfKind "no-pluralizer" added =
    match registry.ruleOrCardinal entry.identity.language with
    | .ok _ => []
    | .error cause =>
      if entry.hasOperators ∧ ∀ earlier ∈ before,
        earlier.identity.language = entry.identity.language → earlier.hasOperators = false
      then [⟨entry.identity, .noPluralizer cause⟩] else []
  extraSlots : issuesOfKind "extra-slots" added =
    match registry.ruleOrCardinal entry.identity.language with
    | .ok rule => ((Template.parse entry.template).excess rule).map fun operator =>
      ⟨entry.identity, .extraSlots operator.forms operator.slots.length entry.identity.language
        rule.forms.length⟩
    | .error _ => []

end Entry

namespace Inspection

variable {registry : Registry} {inspection : Inspection} {entry : Entry} {entries : List Entry}

def problems (registry : Registry) (inspection : Inspection) (entry : Entry) : List Problem :=
  (if entry.identity ∈ inspection.identities then [.duplicate] else []) ++ keyProblems entry ++
    operatorProblems registry inspection.withoutRule entry

theorem issues_add :
    (add registry inspection entry).issues =
      inspection.issues ++ (problems registry inspection entry).map (⟨entry.identity, ·⟩) := rfl

theorem slotProblems_eq (language : String) (rule : Rule) (template : Template) :
    slotProblems language rule template = (template.excess rule).map fun operator =>
      .extraSlots operator.forms operator.slots.length language rule.forms.length := by
  unfold slotProblems Template.excess
  induction template.operators with
  | nil => rfl
  | cons operator rest ih =>
    by_cases more : operator.count.isSome ∧ rule.forms.length < operator.slots.length
    · rw [List.filterMap_cons, if_pos more, List.filter_cons_of_pos (by simpa using more), ih]
      rfl
    · rw [List.filterMap_cons, if_neg more, List.filter_cons_of_neg (by simpa using more), ih]

theorem operatorProblems_of_ok {rule : Rule}
    (found : registry.ruleOrCardinal entry.identity.language = .ok rule)
    (withoutRule : List String) :
    operatorProblems registry withoutRule entry =
      ((Template.parse entry.template).excess rule).map fun operator =>
        .extraSlots operator.forms operator.slots.length entry.identity.language
          rule.forms.length := by
  rw [← slotProblems_eq]
  simp only [operatorProblems, found, ite_eq_left_iff, Bool.not_eq_true]
  intro plain
  rw [slotProblems_eq_nil_iff.2 (Template.slotsWithin_of_not_hasOperators plain rule)]

theorem operatorProblems_of_error {cause : ConfigurationError}
    (missing : registry.ruleOrCardinal entry.identity.language = .error cause)
    (withoutRule : List String) :
    operatorProblems registry withoutRule entry =
      if entry.hasOperators ∧ entry.identity.language ∉ withoutRule then [.noPluralizer cause]
      else [] := by
  simp only [operatorProblems, missing, Entry.hasOperators]
  grind

theorem mem_identities_foldl {identity : Identity} :
    identity ∈ (entries.foldl (add registry) {}).identities ↔
      ∃ earlier ∈ entries, earlier.identity = identity := by
  rw [← List.mem_toFinset, toFinset_identities_foldl]
  simp

/-- A language is set down with the first entry that has operators in it and finds no rule. -/
theorem mem_withoutRule_add {language : String} :
    language ∈ (add registry inspection entry).withoutRule ↔
      language ∈ inspection.withoutRule ∨
        (entry.identity.language = language ∧ entry.hasOperators = true) ∧
          ∃ cause, registry.ruleOrCardinal language = .error cause := by
  simp only [add]
  cases found : registry.ruleOrCardinal entry.identity.language with
  | ok rule =>
    have provided : ¬((entry.identity.language = language ∧ entry.hasOperators = true) ∧
        ∃ cause, registry.ruleOrCardinal language = .error cause) := by
      rintro ⟨⟨rfl, -⟩, cause, missing⟩
      cases found.symm.trans missing
    rw [operatorProblems_of_ok found]
    simp [provided]
  | error cause =>
    rw [operatorProblems_of_error found]
    grind

theorem mem_withoutRule_foldl {language : String} :
    language ∈ (entries.foldl (add registry) inspection).withoutRule ↔
      language ∈ inspection.withoutRule ∨
        (∃ entry ∈ entries, entry.identity.language = language ∧ entry.hasOperators = true) ∧
          ∃ cause, registry.ruleOrCardinal language = .error cause := by
  induction entries generalizing inspection with
  | nil => simp
  | cons entry rest ih =>
    rw [List.foldl_cons, ih, mem_withoutRule_add]
    simp only [List.exists_mem_cons_iff]
    grind

theorem issuesOfKind_map (kind : String) (identity : Identity) (problems : List Problem) :
    issuesOfKind kind (problems.map (⟨identity, ·⟩)) =
      (problems.filter (·.kind == kind)).map (⟨identity, ·⟩) := by
  rw [issuesOfKind, List.filter_map]
  rfl

theorem problems_foldl (registry : Registry) (before : List Entry) (entry : Entry) :
    problems registry (before.foldl (add registry) {}) entry =
      (if ∃ earlier ∈ before, earlier.identity = entry.identity then [.duplicate] else []) ++
      (if isValidKey entry.identity.key then [] else [.invalidKey entry.identity.key]) ++
      match registry.ruleOrCardinal entry.identity.language with
      | .ok rule => ((Template.parse entry.template).excess rule).map fun operator =>
        .extraSlots operator.forms operator.slots.length entry.identity.language rule.forms.length
      | .error cause =>
        if entry.hasOperators ∧ ∀ earlier ∈ before,
          earlier.identity.language = entry.identity.language → earlier.hasOperators = false
        then [.noPluralizer cause] else [] := by
  simp only [problems, keyProblems, mem_identities_foldl]
  cases found : registry.ruleOrCardinal entry.identity.language with
  | ok rule => rw [operatorProblems_of_ok found]
  | error cause =>
    rw [operatorProblems_of_error found]
    simp [mem_withoutRule_foldl, found]

theorem adds_problems (registry : Registry) (before : List Entry) (entry : Entry) :
    entry.Adds registry before
      ((problems registry (before.foldl (add registry) {}) entry).map (⟨entry.identity, ·⟩)) := by
  rw [problems_foldl]
  constructor
  · intro issue member
    obtain ⟨problem, -, rfl⟩ := List.mem_map.1 member
    rfl
  all_goals
    rw [issuesOfKind_map, List.filter_append, List.filter_append]
    cases registry.ruleOrCardinal entry.identity.language <;>
      simp [Problem.kind, List.filter_map, Function.comp_def, apply_ite (List.filter _),
        apply_ite (List.map _)]

end Inspection

theorem Template.slotsWithin_iff {template : Template} {rule : Rule} :
    template.SlotsWithin rule ↔ ∀ operator ∈ template.operators, operator.count ≠ none →
      operator.slots.length ≤ rule.forms.length := by
  simp only [SlotsWithin, Option.isSome_iff_ne_none]
  exact forall₃_congr fun _ _ _ => forall_lt_iff_le

theorem Template.excess_eq_nil_iff {template : Template} {rule : Rule} :
    template.excess rule = [] ↔ template.SlotsWithin rule := by
  rw [excess, List.filter_eq_nil_iff, slotsWithin_iff]
  simp [Option.isSome_iff_ne_none]

section

variable {registry : Registry} {entries : List Entry} {entry : Entry}

theorem findIssues_append_singleton (entries : List Entry) (entry : Entry) (registry : Registry) :
    findIssues (entries ++ [entry]) registry = findIssues entries registry ++
      (Inspection.problems registry (entries.foldl (Inspection.add registry) {}) entry).map
        (⟨entry.identity, ·⟩) := by
  rw [findIssues, List.foldl_append, List.foldl_cons, List.foldl_nil, Inspection.issues_add,
    findIssues]

theorem findIssues_prefix (entries later : List Entry) (registry : Registry) :
    findIssues entries registry <+: findIssues (entries ++ later) registry := by
  rw [findIssues, findIssues, List.foldl_append]
  exact Inspection.issues_prefix_foldl registry _ later

theorem Entry.AllSound.of_append {later : List Entry}
    (sound : Entry.AllSound registry (entries ++ later)) : Entry.AllSound registry entries where
  different := by
    have different := sound.different
    rw [List.map_append] at different
    exact different.of_append_left
  validKey entry member := sound.validKey entry (List.mem_append_left _ member)
  rule entry member := sound.rule entry (List.mem_append_left _ member)

theorem Entry.AllSound.problems_eq_nil (sound : Entry.AllSound registry (entries ++ [entry])) :
    Inspection.problems registry (entries.foldl (Inspection.add registry) {}) entry = [] := by
  have last : entry ∈ entries ++ [entry] := List.mem_append_right _ (List.mem_singleton_self entry)
  have unseen : ¬∃ earlier ∈ entries, earlier.identity = entry.identity := by
    rintro ⟨earlier, member, same⟩
    have different := sound.different
    rw [List.map_append, List.map_singleton, List.nodup_append] at different
    exact different.2.2 _ (List.mem_map_of_mem member) _ (List.mem_singleton_self _) same
  rw [Inspection.problems_foldl, if_neg unseen, if_pos (sound.validKey entry last)]
  -- What is left are the operators: a rule that is provided is the one that is looked up.
  have provided := sound.rule entry last
  simp only [← Registry.ruleOrCardinal_eq_ok_iff, ← Template.slotsWithin_iff] at provided
  cases found : registry.ruleOrCardinal entry.identity.language with
  | ok rule =>
    have within : (Template.parse entry.template).SlotsWithin rule := by
      cases operators : entry.hasOperators with
      | false => exact Template.slotsWithin_of_not_hasOperators operators rule
      | true =>
        obtain ⟨_, same, within⟩ := provided operators
        obtain rfl := Except.ok.inj (found.symm.trans same)
        exact within
    simp [Template.excess_eq_nil_iff.2 within]
  | error cause =>
    have plain : ¬entry.hasOperators = true := fun operators => by
      obtain ⟨_, same, -⟩ := provided operators
      cases found.symm.trans same
    simp [plain]

theorem findIssues_eq_nil_iff :
    findIssues entries registry = [] ↔ Entry.AllSound registry entries := by
  constructor
  · intro clean
    refine ⟨?_, fun entry member => isValidKey_of_findIssues_eq_nil clean member, ?_⟩
    · rw [← duplicateCount_eq_zero_iff entries registry, clean, duplicateCount_nil]
    · intro entry member operators
      obtain ⟨rule, found, within⟩ := rule_of_findIssues_eq_nil clean member operators
      exact ⟨rule, Registry.ruleOrCardinal_eq_ok_iff.1 found, Template.slotsWithin_iff.1 within⟩
  · induction entries using List.reverseRecOn with
    | nil => exact fun _ => rfl
    | append_singleton entries entry ih =>
      intro sound
      rw [findIssues_append_singleton, ih sound.of_append, sound.problems_eq_nil]
      rfl

theorem nodup_noPluralizer :
    ((issuesOfKind "no-pluralizer" (findIssues entries registry)).map
        (·.identity.language)).Nodup ∧
      ∀ issue ∈ issuesOfKind "no-pluralizer" (findIssues entries registry),
        ∃ entry ∈ entries, entry.identity.language = issue.identity.language ∧
          entry.hasOperators = true := by
  induction entries using List.reverseRecOn with
  | nil => simp [findIssues, issuesOfKind]
  | append_singleton entries last ih =>
    obtain ⟨different, needed⟩ := ih
    -- The entries that need the rules which are missing so far are still there.
    have kept : ∀ issue ∈ issuesOfKind "no-pluralizer" (findIssues entries registry),
        ∃ entry ∈ entries ++ [last], entry.identity.language = issue.identity.language ∧
          entry.hasOperators = true := by
      intro issue member
      obtain ⟨entry, inside, needs⟩ := needed issue member
      exact ⟨entry, List.mem_append_left _ inside, needs⟩
    rw [findIssues_append_singleton, issuesOfKind_append,
      (Inspection.adds_problems registry entries last).noPluralizer]
    split
    · rw [List.append_nil]
      exact ⟨different, kept⟩
    split
    · next cause _ first =>
      obtain ⟨operators, unneeded⟩ := first
      constructor
      · rw [List.map_append, List.map_singleton, List.nodup_append]
        refine ⟨different, List.nodup_singleton _, ?_⟩
        -- A report of the same language before would stem from an entry that needs its rule.
        rintro _ inOld _ inNew rfl
        obtain ⟨issue, member, same⟩ := List.mem_map.1 inOld
        obtain ⟨entry, inside, language, needs⟩ := needed issue member
        rw [unneeded entry inside
          (language.trans (same.trans (List.mem_singleton.1 inNew)))] at needs
        exact Bool.false_ne_true needs
      · rw [List.forall_mem_append, List.forall_mem_singleton]
        exact ⟨kept, last, List.mem_append_right _ (List.mem_singleton_self last), rfl, operators⟩
    · rw [List.append_nil]
      exact ⟨different, kept⟩

/-- An inspection is exact. It finds nothing just in sound entries, it takes back nothing when
entries follow, each entry adds the issues that it has after the ones before it, and no language
is reported twice for want of a rule. -/
theorem findIssues_exact (entries : List Entry) (registry : Registry) :
    (findIssues entries registry = [] ↔ Entry.AllSound registry entries) ∧
      (∀ later, findIssues entries registry <+: findIssues (entries ++ later) registry) ∧
      (∀ entry, ∃ added,
        findIssues (entries ++ [entry]) registry = findIssues entries registry ++ added ∧
          entry.Adds registry entries added) ∧
      ((issuesOfKind "no-pluralizer" (findIssues entries registry)).map
        (·.identity.language)).Nodup := by
  refine ⟨findIssues_eq_nil_iff, fun later => findIssues_prefix entries later registry, ?_,
    nodup_noPluralizer.1⟩
  intro entry
  exact ⟨_, findIssues_append_singleton entries entry registry,
    Inspection.adds_problems registry entries entry⟩

end

end Phrasebook
