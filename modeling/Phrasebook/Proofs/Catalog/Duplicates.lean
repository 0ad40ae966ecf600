import Phrasebook.Catalog.Inspection
import Phrasebook.Proofs.Store.Contents

/-! Duplicates that an inspection reports, and templates that a store loses.

An inspection compares identities and a store compares storage keys. Every entry
is either reported as a duplicate or the first of its identity, so the reports and
the identities together are as many as the entries. The store has as many
templates as there are storage keys. The reports account for all losses just when
no storage key stands for two identities.
-/

set_option autoImplicit false

namespace Phrasebook

def duplicateCount (issues : List Issue) : Nat :=
  issues.countP fun issue => issue.problem.kind == "duplicate"

/-- No storage key stands for two identities. -/
def StorageKeysDiffer (entries : List Entry) : Prop :=
  ∀ first ∈ entries, ∀ second ∈ entries,
    first.identity.storageKey = second.identity.storageKey → first.identity = second.identity

@[simp] theorem duplicateCount_nil : duplicateCount [] = 0 := rfl

@[simp] theorem duplicateCount_append (issues later : List Issue) :
    duplicateCount (issues ++ later) = duplicateCount issues + duplicateCount later :=
  List.countP_append

namespace Inspection

theorem kind_of_mem_keyProblems {entry : Entry} {problem : Problem}
    (member : problem ∈ keyProblems entry) : problem.kind = "invalid-key" := by
  unfold keyProblems at member
  split at member
  · simp at member
  · rw [List.mem_singleton.1 member]
    rfl

theorem kind_of_mem_slotProblems {language : String} {rule : Rule} {template : Template}
    {problem : Problem} (member : problem ∈ slotProblems language rule template) :
    problem.kind = "extra-slots" := by
  obtain ⟨operator, -, found⟩ := List.mem_filterMap.1 member
  split at found
  · obtain rfl := Option.some.inj found
    rfl
  · simp at found

theorem kind_of_mem_operatorProblems {registry : Registry} {withoutRule : List String}
    {entry : Entry} {problem : Problem}
    (member : problem ∈ operatorProblems registry withoutRule entry) :
    problem.kind = "extra-slots" ∨ problem.kind = "no-pluralizer" := by
  simp only [operatorProblems] at member
  split at member
  · split at member
    · exact .inl (kind_of_mem_slotProblems member)
    · split at member
      · simp at member
      · rw [List.mem_singleton.1 member]
        exact .inr rfl
  · simp at member

theorem duplicateCount_of_forall_ne (identity : Identity) {problems : List Problem}
    (other : ∀ problem ∈ problems, problem.kind ≠ "duplicate") :
    duplicateCount (problems.map (⟨identity, ·⟩)) = 0 := by
  rw [duplicateCount, List.countP_eq_zero]
  intro issue member
  obtain ⟨problem, inside, rfl⟩ := List.mem_map.1 member
  simpa using other problem inside

theorem duplicateCount_add (registry : Registry) (inspection : Inspection) (entry : Entry) :
    duplicateCount (add registry inspection entry).issues =
      duplicateCount inspection.issues +
        if entry.identity ∈ inspection.identities then 1 else 0 := by
  -- The other checks of the entry report nothing of this kind.
  have inKey : ∀ problem ∈ keyProblems entry, problem.kind ≠ "duplicate" := by
    intro problem member
    rw [kind_of_mem_keyProblems member]
    decide
  have inOperators : ∀ problem ∈ operatorProblems registry inspection.withoutRule entry,
      problem.kind ≠ "duplicate" := by
    intro problem member
    rcases kind_of_mem_operatorProblems member with kind | kind <;> rw [kind] <;> decide
  simp only [add, List.map_append, duplicateCount_append, duplicateCount_of_forall_ne _ inKey,
    duplicateCount_of_forall_ne _ inOperators, Nat.add_zero]
  split <;> rfl

@[simp] theorem identities_add (registry : Registry) (inspection : Inspection) (entry : Entry) :
    (add registry inspection entry).identities = entry.identity :: inspection.identities := rfl

theorem duplicateCount_add_card (registry : Registry) (inspection : Inspection) (entry : Entry) :
    duplicateCount (add registry inspection entry).issues +
        (add registry inspection entry).identities.toFinset.card =
      duplicateCount inspection.issues + inspection.identities.toFinset.card + 1 := by
  rw [duplicateCount_add, identities_add, List.toFinset_cons, Finset.card_insert_eq_ite]
  simp only [List.mem_toFinset]
  split <;> omega

theorem duplicateCount_foldl_add_card (registry : Registry) (inspection : Inspection)
    (entries : List Entry) :
    duplicateCount (entries.foldl (add registry) inspection).issues +
        (entries.foldl (add registry) inspection).identities.toFinset.card =
      duplicateCount inspection.issues + inspection.identities.toFinset.card + entries.length := by
  induction entries generalizing inspection with
  | nil => simp
  | cons entry rest ih =>
    rw [List.foldl_cons, ih, duplicateCount_add_card, List.length_cons]
    omega

theorem toFinset_identities_foldl (registry : Registry) (inspection : Inspection)
    (entries : List Entry) :
    (entries.foldl (add registry) inspection).identities.toFinset =
      inspection.identities.toFinset ∪ (entries.map (·.identity)).toFinset := by
  induction entries generalizing inspection with
  | nil => simp
  | cons entry rest ih =>
    rw [List.foldl_cons, ih, identities_add, List.toFinset_cons, List.map_cons, List.toFinset_cons,
      Finset.insert_union, Finset.union_insert]

end Inspection

/-- Every entry is a reported duplicate or the first of its identity. -/
theorem duplicateCount_findIssues (entries : List Entry) (registry : Registry) :
    duplicateCount (findIssues entries registry) +
      (entries.map (·.identity)).toFinset.card = entries.length := by
  have total := Inspection.duplicateCount_foldl_add_card registry {} entries
  rw [Inspection.toFinset_identities_foldl] at total
  simpa [findIssues] using total

theorem duplicateCount_eq_zero_iff (entries : List Entry) (registry : Registry) :
    duplicateCount (findIssues entries registry) = 0 ↔ (entries.map (·.identity)).Nodup := by
  have total := duplicateCount_findIssues entries registry
  have nodup := Multiset.toFinset_card_eq_card_iff_nodup
    (m := ((entries.map (·.identity) : List Identity) : Multiset Identity))
  rw [List.toFinset_coe, Multiset.coe_card, List.length_map, Multiset.coe_nodup] at nodup
  rw [← nodup]
  omega

/-- The store is as large as the number of identities just when no two share a key. -/
theorem size_ofEntries_eq_iff (entries : List Entry) :
    (Store.ofEntries entries).size = (entries.map (·.identity)).toFinset.card ↔
      StorageKeysDiffer entries := by
  have image : (entries.map (·.identity.storageKey)).toFinset =
      (entries.map (·.identity)).toFinset.image Identity.storageKey := by
    ext key
    simp
  rw [Store.size_ofEntries, image, Finset.card_image_iff]
  simp [Set.InjOn, StorageKeysDiffer]

theorem size_ofEntries_le (entries : List Entry) :
    (Store.ofEntries entries).size ≤ entries.length := by
  rw [Store.size_ofEntries]
  exact (List.toFinset_card_le _).trans_eq (List.length_map _)

theorem get?_ofEntries {entries : List Entry} (nodup : (entries.map (·.identity)).Nodup)
    (differ : StorageKeysDiffer entries) {entry : Entry} (member : entry ∈ entries) :
    (Store.ofEntries entries).get? entry.identity = some entry.template := by
  apply Store.get?_setAll_of_nodup _ member
  rw [List.nodup_map_iff_inj_on nodup.of_map]
  intro first inFirst second inSecond same
  exact List.inj_on_of_nodup_map nodup inFirst inSecond (differ first inFirst second inSecond same)

/-- The reported duplicates are the templates that the store loses just when no
storage key stands for two identities. In particular a list without reports then
loses nothing, and only then. -/
theorem duplicate_reports_exact_iff (entries : List Entry) (registry : Registry) :
    (duplicateCount (findIssues entries registry) =
        entries.length - (Store.ofEntries entries).size ↔ StorageKeysDiffer entries) ∧
      (duplicateCount (findIssues entries registry) = 0 →
        ((Store.ofEntries entries).size = entries.length ∧
          (∀ entry ∈ entries, (Store.ofEntries entries).get? entry.identity = some entry.template) ↔
          StorageKeysDiffer entries)) := by
  -- The reports count repeated identities, and the store loses repeated storage keys.
  have total := duplicateCount_findIssues entries registry
  have bound := size_ofEntries_le entries
  have exact_iff := size_ofEntries_eq_iff entries
  constructor
  · rw [← exact_iff]
    omega
  · intro clean
    constructor
    · rintro ⟨full, -⟩
      rw [← exact_iff]
      omega
    · intro differ
      have size := exact_iff.2 differ
      refine ⟨by omega, fun entry member => ?_⟩
      exact get?_ofEntries ((duplicateCount_eq_zero_iff entries registry).1 clean) differ member

def zeroSections : List Entry :=
  [⟨⟨"k", "en", .number 0⟩, "A"⟩, ⟨⟨"k", "en", .name "0" (by decide)⟩, "B"⟩]

/-- Two identities with one storage key are not reported, and the first template is lost. -/
theorem zeroSections_lose_template :
    duplicateCount (findIssues zeroSections .english) = 0 ∧
      zeroSections.length - (Store.ofEntries zeroSections).size = 1 ∧
      (Store.ofEntries zeroSections).get? ⟨"k", "en", .number 0⟩ = some "B" := by
  refine ⟨?_, ?_, ?_⟩
  · rw [duplicateCount_eq_zero_iff]
    decide
  · rw [Store.size_ofEntries]
    decide
  · decide

end Phrasebook
