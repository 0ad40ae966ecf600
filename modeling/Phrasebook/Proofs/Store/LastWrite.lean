import Phrasebook.Proofs.Store.Contents
import Phrasebook.Proofs.Store.Writes

/-! A store after any run of changes is a map in which the last write wins.

Lookups, the number of templates and the independence of the order of entries
with different storage keys all follow from what single writes do.
-/

set_option autoImplicit false

namespace Phrasebook.Store

/-- A template was set under a storage key, and nothing was written there later. -/
def LastSet (writes : List Write) (key template : String) : Prop :=
  ∃ earlier entry later, writes = earlier ++ .set entry :: later ∧
    entry.identity.storageKey = key ∧ entry.template = template ∧
    ∀ write ∈ later, write.identity.storageKey ≠ key

def Change.singles : Change → List Change
  | .set entry => [.set entry]
  | .setAll entries => entries.map .set
  | .remove identity => [.remove identity]
  | .removeAll identities => identities.map .remove

theorem lastWrite?_eq_some_iff {key : String} {writes : List Write} {write : Write} :
    lastWrite? key writes = some write ↔
      ∃ earlier later, writes = earlier ++ write :: later ∧ write.identity.storageKey = key ∧
        ∀ other ∈ later, other.identity.storageKey ≠ key := by
  induction writes using List.reverseRecOn with
  | nil => simp [lastWrite?]
  | append_singleton before last ih =>
    rw [lastWrite?_append_singleton]
    constructor
    · split
      · next same =>
        rintro ⟨⟩
        exact ⟨before, [], rfl, same, by simp⟩
      · next other =>
        intro found
        obtain ⟨earlier, later, rfl, same, rest⟩ := ih.1 found
        refine ⟨earlier, later ++ [last], by simp, same, ?_⟩
        intro write member
        rcases List.mem_append.1 member with member | member
        · exact rest write member
        · exact List.mem_singleton.1 member ▸ other
    · rintro ⟨earlier, later, shape, same, rest⟩
      rcases List.eq_nil_or_concat later with rfl | ⟨between, final, rfl⟩
      · obtain rfl := List.singleton_inj.1 (List.append_inj' shape rfl).2
        rw [if_pos same]
      -- The write is not the last of all, so it is found among those before.
      · rw [List.concat_eq_append, ← List.cons_append, ← List.append_assoc] at shape
        obtain ⟨rfl, final⟩ := List.append_inj' shape rfl
        obtain rfl := List.singleton_inj.1 final
        rw [if_neg (rest last (by simp)), ih]
        exact ⟨earlier, between, rfl, same, fun other member => rest other (by simp [member])⟩

theorem get?_ofEntries_changeAll (entries : List Entry) (changes : List Change)
    (identity : Identity) :
    ((ofEntries entries).changeAll changes).get? identity =
      (lastWrite? identity.storageKey
        (entries.map Write.set ++ changes.flatMap Change.writes)).bind Write.template? :=
  get?_empty_changeAll (.setAll entries :: changes) identity

theorem get?_eq_some_iff_lastSet {entries : List Entry} {changes : List Change}
    {identity : Identity} {template : String} :
    ((ofEntries entries).changeAll changes).get? identity = some template ↔
      LastSet (entries.map Write.set ++ changes.flatMap Change.writes)
        identity.storageKey template := by
  rw [get?_ofEntries_changeAll, Option.bind_eq_some_iff]
  constructor
  · rintro ⟨write, last, left⟩
    obtain ⟨earlier, later, shape, same, rest⟩ := lastWrite?_eq_some_iff.1 last
    cases write with
    | set entry => exact ⟨earlier, entry, later, shape, same, Option.some.inj left, rest⟩
    | remove removed => contradiction
  · rintro ⟨earlier, entry, later, shape, same, rfl, rest⟩
    exact ⟨.set entry, lastWrite?_eq_some_iff.2 ⟨earlier, later, shape, same, rest⟩, rfl⟩

def IsAddressed (store : Store) : Prop :=
  ∀ key ∈ store.keys, ∃ identity : Identity, identity.storageKey = key

theorem IsAddressed.write {store : Store} (addressed : store.IsAddressed) (write : Write) :
    (store.write write).IsAddressed := by
  intro key member
  cases write with
  | set entry =>
    rw [Store.write, keys_set, Finset.mem_insert] at member
    rcases member with rfl | member
    · exact ⟨entry.identity, rfl⟩
    · exact addressed key member
  | remove identity =>
    rw [Store.write, keys_remove] at member
    exact addressed key (Finset.mem_of_mem_erase member)

theorem IsAddressed.writeAll {store : Store} (addressed : store.IsAddressed)
    (writes : List Write) : (store.writeAll writes).IsAddressed := by
  induction writes generalizing store with
  | nil => exact addressed
  | cons write rest ih => exact ih (addressed.write write)

theorem isAddressed_changeAll (entries : List Entry) (changes : List Change) :
    ((ofEntries entries).changeAll changes).IsAddressed := by
  have start : empty.IsAddressed := by simp [IsAddressed]
  have whole : (ofEntries entries).changeAll changes =
      empty.changeAll (.setAll entries :: changes) := rfl
  rw [whole, changeAll_eq_writeAll]
  apply start.writeAll

theorem mem_keys_iff_of_isAddressed {store : Store} (addressed : store.IsAddressed)
    (key : String) : key ∈ store.keys ↔
      ∃ identity : Identity, identity.storageKey = key ∧ (store.get? identity).isSome = true := by
  constructor
  · intro member
    obtain ⟨identity, rfl⟩ := addressed key member
    exact ⟨identity, rfl, storageKey_mem_keys.1 member⟩
  · rintro ⟨identity, rfl, found⟩
    exact storageKey_mem_keys.2 found

theorem change_eq_changeAll_singles (store : Store) (step : Change) :
    store.change step = store.changeAll step.singles := by
  rw [change_eq_writeAll, changeAll_eq_writeAll]
  congr 1
  cases step with
  | set entry => rfl
  | setAll entries =>
    rw [Change.singles, List.flatMap_map]
    exact List.map_eq_flatMap
  | remove identity => rfl
  | removeAll identities =>
    rw [Change.singles, List.flatMap_map]
    exact List.map_eq_flatMap

theorem set_comm (store : Store) {first second : Entry}
    (different : first.identity.storageKey ≠ second.identity.storageKey) :
    (store.set first).set second = (store.set second).set first := by
  unfold set
  congr 1
  apply Std.ExtTreeMap.ext_getElem?
  intro key
  simp only [Std.ExtTreeMap.getElem?_insert]
  grind

theorem setAll_perm {entries others : List Entry} (permuted : others.Perm entries)
    (different : (entries.map (·.identity.storageKey)).Nodup) (store : Store) :
    store.setAll others = store.setAll entries := by
  refine (permuted.symm.foldl_eq' ?_ store).symm
  intro first firstMember second secondMember current
  by_cases same : first.identity.storageKey = second.identity.storageKey
  · rw [List.inj_on_of_nodup_map different firstMember secondMember same]
  · exact set_comm current same

/-- What a store holds that was collected from entries, none or any, and then changed.
A lookup finds the template of the last write under its storage key, if that set one.
The size counts the storage keys under which something is found. A change of many
templates amounts to single changes in their order. Collecting is setting all entries
in the empty store, and their order does not matter if their storage keys differ. -/
theorem changeAll_lastWriteWins (entries : List Entry) (changes : List Change) :
    let store := (ofEntries entries).changeAll changes
    (∀ identity template, store.get? identity = some template ↔
      LastSet (entries.map Write.set ++ changes.flatMap Change.writes)
        identity.storageKey template) ∧
    (store.keys.card = store.size ∧ ∀ key, key ∈ store.keys ↔
      ∃ identity : Identity, identity.storageKey = key ∧
        (store.get? identity).isSome = true) ∧
    (∀ step, store.change step = store.changeAll step.singles) ∧
    ofEntries entries = empty.change (.setAll entries) ∧
    ∀ others : List Entry, others.Perm entries →
      (entries.map (·.identity.storageKey)).Nodup → ofEntries others = ofEntries entries := by
  refine ⟨fun identity template => get?_eq_some_iff_lastSet, ⟨card_keys _, ?_⟩, ?_, rfl, ?_⟩
  · exact mem_keys_iff_of_isAddressed (isAddressed_changeAll entries changes)
  · intro step
    exact change_eq_changeAll_singles _ step
  · intro others permuted different
    exact setAll_perm permuted different empty

/-- Two entries whose sections differ, and one that shares the storage key of the first. -/
def numbered : Entry := ⟨⟨"k", "en", .number 7⟩, "A"⟩

def titled : Entry := ⟨⟨"k", "en", .name "title" (by decide)⟩, "B"⟩

def sevenNamed : Entry := ⟨⟨"k", "en", .name "7" (by decide)⟩, "C"⟩

/-- The two entries give one store in either order, and a later template under the shared
storage key takes the place of the first. -/
theorem numbered_titled_swapped :
    [titled, numbered].Perm [numbered, titled] ∧
      ([numbered, titled].map (·.identity.storageKey)).Nodup ∧
      ofEntries [titled, numbered] = ofEntries [numbered, titled] ∧
      ((ofEntries [numbered, titled]).changeAll
        [.removeAll [titled.identity], .setAll [sevenNamed]]).get? numbered.identity = some "C" := by
  have permuted : [titled, numbered].Perm [numbered, titled] := .swap _ _ []
  have different : ([numbered, titled].map (·.identity.storageKey)).Nodup := by decide
  obtain ⟨found, -, -, -, same⟩ := changeAll_lastWriteWins [numbered, titled]
    [.removeAll [titled.identity], .setAll [sevenNamed]]
  refine ⟨permuted, different, same _ permuted different, (found _ _).2 ?_⟩
  exact ⟨[.set numbered, .set titled, .remove titled.identity], sevenNamed, [], rfl, by decide, rfl,
    nofun⟩

end Phrasebook.Store
