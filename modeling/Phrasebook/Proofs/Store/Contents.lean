import Mathlib.Data.Finset.Card
import Mathlib.Data.Finset.Dedup
import Phrasebook.Store

/-! What a store holds after entries have been set.

The keys of a store are a finite set with as many elements as the store has
templates. Each entry adds its storage key, so entries with one key in common
leave one template, that of the last of them.
-/

set_option autoImplicit false

namespace Phrasebook.Store

/-- The storage keys under which a template is stored. -/
def keys (store : Store) : Finset String := store.templates.keys.toFinset

theorem card_keys (store : Store) : store.keys.card = store.size := by
  rw [keys, List.toFinset_card_of_nodup store.templates.nodup_keys, Std.ExtTreeMap.length_keys, size]

@[simp] theorem mem_keys {store : Store} {key : String} :
    key ∈ store.keys ↔ key ∈ store.templates := by
  simp [keys]

@[simp] theorem keys_empty : empty.keys = ∅ := by
  simp [keys, empty]

theorem keys_set (store : Store) (entry : Entry) :
    (store.set entry).keys = insert entry.identity.storageKey store.keys := by
  ext key
  simp [set, Std.ExtTreeMap.mem_insert, eq_comm (a := key)]

theorem keys_remove (store : Store) (identity : Identity) :
    (store.remove identity).keys = store.keys.erase identity.storageKey := by
  ext key
  simp [remove, Std.ExtTreeMap.mem_erase, eq_comm (a := key)]

theorem storageKey_mem_keys {store : Store} {identity : Identity} :
    identity.storageKey ∈ store.keys ↔ (store.get? identity).isSome = true := by
  simp [get?]

theorem keys_setAll (store : Store) (entries : List Entry) :
    (store.setAll entries).keys =
      store.keys ∪ (entries.map (·.identity.storageKey)).toFinset := by
  induction entries generalizing store with
  | nil => simp [setAll]
  | cons entry rest ih =>
    have step : store.setAll (entry :: rest) = (store.set entry).setAll rest := rfl
    rw [step, ih, keys_set]
    simp

theorem size_ofEntries (entries : List Entry) :
    (ofEntries entries).size = ((entries.map (·.identity.storageKey)).toFinset).card := by
  rw [← card_keys, ofEntries, keys_setAll, keys_empty, Finset.empty_union]

theorem get?_setAll_of_forall_ne {store : Store} {entries : List Entry} {identity : Identity}
    (other : ∀ entry ∈ entries, entry.identity.storageKey ≠ identity.storageKey) :
    (store.setAll entries).get? identity = store.get? identity := by
  induction entries generalizing store with
  | nil => rfl
  | cons entry rest ih =>
    rw [List.forall_mem_cons] at other
    have step : store.setAll (entry :: rest) = (store.set entry).setAll rest := rfl
    rw [step, ih other.2, get?_set, if_neg other.1]

theorem get?_setAll_of_nodup {store : Store} {entries : List Entry} {entry : Entry}
    (different : (entries.map (·.identity.storageKey)).Nodup) (member : entry ∈ entries) :
    (store.setAll entries).get? entry.identity = some entry.template := by
  induction entries generalizing store with
  | nil => simp at member
  | cons first rest ih =>
    have step : store.setAll (first :: rest) = (store.set first).setAll rest := rfl
    rw [List.map_cons, List.nodup_cons] at different
    rw [step]
    rcases List.mem_cons.1 member with rfl | member
    -- No later entry has its key, so its template is not overwritten.
    · have other : ∀ later ∈ rest, later.identity.storageKey ≠ entry.identity.storageKey :=
        fun later inside same => different.1 (List.mem_map.2 ⟨later, inside, same⟩)
      rw [get?_setAll_of_forall_ne other, get?_set, if_pos rfl]
    · exact ih different.2 member

end Phrasebook.Store
