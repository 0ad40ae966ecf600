import Mathlib.Data.List.Induction
import Phrasebook.Store

/-! Runs of changes to a store.

Each change amounts to writes of single templates, one after the other. Under a
storage key a store holds what the last write under that key has left there.
-/

set_option autoImplicit false

namespace Phrasebook.Store

inductive Write where
  | set (entry : Entry)
  | remove (identity : Identity)

def Write.identity : Write → Identity
  | .set entry => entry.identity
  | .remove identity => identity

def Write.template? : Write → Option String
  | .set entry => some entry.template
  | .remove _ => none

def write (store : Store) : Write → Store
  | .set entry => store.set entry
  | .remove identity => store.remove identity

def writeAll (store : Store) (writes : List Write) : Store := writes.foldl write store

inductive Change where
  | set (entry : Entry)
  | setAll (entries : List Entry)
  | remove (identity : Identity)
  | removeAll (identities : List Identity)

def change (store : Store) : Change → Store
  | .set entry => store.set entry
  | .setAll entries => store.setAll entries
  | .remove identity => store.remove identity
  | .removeAll identities => store.removeAll identities

def changeAll (store : Store) (changes : List Change) : Store := changes.foldl change store

def Change.writes : Change → List Write
  | .set entry => [.set entry]
  | .setAll entries => entries.map .set
  | .remove identity => [.remove identity]
  | .removeAll identities => identities.map .remove

def lastWrite? (key : String) (writes : List Write) : Option Write :=
  (writes.filter (·.identity.storageKey == key)).getLast?

theorem change_eq_writeAll (store : Store) (step : Change) :
    store.change step = store.writeAll step.writes := by
  cases step with
  | set entry => rfl
  | setAll entries => rw [writeAll, Change.writes, List.foldl_map]; rfl
  | remove identity => rfl
  | removeAll identities => rw [writeAll, Change.writes, List.foldl_map]; rfl

theorem changeAll_eq_writeAll (store : Store) (changes : List Change) :
    store.changeAll changes = store.writeAll (changes.flatMap Change.writes) := by
  induction changes generalizing store with
  | nil => rfl
  | cons step rest ih =>
    have next : store.changeAll (step :: rest) = (store.change step).changeAll rest := rfl
    rw [next, ih, change_eq_writeAll, List.flatMap_cons, writeAll, writeAll, writeAll,
      List.foldl_append]

theorem get?_write (store : Store) (write : Write) (identity : Identity) :
    (store.write write).get? identity =
      if write.identity.storageKey = identity.storageKey then write.template?
      else store.get? identity := by
  cases write with
  | set entry => exact get?_set store entry identity
  | remove removed => exact get?_remove store removed identity

theorem lastWrite?_append_singleton (key : String) (earlier : List Write) (last : Write) :
    lastWrite? key (earlier ++ [last]) =
      if last.identity.storageKey = key then some last else lastWrite? key earlier := by
  rw [lastWrite?, List.filter_append]
  split
  · next same => simp [same]
  · next other => simp [other, lastWrite?]

theorem writeAll_append_singleton (store : Store) (earlier : List Write) (last : Write) :
    store.writeAll (earlier ++ [last]) = (store.writeAll earlier).write last := by
  simp [writeAll]

/-- A lookup gives what the last write under its storage key has left. -/
theorem get?_writeAll (store : Store) (writes : List Write) (identity : Identity) :
    (store.writeAll writes).get? identity =
      match lastWrite? identity.storageKey writes with
      | some write => write.template?
      | none => store.get? identity := by
  -- The last write decides, so the induction takes writes off the end.
  induction writes using List.reverseRecOn with
  | nil => rfl
  | append_singleton earlier last ih =>
    rw [writeAll_append_singleton, lastWrite?_append_singleton, get?_write]
    split
    · rfl
    · exact ih

theorem get?_empty_changeAll (changes : List Change) (identity : Identity) :
    (empty.changeAll changes).get? identity =
      (lastWrite? identity.storageKey (changes.flatMap Change.writes)).bind Write.template? := by
  rw [changeAll_eq_writeAll, get?_writeAll]
  cases lastWrite? identity.storageKey (changes.flatMap Change.writes) <;> simp

end Phrasebook.Store
