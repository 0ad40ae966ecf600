import Phrasebook.Identity
import Std.Data.ExtTreeMap

/-! The store of templates, addressed by storage key. The last write wins. -/

set_option autoImplicit false

namespace Phrasebook

structure Store where
  templates : Std.ExtTreeMap String String

namespace Store

def empty : Store := ⟨∅⟩

def get? (store : Store) (identity : Identity) : Option String :=
  store.templates[identity.storageKey]?

def set (store : Store) (entry : Entry) : Store :=
  ⟨store.templates.insert entry.identity.storageKey entry.template⟩

def remove (store : Store) (identity : Identity) : Store :=
  ⟨store.templates.erase identity.storageKey⟩

def setAll (store : Store) (entries : List Entry) : Store := entries.foldl set store

def removeAll (store : Store) (identities : List Identity) : Store :=
  identities.foldl remove store

def ofEntries (entries : List Entry) : Store := empty.setAll entries

def size (store : Store) : Nat := store.templates.size

def isEmpty (store : Store) : Bool := store.templates.isEmpty

@[simp] theorem get?_empty (identity : Identity) : empty.get? identity = none := by
  simp [empty, get?]

theorem get?_set (store : Store) (entry : Entry) (identity : Identity) :
    (store.set entry).get? identity =
      if entry.identity.storageKey = identity.storageKey then some entry.template
      else store.get? identity := by
  simp [set, get?, Std.ExtTreeMap.getElem?_insert]

theorem get?_remove (store : Store) (removed identity : Identity) :
    (store.remove removed).get? identity =
      if removed.storageKey = identity.storageKey then none else store.get? identity := by
  simp [remove, get?, Std.ExtTreeMap.getElem?_erase]

end Store

end Phrasebook
