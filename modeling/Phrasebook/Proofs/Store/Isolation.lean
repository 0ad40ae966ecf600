import Phrasebook.Proofs.Engine.Actions
import Phrasebook.Proofs.Identity.StorageKey
import Phrasebook.Proofs.Store.Writes

/-! Whether a lookup can find what was stored for another identity.

It cannot if the identity shares its storage key with no other, that is, if its
language and its section have no slashes of their own. The one slash that is allowed,
a section that is nothing else, rests on every section having a text to show.
-/

set_option autoImplicit false

namespace Phrasebook.Store

/-- Whatever has been changed, the template that is found was last stored for the same
language, section and key. -/
def Isolates (identity : Identity) : Prop :=
  ∀ (changes : List Change) (template : String),
    (empty.changeAll changes).get? identity = some template →
      ∃ entry, lastWrite? identity.storageKey (changes.flatMap Change.writes) = some (.set entry) ∧
        entry.template = template ∧ entry.identity.parts = identity.parts

theorem storageKey_of_lastWrite? {key : String} {writes : List Write} {write : Write}
    (last : lastWrite? key writes = some write) : write.identity.storageKey = key := by
  have member := List.mem_of_getLast? last
  simpa using (List.mem_filter.1 member).2

theorem exists_entry_of_get? {changes : List Change} {identity : Identity} {template : String}
    (found : (empty.changeAll changes).get? identity = some template) :
    ∃ entry, lastWrite? identity.storageKey (changes.flatMap Change.writes) = some (.set entry) ∧
      entry.template = template ∧ entry.identity.storageKey = identity.storageKey := by
  rw [get?_empty_changeAll] at found
  obtain ⟨write, last, left⟩ := Option.bind_eq_some_iff.1 found
  cases write with
  | set entry => exact ⟨entry, last, Option.some.inj left, storageKey_of_lastWrite? last⟩
  | remove removed => simp [Write.template?] at left

theorem isolates_iff_forall {identity : Identity} :
    Isolates identity ↔
      ∀ other : Identity, other.storageKey = identity.storageKey → other.parts = identity.parts := by
  constructor
  · intro isolates other shared
    -- What is stored for the other identity is found.
    have found : (empty.changeAll [.set ⟨other, ""⟩]).get? identity = some "" := by
      simp [changeAll, change, get?_set, shared]
    obtain ⟨entry, last, -, same⟩ := isolates _ _ found
    simp [Change.writes, lastWrite?, Write.identity, shared] at last
    rw [← same, ← last]
  · intro alone changes template found
    obtain ⟨entry, last, same, shared⟩ := exists_entry_of_get? found
    exact ⟨entry, last, same, alone entry.identity shared⟩

/-- The lookups of a valid key, and so its translations, find only what was stored for
its own language and section just when no slash in these can be taken for one that
ends the language or the section. Keys are never taken for one another: two identities
with valid keys that share a storage key have the same key and differ at most in where
the language ends. -/
theorem isolates_iff {identity : Identity} (valid : isValidKey identity.key = true) :
    (Isolates identity ↔ identity.IsApart) ∧
      (∀ other : Identity, isValidKey other.key = true →
        (other.storageKey = identity.storageKey ↔
          other.key = identity.key ∧ other.place = identity.place)) ∧
      ∀ (engine : Engine) (parameters : Parameters),
        (identity, .keyUsed) ∈ Engine.auditEntries
            ((Engine.translate identity parameters).run engine).notices ↔
          (engine.store.get? identity).isSome = true := by
  refine ⟨isolates_iff_forall.trans (Identity.isApart_iff valid).symm, ?_, ?_⟩
  · intro other otherValid
    exact Identity.storageKey_eq_iff valid otherValid
  · intro engine parameters
    rw [Engine.keyUsed_mem_auditEntries_iff, Engine.hit?, if_pos valid]

/-- A section that is a slash and nothing else leaves no doubt where it begins. -/
theorem slashSection_isolated :
    isValidKey "k" = true ∧ Isolates ⟨"k", "en", .name "/" (by decide)⟩ :=
  ⟨by decide, (isolates_iff (by decide)).1.2 ⟨by decide, fun _ => rfl⟩⟩

def slashInLanguage : Identity := ⟨"k", "a/b", .name "c" (by decide)⟩

def slashInSection : Identity := ⟨"k", "a", .name "b/c" (by decide)⟩

/-- The template of the one is found, and given, for the other. -/
theorem slashInLanguage_found_for_slashInSection :
    isValidKey slashInLanguage.key = true ∧ isValidKey slashInSection.key = true ∧
      slashInLanguage.storageKey = slashInSection.storageKey ∧
      slashInLanguage.language ≠ slashInSection.language ∧
      slashInLanguage.within.display ≠ slashInSection.within.display ∧
      (empty.changeAll [.set ⟨slashInLanguage, "T"⟩]).get? slashInSection = some "T" ∧
      ((Engine.translate slashInSection ∅).run
        { store := empty.changeAll [.set ⟨slashInLanguage, "T"⟩] }).value.1 = "T" := by
  decide

end Phrasebook.Store
