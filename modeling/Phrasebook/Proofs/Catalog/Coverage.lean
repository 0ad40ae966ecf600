import Phrasebook.Catalog.Coverage
import Phrasebook.Engine.Basic
import Phrasebook.Proofs.Store.Contents
import Phrasebook.Proofs.Text.ByteOrder

/-! What a coverage says about a catalog.

The keys of a language are a set, so it does not matter in which order and how often the
entries are listed. What is not missing can be looked up in the store of the catalog, where
it has the storage key of some entry of the target language.
-/

set_option autoImplicit false

namespace Phrasebook.Coverage

/-- Whether a catalog has a key, written with its section, in a language. -/
def Defines (entries : List Entry) (language key : String) : Prop :=
  ∃ entry ∈ entries, entry.identity.language = language ∧ entry.identity.sectionKey = key

variable {entries : List Entry} {source language key : String}

theorem mem_keysOf : key ∈ keysOf entries language ↔ Defines entries language key := by
  simp [keysOf, Defines, Std.ExtTreeSet.mem_ofList, and_assoc]

theorem keysOf_congr {others : List Entry} (same : ∀ entry, entry ∈ others ↔ entry ∈ entries) :
    keysOf others language = keysOf entries language := by
  apply Std.ExtTreeSet.ext_mem
  intro key
  simp only [mem_keysOf, Defines, same]

theorem pairwise_toList (keys : Std.ExtTreeSet String) : keys.toList.Pairwise (· < ·) :=
  keys.ordered_toList.imp fun less => compareOfLessAndEq_eq_lt.1 less

theorem size_keysOf :
    (keysOf entries language).size =
      ((entries.filter (·.identity.language = language)).map
        (·.identity.sectionKey)).toFinset.card := by
  have distinct : (keysOf entries language).toList.Nodup :=
    (pairwise_toList _).imp String.ne_of_lt
  rw [← Std.ExtTreeSet.length_toList, ← List.toFinset_card_of_nodup distinct]
  congr 1
  ext key
  simp [mem_keysOf, Defines, and_assoc]

theorem mem_missingKeys {first second : Std.ExtTreeSet String} :
    key ∈ missingKeys first second ↔ key ∈ first ∧ key ∉ second := by
  simp [missingKeys, ← Std.ExtTreeSet.contains_iff_mem]

theorem pairwise_missingKeys (first second : Std.ExtTreeSet String) :
    (missingKeys first second).Pairwise (Text.bytes · < Text.bytes ·) :=
  ((pairwise_toList first).filter _).imp Text.bytes_lt_of_lt

theorem length_missingKeys_le (first second : Std.ExtTreeSet String) :
    (missingKeys first second).length ≤ first.size := by
  rw [← Std.ExtTreeSet.length_toList]
  exact List.length_filter_le _ _

theorem missingKeys_self (keys : Std.ExtTreeSet String) : missingKeys keys keys = [] := by
  apply List.eq_nil_iff_forall_not_mem.2
  intro key member
  exact (mem_missingKeys.1 member).2 (mem_missingKeys.1 member).1

theorem contains_of_defines {engine : Engine} {identity : Identity}
    (collected : engine.store = .ofEntries entries)
    (defined : Defines entries identity.language identity.sectionKey) :
    engine.contains identity = true := by
  obtain ⟨entry, member, sameLanguage, sameKey⟩ := defined
  have shared : entry.identity.storageKey = identity.storageKey := by
    rw [Identity.storageKey, sameLanguage, sameKey, Identity.storageKey]
  rw [Engine.contains, ← Store.storageKey_mem_keys, collected, Store.ofEntries,
    Store.keys_setAll, ← shared]
  exact Finset.mem_union_right _ (List.mem_toFinset.2 (List.mem_map_of_mem member))

/-- A row that tells exactly which keys of the source its language lacks. -/
structure Exact (entries : List Entry) (source : String) (total : Nat) (row : Coverage) :
    Prop where
  increasing : row.missing.Pairwise (Text.bytes · < Text.bytes ·)
  mem_missing (key : String) :
    key ∈ row.missing ↔ Defines entries source key ∧ ¬Defines entries row.language key
  within : row.missing.length ≤ total
  counted : row.translated + row.missing.length = total
  stored (engine : Engine) (identity : Identity) :
    engine.store = .ofEntries entries → identity.language = row.language →
      Defines entries source identity.sectionKey → identity.sectionKey ∉ row.missing →
        engine.contains identity = true

section

variable {targets : List String} {row : Coverage}

theorem missing_of_mem_compute (member : row ∈ (compute entries source targets).2) :
    row.missing = missingKeys (keysOf entries source) (keysOf entries row.language) ∧
      row.translated = (keysOf entries source).size - row.missing.length := by
  obtain ⟨language, -, rfl⟩ := List.mem_map.1 member
  exact ⟨rfl, rfl⟩

theorem exact_of_mem_compute (member : row ∈ (compute entries source targets).2) :
    row.Exact entries source (compute entries source targets).1 := by
  obtain ⟨missing, translated⟩ := missing_of_mem_compute member
  have within : row.missing.length ≤ (keysOf entries source).size :=
    missing ▸ length_missingKeys_le _ _
  have mem_missing (key : String) :
      key ∈ row.missing ↔ Defines entries source key ∧ ¬Defines entries row.language key := by
    simp only [missing, mem_missingKeys, mem_keysOf]
  constructor
  case increasing => exact missing ▸ pairwise_missingKeys _ _
  case mem_missing => exact mem_missing
  case within => exact within
  case counted => rw [translated, compute, Nat.sub_add_cancel within]
  case stored =>
    intro engine identity collected same defined present
    apply contains_of_defines collected
    rw [same]
    by_contra lacking
    exact present ((mem_missing _).2 ⟨defined, lacking⟩)

end

/-- A coverage has a row for each target in the given order and counts the different keys of
the source. Every row is exact, that of the source itself misses nothing, and neither the
order of the entries nor their repetition matters. -/
theorem compute_exact (entries : List Entry) (source : String) (targets : List String) :
    (compute entries source targets).2.map Coverage.language = targets ∧
      (compute entries source targets).1 =
        ((entries.filter (·.identity.language = source)).map
          (·.identity.sectionKey)).toFinset.card ∧
      (∀ row ∈ (compute entries source targets).2,
        row.Exact entries source (compute entries source targets).1) ∧
      (∀ row ∈ (compute entries source targets).2, row.language = source → row.missing = []) ∧
      ∀ others : List Entry, (∀ entry, entry ∈ others ↔ entry ∈ entries) →
        compute others source targets = compute entries source targets := by
  refine ⟨?_, size_keysOf, fun row => exact_of_mem_compute, ?_, ?_⟩
  · simp [compute, Function.comp_def]
  · intro row member same
    rw [(missing_of_mem_compute member).1, same, missingKeys_self]
  · intro others same
    simp only [compute, keysOf_congr same]

/-- A catalog of three languages. One title stands in section zero and in a section with the
name 0. -/
def shop : List Entry := [
  ⟨⟨"title", "en", .ofName "shop"⟩, "Shop"⟩, ⟨⟨"title", "en", default⟩, "Title"⟩,
  ⟨⟨"cart", "en", .ofName "shop"⟩, "Cart"⟩, ⟨⟨"title", "ru", .ofName "shop"⟩, "Магазин"⟩,
  ⟨⟨"title", "it", .ofName "0"⟩, "Titolo"⟩, ⟨⟨"title", "it", .ofName "shop"⟩, "Negozio"⟩,
  ⟨⟨"cart", "it", .ofName "shop"⟩, "Carrello"⟩]

theorem shop_listed_again :
    (∀ entry, entry ∈ shop.reverse ++ shop ↔ entry ∈ shop) ∧
      compute (shop.reverse ++ shop) "en" ["ru", "it"] = compute shop "en" ["ru", "it"] :=
  ⟨by simp, (compute_exact shop "en" ["ru", "it"]).2.2.2.2 _ (by simp)⟩

example : compute shop "en" ["ru", "it"] =
    (3, [⟨"ru", 1, ["0/title", "shop/cart"]⟩, ⟨"it", 3, []⟩]) := by
  decide

end Phrasebook.Coverage
