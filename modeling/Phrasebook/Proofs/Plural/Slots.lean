import Mathlib.Logic.Basic
import Phrasebook.Catalog.Inspection
import Phrasebook.Evaluation
import Phrasebook.Proofs.Number.IntegerText

/-! The slots that plural rules select.

The built-in rules and the cardinal rules list every category that they give, so each
number has a slot. They do not tell zeros apart by their signs.
-/

set_option autoImplicit false

namespace Phrasebook

namespace Binary64

theorem ofOrdinal_zero (negative : Bool) :
    ofOrdinal negative 0 = .finite negative ⟨0, by decide⟩ :=
  dif_pos (by decide)

theorem whole?_zero (negative : Bool) :
    (ofOrdinal negative 0).whole? = some ⟨negative, 0⟩ := by
  simp [ofOrdinal_zero, whole?, BinaryFormat.units]

end Binary64

namespace Rule

/-- The rules that a language can get without a definition of its own. -/
inductive Provided : Rule → Prop where
  | english : Provided .english
  | russian : Provided .russian
  | cardinal (locale : Locale) : Provided (.cardinal locale)

theorem russianCategory_mem_forms (number : Int) : russianCategory number ∈ russian.forms := by
  unfold russianCategory russian
  dsimp only
  split_ifs <;> decide

variable {rule : Rule}

theorem Provided.category_mem_forms (provided : rule.Provided) (number : Binary64) :
    rule.category number ∈ rule.forms := by
  cases provided with
  | english =>
    simp only [Rule.english]
    split <;> decide
  | russian =>
    cases read : number.whole? with
    | none => simp [Rule.russian, read]
    | some whole =>
      have listed := russianCategory_mem_forms
        (if whole.negative then -whole.magnitude else whole.magnitude)
      simpa only [Rule.russian, read] using listed
  | cardinal locale =>
    cases read : Operands.ofNumber? number with
    | none => simp [Rule.cardinal, read, Cardinal.forms]
    | some operands =>
      have listed := Cardinal.classify_mem_forms (Cardinal.conditions locale) operands
      simpa only [Rule.cardinal, read] using listed

theorem Provided.exists_slot (provided : rule.Provided) (number : Binary64) :
    ∃ slot, rule.slot? number = some slot := by
  rw [← Option.isSome_iff_exists, slot?, List.findIdx?_isSome, List.any_eq_true]
  exact ⟨_, provided.category_mem_forms number, beq_self_eq_true _⟩

theorem Provided.category_zero (provided : rule.Provided) (first second : Bool) :
    rule.category (.ofOrdinal first 0) = rule.category (.ofOrdinal second 0) := by
  have whole := Binary64.whole?_zero
  cases provided with
  | english =>
    have unequal (negative : Bool) : Binary64.ofOrdinal negative 0 ≠ Binary64.ofInt 1 := by
      cases negative <;> decide +kernel
    simp only [Rule.english, if_neg (unequal _)]
  | russian =>
    cases first <;> cases second <;> simp [Rule.russian, whole]
  | cardinal locale =>
    have operands (negative : Bool) :
        Operands.ofNumber? (.ofOrdinal negative 0) = some (.ofNat 0) := by
      have found := whole negative
      rw [Binary64.ofOrdinal_zero] at found ⊢
      simp only [Operands.ofNumber?, found]
      exact if_pos (by decide)
    simp only [Rule.cardinal, operands]

theorem Provided.slot?_eq_of_same (provided : rule.Provided) {first second : Binary64}
    (same : first.Same second) : rule.slot? first = rule.slot? second := by
  cases same with
  | refl => rfl
  | zeros first second => rw [slot?, slot?, provided.category_zero first second]

end Rule

namespace Registry

theorem provided_of_rule?_english {language : String} {rule : Rule}
    (found : english.rule? language = some rule) : rule.Provided := by
  simp only [rule?, english, builtin, Std.ExtTreeMap.getElem?_insert] at found
  split_ifs at found
  · exact Option.some.inj found ▸ .english
  · exact Option.some.inj found ▸ .english
  · exact Option.some.inj found ▸ .russian
  · simp at found

theorem rule?_english_of_mem {language : String} (own : language ∈ builtin) :
    english.rule? language = some builtin[language] :=
  Std.ExtTreeMap.getElem?_eq_some_getElem own

theorem ruleOrCardinal_of_mem {language : String} (own : language ∈ builtin) :
    english.ruleOrCardinal language = .ok builtin[language] := by
  rw [ruleOrCardinal, rule?_english_of_mem own]

theorem ruleOrCardinal_of_not_mem {language : String} (other : language ∉ builtin) :
    english.ruleOrCardinal language = (Locale.ofTag language).map .cardinal := by
  have missing : english.rule? language = none := Std.ExtTreeMap.getElem?_eq_none other
  rw [ruleOrCardinal, missing]

theorem provided_of_ruleOrCardinal {language : String} {rule : Rule}
    (found : english.ruleOrCardinal language = .ok rule) : rule.Provided := by
  by_cases own : language ∈ builtin
  · rw [ruleOrCardinal_of_mem own] at found
    exact provided_of_rule?_english (Except.ok.inj found ▸ rule?_english_of_mem own)
  · rw [ruleOrCardinal_of_not_mem own] at found
    cases tag : Locale.ofTag language with
    | error fault => rw [tag] at found; cases found
    | ok locale =>
      rw [tag] at found
      exact Except.ok.inj found ▸ .cardinal locale

def cardinalsFor (language : String) : List String :=
  if language ∈ builtin then [] else [language]

theorem map_rule?_build {fallback : String} (registered : fallback ∈ builtin)
    (language : String) :
    (build fallback (cardinalsFor language)).map (·.rule? language) =
      (english.ruleOrCardinal language).map some := by
  have begun : ofDefault fallback = .ok ⟨fallback, builtin, registered⟩ := dif_pos registered
  rw [build, begun, cardinalsFor]
  by_cases own : language ∈ builtin
  · rw [if_pos own, ruleOrCardinal_of_mem own]
    exact congrArg Except.ok (rule?_english_of_mem own)
  · rw [if_neg own, ruleOrCardinal_of_not_mem own]
    cases tag : Locale.ofTag language with
    | error fault => simp [List.foldlM, addCardinal, tag, bind, Except.bind, Except.map]
    | ok locale =>
      simp [List.foldlM, addCardinal, tag, bind, Except.bind, pure, Except.pure, Except.map,
        rule?_add]

end Registry

end Phrasebook
