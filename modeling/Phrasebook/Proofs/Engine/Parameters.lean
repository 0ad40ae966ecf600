import Phrasebook.Proofs.Engine.Actions
import Phrasebook.Proofs.Template.IntegerValue

/-! Parameters that a translation does not tell apart.

A translation asks whether there are parameters at all and otherwise only sees what its
template takes from them.
-/

set_option autoImplicit false

namespace Phrasebook.Engine

variable {engine : Engine} {identity : Identity} {first second : Parameters}

theorem translation_congr (rule : Rule) (given : first.isEmpty = second.isEmpty)
    (agree : ∀ text, engine.hit? identity = some text →
      ∀ name ∈ (Template.parse text).names, first.view? name = second.view? name) :
    engine.translation rule identity first = engine.translation rule identity second := by
  unfold translation
  split
  · next valid =>
    cases stored : engine.store.get? identity with
    | none => rfl
    | some text =>
      have hit := hit?_eq_some_iff.2 ⟨valid, stored⟩
      simp only [given, Template.render_congr rule engine.reportsMissingGender (agree text hit)]
  · rfl

theorem run_translate_congr (given : first.isEmpty = second.isEmpty)
    (agree : ∀ text, engine.hit? identity = some text →
      ∀ name ∈ (Template.parse text).names, first.view? name = second.view? name) :
    (translate identity first).run engine = (translate identity second).run engine := by
  have same : engine.needsRule identity first = engine.needsRule identity second := by
    simp only [needsRule, given]
  unfold translate
  cases needed : engine.needsRule identity second with
  | false =>
    have rule := engine.currentRule identity.language
    rw [run_translateWith_of_not_needsRule _ rule needed,
      run_translateWith_of_not_needsRule _ rule (same.trans needed),
      translation_congr rule given agree]
  | true =>
    obtain ⟨text, hit, present, operators⟩ := needsRule_iff.1 needed
    rw [run_translateWith_of_needsRule _ hit present operators,
      run_translateWith_of_needsRule _ hit (given.trans present) operators]
    simp only [Template.render_congr _ engine.reportsMissingGender (agree text hit)]

/-- Integer parameters may be given as texts, all or some of them: a translation gives the
same text, notes the same and leaves the same engine. -/
theorem run_translate_spell (engine : Engine) (identity : Identity) (parameters : Parameters)
    (chosen : String → Bool) :
    (translate identity (parameters.spell chosen)).run engine =
      (translate identity parameters).run engine :=
  run_translate_congr (parameters.isEmpty_spell chosen) fun _ _ name _ =>
    parameters.view?_spell chosen name

end Phrasebook.Engine
