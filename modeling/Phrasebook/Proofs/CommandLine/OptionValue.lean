import Phrasebook.CommandLine.Arguments
import Phrasebook.Proofs.Text.Span

/-! Reading options that have a value.

The value stands behind an equals sign or in the next argument, and is read alike.
-/

set_option autoImplicit false

namespace Phrasebook.CommandLine

/-- The arguments that give an option its value: one with an equals sign, or two if
the value does not look like an option. -/
inductive Gives (grammar : Grammar) (form : OptionForm) (value : String) :
    List String → Prop where
  | joined : Gives grammar form value ["--" ++ form.name ++ "=" ++ value]
  | separate : grammar.shape value.toList = .operand →
      Gives grammar form value ["--" ++ form.name, value]

namespace Grammar

structure Valued (grammar : Grammar) (form : OptionForm) : Prop where
  known : grammar.findName form.name.toList = some form
  valued : form.arity ≠ .flag
  nonempty : form.name.toList ≠ []
  plain : '=' ∉ form.name.toList

variable {grammar : Grammar} {form : OptionForm} {value : String} {arguments : List String}

theorem shape_dashes (grammar : Grammar) {text : List Char} (nonempty : text ≠ []) :
    grammar.shape ('-' :: '-' :: text) =
      .long (text.takeWhile (· ≠ '=')) (text.dropWhile (· ≠ '=')).tail? := by
  obtain ⟨first, rest, rfl⟩ := List.exists_cons_of_ne_nil nonempty
  rw [shape]
  · cases (first :: rest).dropWhile (· ≠ '=') <;> rfl
  · intro terminator
    simp at terminator

namespace Valued

theorem isName (option : grammar.Valued form) :
    ∀ character ∈ form.name.toList, decide (character ≠ '=') = true := by
  intro character member
  exact decide_eq_true fun same => option.plain (same ▸ member)

theorem shape_joined (option : grammar.Valued form) (value : String) :
    grammar.shape ("--" ++ form.name ++ "=" ++ value).toList =
      .long form.name.toList (some value.toList) := by
  have outside : Text.StartsOutside (fun character => decide (character ≠ '='))
      ('=' :: value.toList) :=
    Text.startsOutside_cons rfl _
  rw [show ("--" ++ form.name ++ "=" ++ value).toList =
      '-' :: '-' :: (form.name.toList ++ '=' :: value.toList) by simp,
    shape_dashes grammar (by simp), Text.takeWhile_append option.isName outside,
    Text.dropWhile_append option.isName outside]
  rfl

theorem shape_separate (option : grammar.Valued form) :
    grammar.shape ("--" ++ form.name).toList = .long form.name.toList none := by
  rw [show ("--" ++ form.name).toList = '-' :: '-' :: form.name.toList by simp,
    shape_dashes grammar option.nonempty, List.takeWhile_eq_self_iff.2 option.isName,
    List.dropWhile_eq_nil_iff.2 option.isName]
  rfl

theorem readArguments_append (option : grammar.Valued form)
    (gives : Gives grammar form value arguments) (rest : List String) :
    grammar.readArguments none (arguments ++ rest) =
      (grammar.readArguments none rest).map (.option form (some value) :: ·) := by
  have after : (do return .option form (some value) :: (← grammar.readArguments none rest)) =
      (grammar.readArguments none rest).map (Given.option form (some value) :: ·) := by
    cases grammar.readArguments none rest <;> rfl
  rw [← after]
  cases gives with
  | joined =>
    rw [List.singleton_append, readArguments, option.shape_joined]
    simp only [option.known]
    cases arity : form.arity with
    | flag => exact absurd arity option.valued
    | single => simp
    | many => simp
  | separate operand =>
    rw [List.cons_append, List.singleton_append, readArguments, option.shape_separate]
    simp only [option.known]
    cases arity : form.arity with
    | flag => exact absurd arity option.valued
    | single => simp [readArguments, operand]
    | many => simp [readArguments, operand]

end Valued
end Grammar

end Phrasebook.CommandLine
