import Phrasebook.Proofs.Engine.Parameters

/-! Parameters that a template does not name.

A translation reads the parameters that its template names and no others. One that is not
named may be added, changed or taken away, as long as some parameter is left: without any, a
template is given as it is stored.
-/

set_option autoImplicit false

namespace Phrasebook

/-- A name stands in a template as a placeholder, a count or a gender. -/
def Template.Mentions (template : Template) (name : String) : Prop :=
  .placeholder name ∈ template.segments ∨
    ∃ operator, .operator operator ∈ template.segments ∧
      (operator.count = some name ∨ operator.gender = some name)

theorem Template.mem_names_iff {template : Template} {name : String} :
    name ∈ template.names ↔ template.Mentions name := by
  simp only [names, List.mem_flatMap]
  constructor
  · rintro ⟨segment, member, named⟩
    cases segment with
    | literal text => cases named
    | placeholder other =>
      obtain rfl := List.mem_singleton.1 named
      exact .inl member
    | operator choice => exact .inr ⟨choice, member, Operator.mem_names.1 named⟩
  · rintro (member | ⟨choice, member, named⟩)
    · exact ⟨_, member, List.mem_singleton_self name⟩
    · exact ⟨_, member, Operator.mem_names.2 named⟩

namespace Engine

variable {engine : Engine} {identity : Identity} {name : String}

def Reads (engine : Engine) (identity : Identity) (name : String) : Prop :=
  ∃ text, engine.store.get? identity = some text ∧ (Template.parse text).Mentions name

theorem reads_iff {text : String} (stored : engine.store.get? identity = some text) :
    engine.Reads identity name ↔ name ∈ (Template.parse text).names := by
  simp [Reads, stored, Template.mem_names_iff]

theorem run_translate_congr_of_reads {first second : Parameters} (given : first ≠ ∅)
    (givenToo : second ≠ ∅)
    (agree : ∀ name, engine.Reads identity name → first[name]? = second[name]?) :
    (translate identity first).run engine = (translate identity second).run engine := by
  apply run_translate_congr
  · rw [Bool.eq_iff_iff, Std.ExtTreeMap.isEmpty_iff, Std.ExtTreeMap.isEmpty_iff]
    exact iff_of_false given givenToo
  · intro text hit name named
    have stored := (hit?_eq_some_iff.1 hit).2
    rw [Parameters.view?, Parameters.view?, agree name ((reads_iff stored).2 named)]

theorem getElem?_eq_of_unread {parameters others : Parameters}
    (unread : ¬engine.Reads identity name)
    (elsewhere : ∀ other, other ≠ name → others[other]? = parameters[other]?) :
    ∀ other, engine.Reads identity other → others[other]? = parameters[other]? := by
  intro other read
  apply elsewhere
  rintro rfl
  exact unread read

/-- Parameters that agree wherever the stored template names one give the same translation: the
same text, the same notices and the same engine afterwards, with its cache. So a parameter that
it does not name can be set or removed, as long as there are parameters before and after. -/
theorem run_translate_of_reads (engine : Engine) (identity : Identity) :
    (∀ first second : Parameters, first ≠ ∅ → second ≠ ∅ →
      (∀ name, engine.Reads identity name → first[name]? = second[name]?) →
        (translate identity first).run engine = (translate identity second).run engine) ∧
    ∀ (parameters : Parameters) (name : String), parameters ≠ ∅ → ¬engine.Reads identity name →
      (∀ value, (translate identity (parameters.insert name value)).run engine =
        (translate identity parameters).run engine) ∧
      (parameters.erase name ≠ ∅ → (translate identity (parameters.erase name)).run engine =
        (translate identity parameters).run engine) := by
  refine ⟨fun first second => run_translate_congr_of_reads, ?_⟩
  intro parameters name given unread
  constructor
  · intro value
    apply run_translate_congr_of_reads Std.ExtTreeMap.insert_ne_empty given
    apply getElem?_eq_of_unread unread
    intro other different
    simp [Std.ExtTreeMap.getElem?_insert, different.symm]
  · intro left
    apply run_translate_congr_of_reads left given
    apply getElem?_eq_of_unread unread
    intro other different
    simp [Std.ExtTreeMap.getElem?_erase, different.symm]

def visit : Identity := ⟨"visit", "en", default⟩

def visitEngine : Engine where
  store := .ofEntries
    [⟨visit, "%\x7bwho\x7d: %\x7bn, sex -> he comes|she comes,they come\x7d (%\x7bn\x7d)"⟩]

def guest : Parameters :=
  ((∅ : Parameters).insert "n" (.integer 1)).insert "sex" (.text "1")

/-- A guest with a colour, which the template does not name. Who it is remains unsaid. -/
theorem visit_colourless :
    guest ≠ ∅ ∧ guest.insert "colour" (.text "red") ≠ ∅ ∧
      (∀ name, visitEngine.Reads visit name →
        guest[name]? = (guest.insert "colour" (.text "red"))[name]?) ∧
      ¬visitEngine.Reads visit "colour" ∧
      ((translate visit (guest.insert "colour" (.text "red"))).run visitEngine).value.1 =
        "%\x7bwho\x7d: she comes (1)" := by
  have stored : visitEngine.store.get? visit =
      some "%\x7bwho\x7d: %\x7bn, sex -> he comes|she comes,they come\x7d (%\x7bn\x7d)" := by
    decide +kernel
  have given : guest ≠ ∅ := Std.ExtTreeMap.insert_ne_empty
  have unread : ¬visitEngine.Reads visit "colour" := by
    rw [reads_iff stored]
    decide +kernel
  have agree : ∀ name, visitEngine.Reads visit name →
      guest[name]? = (guest.insert "colour" (.text "red"))[name]? := by
    intro name read
    have different : name ≠ "colour" := by
      rintro rfl
      exact unread read
    simp [Std.ExtTreeMap.getElem?_insert, different.symm]
  have same := (run_translate_of_reads visitEngine visit).1 _ _ given
    Std.ExtTreeMap.insert_ne_empty agree
  refine ⟨given, Std.ExtTreeMap.insert_ne_empty, agree, unread, ?_⟩
  rw [← same]
  decide +kernel

end Engine

end Phrasebook
