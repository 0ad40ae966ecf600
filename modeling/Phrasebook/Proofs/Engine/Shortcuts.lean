import Phrasebook.Proofs.Engine.Actions
import Phrasebook.Proofs.Template.Filling

/-! The shortcuts of a translation.

A translation gives its template back unread if there are no parameters, and
unevaluated if all of it is literal. For a template without operators this is
what evaluating it would have given.
-/

set_option autoImplicit false

namespace Phrasebook.Engine

/-- A translation that evaluates every template it finds. -/
def translateInFull (request : Action Rule) (identity : Identity) (parameters : Parameters) :
    Action String := do
  if !isValidKey identity.key then
    report identity .keyInvalid
    return ""
  let engine ← get
  match engine.store.get? identity with
  | none =>
    report identity .keyMiss
    return identity.key
  | some text =>
    report identity .keyUsed
    let rendering ←
      (Template.parse text).evaluate ⟨parameters, engine.reportsMissingGender⟩ request
    rendering.events.forM (report identity)
    return rendering.text

variable {engine : Engine} {identity : Identity} {parameters : Parameters} {text : String}

theorem run_translateInFull_of_not_hasOperators (request : Action Rule) (rule : Rule)
    (hit : engine.hit? identity = some text)
    (plain : (Template.parse text).hasOperators = false) :
    (translateInFull request identity parameters).run engine =
      ⟨(((Template.parse text).render ⟨parameters, engine.reportsMissingGender⟩ rule).text, engine),
        [.audit identity .keyUsed]⟩ := by
  obtain ⟨valid, found⟩ := hit?_eq_some_iff.1 hit
  have silent := Template.events_render_of_not_hasOperators
    ⟨parameters, engine.reportsMissingGender⟩ rule plain
  unfold translateInFull
  ext : 1 <;>
    simp [valid, found, silent, Template.evaluate_of_not_hasOperators _ _ rule plain]

theorem translation_of_not_hasOperators (rule : Rule) (hit : engine.hit? identity = some text)
    (plain : (Template.parse text).hasOperators = false) {pieces : List Token}
    (cut : Template.Cut text.toList pieces) :
    engine.translation rule identity parameters =
      String.ofList (pieces.flatMap (Token.filled parameters)) := by
  obtain ⟨valid, found⟩ := hit?_eq_some_iff.1 hit
  simp only [translation, valid, found, if_true]
  split
  · next shortcut =>
    have absent : ∀ name, .placeholder name ∈ (Template.parse text).segments →
        name ∉ parameters := by
      intro name member
      rcases Bool.or_eq_true_iff.1 shortcut with empty | literal
      · simp [Std.ExtTreeMap.isEmpty_iff.1 empty]
      · exact absurd (List.all_eq_true.1 literal _ member) (by simp [Segment.isLiteral])
    rw [Template.filled_eq_self plain cut absent, String.ofList_toList]
  · rw [Template.render_parse_eq_filled plain cut]

/-- A text without operators has one list of pieces, which make it up. Evaluating it fills
in these pieces, with no event and no request for a rule, whatever the request would do;
it gives the text back if no placeholder has a parameter. Every translation that goes by
the text gives the same, with or without the shortcuts, and tells only that the key is used. -/
theorem run_translate_without_operators {text : String}
    (plain : (Template.parse text).hasOperators = false) :
    ∃ pieces, (∀ others, Template.Cut text.toList others ↔ others = pieces) ∧
      pieces.flatMap Token.source = text.toList ∧
      ∀ parameters : Parameters,
        let filled := String.ofList (pieces.flatMap (Token.filled parameters))
        ((∀ name, .placeholder name ∈ (Template.parse text).segments → name ∉ parameters) →
          filled = text) ∧
        (∀ {m : Type → Type} [Monad m] [LawfulMonad m] (reports : Bool) (request : m Rule),
          (Template.parse text).evaluate ⟨parameters, reports⟩ request = pure ⟨filled, []⟩) ∧
        ∀ (engine : Engine) (identity : Identity) (request : Action Rule),
          engine.hit? identity = some text →
            (translateWith request identity parameters).run engine =
                ⟨(filled, engine), [.audit identity .keyUsed]⟩ ∧
              (translateInFull request identity parameters).run engine =
                (translateWith request identity parameters).run engine := by
  have cut := Template.cut_scan text.toList
  refine ⟨_, fun others => ⟨fun other => other.unique cut, fun same => same ▸ cut⟩,
    cut.flatMap_source, fun parameters => ⟨?_, ?_, ?_⟩⟩
  · intro absent
    rw [Template.filled_eq_self plain cut absent, String.ofList_toList]
  · intro m _ _ reports request
    -- Any rule will do, as none is requested.
    rw [Template.evaluate_of_not_hasOperators _ request .english plain,
      Template.render_parse_eq_filled plain cut]
  · intro engine identity request hit
    have unneeded : engine.needsRule identity parameters = false := by
      simp [needsRule, hit, plain]
    have used : engine.lookUpEvent identity = .keyUsed := by
      simp [lookUpEvent_eq_keyUsed_iff, hit]
    rw [run_translateWith_of_not_needsRule request .english unneeded, used,
      translation_of_not_hasOperators .english hit plain cut,
      run_translateInFull_of_not_hasOperators request .english hit plain,
      Template.render_parse_eq_filled plain cut]
    exact ⟨rfl, rfl⟩

/-- A parameter whose value looks like a placeholder of the text, beside stray signs and a
placeholder without a parameter. -/
def unreadText : String := "100% %\x7ba\x7d%\x7bb\x7d %\x7b c \x7d%\x7b"

def unreadParameters : Parameters :=
  ((∅ : Parameters).insert "a" (.text "%\x7bb\x7d")).insert "b" (.integer (-1))

theorem unreadText_filled_once :
    (Template.parse unreadText).hasOperators = false ∧
      ∃ pieces, Template.Cut unreadText.toList pieces ∧
        String.ofList (pieces.flatMap (Token.filled unreadParameters)) =
          "100% %\x7bb\x7d-1 %\x7b c \x7d%\x7b" ∧
        pieces.flatMap (Token.filled ∅) = unreadText.toList := by
  have plain : (Template.parse unreadText).hasOperators = false := by decide +kernel
  obtain ⟨pieces, cut, covered, result⟩ := run_translate_without_operators plain
  obtain ⟨-, evaluated, -⟩ := result unreadParameters
  have rendered : Id.run ((Template.parse unreadText).evaluate ⟨unreadParameters, true⟩
      (pure .english)) = ⟨"100% %\x7bb\x7d-1 %\x7b c \x7d%\x7b", []⟩ := by decide +kernel
  rw [evaluated (m := Id)] at rendered
  refine ⟨plain, pieces, (cut pieces).2 rfl, congrArg Rendering.text rendered, ?_⟩
  rw [funext Token.filled_empty, covered]

end Phrasebook.Engine
