import Phrasebook.Proofs.Template.Parsing
import Phrasebook.Proofs.Template.Rendering

/-! Filling in a text without operators.

Each placeholder whose parameter is given becomes the text of its value, and all
else stays as it is written. The pieces are those of the text itself, so a value
is not searched for placeholders.
-/

set_option autoImplicit false

namespace Phrasebook

/-- A piece of a text after filling in. -/
def Token.filled (parameters : Parameters) (token : Token) : List Char :=
  match token.segment with
  | .placeholder name => (parameters[name]?).elim token.source (·.display.toList)
  | _ => token.source

theorem Token.filled_empty (token : Token) : token.filled ∅ = token.source := by
  unfold filled
  split <;> simp

theorem Token.flatMap_filled_pieces {token : Token} (covers : token.Covers)
    (parameters : Parameters) : token.pieces.flatMap (filled parameters) = token.filled parameters := by
  cases literal : token.segment.isLiteral with
  | false => rw [pieces_of_not_isLiteral literal, List.flatMap_singleton]
  -- A literal and its single characters cover the same text and are left as they are.
  | true =>
    have same : token.pieces.flatMap (filled parameters) = token.pieces.flatMap source := by
      apply List.flatMap_congr
      intro piece member
      have kind := (isLiteral_of_mem_pieces member).trans literal
      unfold filled
      split <;> simp_all [Segment.isLiteral]
    rw [same, flatMap_source_pieces covers, eq_literal covers literal, filled]

namespace Template

variable {context : Context} {rule : Rule}

theorem text_renderSegments (context : Context) (rule : Rule) (segments : List Segment) :
    (renderSegments context rule segments).text.toList =
      segments.flatMap fun segment => (segment.render context rule).text.toList := by
  induction segments with
  | nil => rfl
  | cons segment rest ih => simp [renderSegments, ih]

theorem flatMap_render_joinLiterals (segments : List Segment) :
    ((joinLiterals segments).flatMap fun segment => (segment.render context rule).text.toList) =
      segments.flatMap fun segment => (segment.render context rule).text.toList := by
  induction segments with
  | nil => rfl
  | cons segment rest ih =>
    rw [List.flatMap_cons, ← ih]
    cases segment with
    | literal text =>
      rw [joinLiterals]
      split
      · next next others shape => simp [shape, Segment.render]
      · rfl
    | placeholder name => rfl
    | operator choice => rfl

theorem operator?_eq_none_of_mem_joinLiterals {segments : List Segment}
    (unchosen : ∀ segment ∈ joinLiterals segments, segment.operator? = none) :
    ∀ segment ∈ segments, segment.operator? = none := by
  induction segments with
  | nil => exact unchosen
  | cons segment rest ih =>
    rw [List.forall_mem_cons]
    cases segment with
    | literal text =>
      refine ⟨rfl, ih ?_⟩
      intro other member
      rw [joinLiterals] at unchosen
      split at unchosen
      · next next others shape =>
        rw [shape] at member
        rcases List.mem_cons.1 member with rfl | member
        · rfl
        · exact unchosen other (List.mem_cons_of_mem _ member)
      · exact unchosen other (List.mem_cons_of_mem _ member)
    | placeholder name =>
      exact ⟨rfl, ih fun other member => unchosen other (List.mem_cons_of_mem _ member)⟩
    | operator choice => exact absurd (unchosen _ List.mem_cons_self) (by simp [Segment.operator?])

theorem render_eq_filled_of_readToken? {text : List Char} {token : Token}
    (read : readToken? text = some token) (unchosen : token.segment.operator? = none) :
    (token.segment.render context rule).text.toList = token.filled context.parameters := by
  rcases readToken?_eq_some_iff.1 read with read | ⟨-, read | ⟨-, read | ⟨-, read⟩⟩⟩
  · obtain ⟨_, _, _, _, _, rfl⟩ := operatorToken?_eq_some_iff_form.1 read
    simp [Segment.operator?] at unchosen
  · obtain ⟨name, _, _, _, rfl⟩ := placeholderToken?_eq_some_iff_form.1 read
    simp only [Segment.render, fillPlaceholder, Token.filled]
    cases context.parameters[String.ofList name]? <;> simp [placeholderText, braced]
  · obtain ⟨-, rfl⟩ := percentToken?_eq_some_iff.1 read
    simp [Segment.render, Token.filled]
  · obtain ⟨-, rfl⟩ := runToken?_eq_some_iff.1 read
    simp [Segment.render, Token.filled]

theorem exists_readToken?_of_mem_scan {text : List Char} {token : Token}
    (member : token ∈ (scan text).1) : ∃ rest, readToken? rest = some token := by
  induction text using scan_induction with
  | nil => simp at member
  | token first rest nonempty read ih =>
    rw [scan_append nonempty read, List.mem_cons] at member
    rcases member with rfl | member
    · exact ⟨_, read⟩
    · exact ih member

/-- Rendering a text without operators fills in its pieces. -/
theorem render_parse_eq_filled {text : String} (plain : (parse text).hasOperators = false)
    {pieces : List Token} (cut : Cut text.toList pieces) (context : Context) (rule : Rule) :
    (parse text).render context rule =
      ⟨String.ofList (pieces.flatMap (Token.filled context.parameters)), []⟩ := by
  have unchosen : ∀ segment ∈ (scan text.toList).1.map Token.segment,
      segment.operator? = none := by
    apply operator?_eq_none_of_mem_joinLiterals
    rw [← segments_parse]
    simpa [hasOperators, operators] using plain
  have filled : (scan text.toList).1.flatMap
        (fun token => (token.segment.render context rule).text.toList) =
      (scan text.toList).1.flatMap (Token.filled context.parameters) := by
    apply List.flatMap_congr
    intro token member
    obtain ⟨_, read⟩ := exists_readToken?_of_mem_scan member
    exact render_eq_filled_of_readToken? read
      (unchosen token.segment (List.mem_map_of_mem member))
  -- Joining literals changes no text, and a token is filled in like the pieces it covers.
  have whole : ((parse text).render context rule).text.toList =
      pieces.flatMap (Token.filled context.parameters) := by
    rw [render, text_renderSegments, segments_parse, flatMap_render_joinLiterals,
      List.flatMap_map, filled, cut.unique (cut_scan text.toList), List.flatMap_assoc]
    apply List.flatMap_congr
    intro token member
    exact (Token.flatMap_filled_pieces (covers_of_mem_scan member) _).symm
  have silent := events_render_of_not_hasOperators context rule plain
  rw [← whole, ← silent, String.ofList_toList]

/-- A text without operators is left as it is if none of its parameters is given. -/
theorem filled_eq_self {text : String} (plain : (parse text).hasOperators = false)
    {pieces : List Token} (cut : Cut text.toList pieces) {parameters : Parameters}
    (absent : ∀ name, .placeholder name ∈ (parse text).segments → name ∉ parameters) :
    pieces.flatMap (Token.filled parameters) = text.toList := by
  have rendered (given : Parameters) :
      ((parse text).segments.flatMap fun segment =>
        (segment.render ⟨given, true⟩ .english).text.toList) =
      pieces.flatMap (Token.filled given) := by
    rw [← text_renderSegments, ← render, render_parse_eq_filled plain cut]
    exact String.toList_ofList
  have unfilled : pieces.flatMap (Token.filled ∅) = text.toList := by
    rw [funext Token.filled_empty, cut.flatMap_source]
  -- Compare segment by segment with what no parameters at all would give.
  rw [← unfilled, ← rendered, ← rendered]
  apply List.flatMap_congr
  intro segment member
  cases segment with
  | literal content => rfl
  | placeholder name => simp [Segment.render, fillPlaceholder, absent name member]
  | operator choice =>
    have operator : choice ∈ (parse text).operators :=
      List.mem_filterMap.2 ⟨_, member, rfl⟩
    simp_all [hasOperators]

end Template

end Phrasebook
