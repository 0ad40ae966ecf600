import Mathlib.Data.List.Chain
import Phrasebook.Proofs.Text.Span
import Phrasebook.Template.Scan

/-! Tokens with neighbouring literals joined.

Three properties tell the joined tokens: in single characters they are the pieces
they were joined from, no two literals are neighbours, and each literal covers its
text, which is not empty. No other list of tokens has these properties.

Segments are joined in parts: each part on its own, and then what meets at the joint.
-/

set_option autoImplicit false

namespace Phrasebook

/-- A literal in single characters, and any other token as it is. -/
def Token.pieces : Token → List Token
  | ⟨_, .literal text⟩ =>
    text.toList.map fun character => ⟨[character], .literal (String.singleton character)⟩
  | token => [token]

def Token.Covers (token : Token) : Prop :=
  ∀ text, token.segment = .literal text → text ≠ "" ∧ token.source = text.toList

namespace Template

structure Joined (pieces spans : List Token) : Prop where
  flatMap_pieces : spans.flatMap Token.pieces = pieces
  apart : spans.IsChain fun first second =>
    ¬(first.segment.isLiteral = true ∧ second.segment.isLiteral = true)
  covers : ∀ span ∈ spans, span.Covers

end Template

namespace Token

variable {token : Token}

theorem pieces_of_not_isLiteral (other : token.segment.isLiteral = false) :
    token.pieces = [token] := by
  obtain ⟨source, segment⟩ := token
  cases segment with
  | literal text => simp [Segment.isLiteral] at other
  | placeholder name => rfl
  | operator choice => rfl

theorem flatMap_source_pieces (covers : token.Covers) :
    token.pieces.flatMap Token.source = token.source := by
  obtain ⟨source, segment⟩ := token
  cases segment with
  | literal text => simpa [pieces, List.flatMap_map] using (covers text rfl).2.symm
  | placeholder name => simp [pieces]
  | operator choice => simp [pieces]

theorem flatMap_source_flatMap_pieces {tokens : List Token}
    (covers : ∀ token ∈ tokens, token.Covers) :
    (tokens.flatMap pieces).flatMap source = tokens.flatMap source := by
  rw [List.flatMap_assoc]
  exact List.flatMap_congr fun token member => flatMap_source_pieces (covers token member)

theorem isLiteral_of_mem_pieces {piece : Token} (member : piece ∈ token.pieces) :
    piece.segment.isLiteral = token.segment.isLiteral := by
  obtain ⟨source, segment⟩ := token
  cases segment with
  | literal text =>
    obtain ⟨character, -, rfl⟩ := List.mem_map.1 member
    rfl
  | placeholder name => rw [List.mem_singleton.1 member]
  | operator choice => rw [List.mem_singleton.1 member]

theorem pieces_ne_nil (covers : token.Covers) : token.pieces ≠ [] := by
  obtain ⟨source, segment⟩ := token
  cases segment with
  | literal text => simp [pieces, (covers text rfl).1]
  | placeholder name => simp [pieces]
  | operator choice => simp [pieces]

theorem eq_literal (covers : token.Covers) (literal : token.segment.isLiteral = true) :
    token = ⟨token.source, .literal (String.ofList token.source)⟩ := by
  obtain ⟨source, segment⟩ := token
  cases segment with
  | literal text =>
    obtain ⟨-, rfl⟩ := covers text rfl
    simp
  | placeholder name => simp [Segment.isLiteral] at literal
  | operator choice => simp [Segment.isLiteral] at literal

theorem eq_of_pieces_eq {other : Token} (covers : token.Covers) (otherCovers : other.Covers)
    (same : token.pieces = other.pieces) : token = other := by
  obtain ⟨piece, member⟩ := List.exists_mem_of_ne_nil _ (pieces_ne_nil covers)
  have kind : token.segment.isLiteral = other.segment.isLiteral :=
    (isLiteral_of_mem_pieces member).symm.trans (isLiteral_of_mem_pieces (same ▸ member))
  cases literal : token.segment.isLiteral with
  | false =>
    rw [pieces_of_not_isLiteral literal, pieces_of_not_isLiteral (kind.symm.trans literal)] at same
    exact (List.cons.inj same).1
  | true =>
    have sources : token.source = other.source := by
      rw [← flatMap_source_pieces covers, ← flatMap_source_pieces otherCovers, same]
    rw [eq_literal covers literal, eq_literal otherCovers (kind.symm.trans literal), sources]

end Token

namespace Template

namespace Joined

variable {pieces spans : List Token} {span : Token}

theorem tail (joined : Joined pieces (span :: spans)) :
    Joined (spans.flatMap Token.pieces) spans where
  flatMap_pieces := rfl
  apart := joined.apart.of_cons
  covers other member := joined.covers other (List.mem_cons_of_mem span member)

theorem startsOutside (joined : Joined pieces (span :: spans))
    (literal : span.segment.isLiteral = true) :
    Text.StartsOutside (·.segment.isLiteral) (spans.flatMap Token.pieces) := by
  cases spans with
  | nil => simp [Text.StartsOutside]
  | cons next others =>
    have other : next.segment.isLiteral = false := by
      have apart := (List.isChain_cons_cons.1 joined.apart).1
      simpa [literal] using apart
    rw [List.flatMap_cons, Token.pieces_of_not_isLiteral other]
    apply Text.startsOutside_cons
    exact other

theorem pieces_head (joined : Joined pieces (span :: spans)) :
    span.pieces = if span.segment.isLiteral then pieces.takeWhile (·.segment.isLiteral)
      else pieces.take 1 := by
  rw [← joined.flatMap_pieces, List.flatMap_cons]
  cases literal : span.segment.isLiteral with
  | false => simp [Token.pieces_of_not_isLiteral literal]
  | true =>
    have all : ∀ piece ∈ span.pieces, piece.segment.isLiteral = true :=
      fun piece member => (Token.isLiteral_of_mem_pieces member).trans literal
    rw [if_pos rfl, Text.takeWhile_append all (joined.startsOutside literal)]

theorem isLiteral_head (joined : Joined pieces (span :: spans)) :
    pieces.head?.map (·.segment.isLiteral) = some span.segment.isLiteral := by
  obtain ⟨piece, others, shape⟩ :=
    List.exists_cons_of_ne_nil (Token.pieces_ne_nil (joined.covers span List.mem_cons_self))
  have member : piece ∈ span.pieces := by simp [shape]
  rw [← joined.flatMap_pieces, List.flatMap_cons, shape]
  simp [Token.isLiteral_of_mem_pieces member]

theorem nil_iff (joined : Joined pieces spans) : pieces = [] ↔ spans = [] := by
  cases spans with
  | nil => simp [← joined.flatMap_pieces]
  | cons span spans =>
    have first := joined.isLiteral_head
    constructor
    · rintro rfl
      simp at first
    · intro none
      contradiction

theorem unique {others : List Token} (first : Joined pieces spans)
    (second : Joined pieces others) : spans = others := by
  induction spans generalizing pieces others with
  | nil => exact (second.nil_iff.1 (first.nil_iff.2 rfl)).symm
  | cons span spans ih =>
    cases others with
    | nil => exact first.nil_iff.1 (second.nil_iff.2 rfl)
    | cons other others =>
      -- Both begin with the literal pieces at the start, or else with the one piece there.
      have kind : span.segment.isLiteral = other.segment.isLiteral :=
        Option.some.inj (first.isLiteral_head.symm.trans second.isLiteral_head)
      have same : span.pieces = other.pieces := by
        rw [first.pieces_head, second.pieces_head, kind]
      obtain rfl := Token.eq_of_pieces_eq (first.covers span List.mem_cons_self)
        (second.covers other List.mem_cons_self) same
      have rest : spans.flatMap Token.pieces = others.flatMap Token.pieces := by
        have whole := first.flatMap_pieces.trans second.flatMap_pieces.symm
        rw [List.flatMap_cons, List.flatMap_cons] at whole
        exact List.append_cancel_left whole
      rw [ih first.tail (rest ▸ second.tail)]

theorem isChain_segments (joined : Joined pieces spans) :
    (spans.map Token.segment).IsChain fun first second =>
      ¬(first.isLiteral = true ∧ second.isLiteral = true) :=
  (List.isChain_map Token.segment).2 joined.apart

theorem empty_notMem_segments (joined : Joined pieces spans) :
    .literal "" ∉ spans.map Token.segment := by
  intro member
  obtain ⟨span, inside, empty⟩ := List.mem_map.1 member
  exact (joined.covers span inside "" empty).1 rfl

theorem flatMap_source (joined : Joined pieces spans) :
    spans.flatMap Token.source = pieces.flatMap Token.source := by
  rw [← joined.flatMap_pieces, Token.flatMap_source_flatMap_pieces joined.covers]

end Joined

def prepend : Token → List Token → List Token
  | ⟨source, .literal text⟩, ⟨next, .literal more⟩ :: others =>
    ⟨source ++ next, .literal (text ++ more)⟩ :: others
  | token, others => token :: others

def joinTokens (tokens : List Token) : List Token := tokens.foldr prepend []

theorem Joined.prepend {pieces spans : List Token} {token : Token} (joined : Joined pieces spans)
    (covers : token.Covers) : Joined (token.pieces ++ pieces) (prepend token spans) := by
  unfold Template.prepend
  split
  -- Two literals become one, which stands where the second stood.
  · next source text next more others =>
    obtain ⟨nonempty, covered⟩ := covers text rfl
    obtain ⟨moreNonempty, moreCovered⟩ := joined.covers _ List.mem_cons_self more rfl
    refine ⟨?_, ?_, ?_⟩
    · simp [← joined.flatMap_pieces, Token.pieces]
    · exact List.isChain_cons.2 (List.isChain_cons.1 joined.apart)
    · rw [List.forall_mem_cons]
      refine ⟨?_, joined.tail.covers⟩
      rintro _ ⟨⟩
      exact ⟨by simp [nonempty], by simp_all⟩
  · next unjoined =>
    refine ⟨?_, ?_, List.forall_mem_cons.2 ⟨covers, joined.covers⟩⟩
    · rw [List.flatMap_cons, joined.flatMap_pieces]
    · refine List.isChain_cons.2 ⟨?_, joined.apart⟩
      rintro next first ⟨literal, nextLiteral⟩
      obtain ⟨others, rfl⟩ := List.head?_eq_some_iff.1 first
      have nextCovers := joined.covers next List.mem_cons_self
      rw [Token.eq_literal nextCovers nextLiteral] at unjoined
      exact unjoined _ _ _ _ _ (Token.eq_literal covers literal) rfl

theorem joined_joinTokens {tokens : List Token} (covers : ∀ token ∈ tokens, token.Covers) :
    Joined (tokens.flatMap Token.pieces) (joinTokens tokens) := by
  induction tokens with
  | nil => exact ⟨rfl, .nil, by simp [joinTokens]⟩
  | cons token tokens ih =>
    rw [List.forall_mem_cons] at covers
    exact (ih covers.2).prepend covers.1

theorem map_segment_joinTokens (tokens : List Token) :
    (joinTokens tokens).map Token.segment = joinLiterals (tokens.map Token.segment) := by
  induction tokens with
  | nil => rfl
  | cons token tokens ih =>
    obtain ⟨source, segment⟩ := token
    change (Template.prepend ⟨source, segment⟩ (joinTokens tokens)).map Token.segment =
      joinLiterals (segment :: tokens.map Token.segment)
    cases segment with
    | literal text =>
      rw [joinLiterals, ← ih]
      rcases joinTokens tokens with _ | ⟨⟨next, other⟩, others⟩
      · rfl
      · cases other <;> rfl
    | placeholder name => simp [Template.prepend, joinLiterals, ih]
    | operator choice => simp [Template.prepend, joinLiterals, ih]

/-- Two lists of segments behind each other, with two literals at the joint made one. -/
def joint (first second : List Segment) : List Segment :=
  match first.getLast?, second with
  | some (.literal text), .literal more :: rest =>
    first.dropLast ++ .literal (text ++ more) :: rest
  | _, _ => first ++ second

section Joint

variable (segment next : Segment) (rest second : List Segment)

@[simp] theorem joint_nil_left : joint [] second = second := rfl

@[simp] theorem joint_nil_right (first : List Segment) : joint first [] = first := by
  simp [joint]

@[simp] theorem joint_cons_cons :
    joint (segment :: next :: rest) second = segment :: joint (next :: rest) second := by
  simp only [joint, List.getLast?_cons_cons, List.dropLast_cons_cons]
  split <;> rfl

@[simp] theorem joint_literals (text more : String) :
    joint [.literal text] (.literal more :: rest) = .literal (text ++ more) :: rest := rfl

theorem joint_singleton_cons (apart : ¬(segment.isLiteral = true ∧ next.isLiteral = true)) :
    joint [segment] (next :: rest) = segment :: next :: rest := by
  cases segment <;> cases next <;> first | rfl | exact (apart ⟨rfl, rfl⟩).elim

theorem exists_joint_cons :
    ∃ head tail, joint (segment :: rest) second = head :: tail ∧
      head.isLiteral = segment.isLiteral := by
  cases rest with
  | cons next rest => exact ⟨segment, _, joint_cons_cons segment next rest second, rfl⟩
  | nil =>
    cases second with
    | nil => exact ⟨segment, [], joint_nil_right _, rfl⟩
    | cons next others => cases segment <;> cases next <;> exact ⟨_, _, rfl, rfl⟩

theorem joint_assoc (middle last : List Segment) :
    joint [segment] (joint middle last) = joint (joint [segment] middle) last := by
  cases middle with
  | nil => simp
  | cons next rest =>
    by_cases both : segment.isLiteral = true ∧ next.isLiteral = true
    · obtain ⟨text, rfl⟩ : ∃ text, segment = .literal text := by
        cases segment <;> simp_all [Segment.isLiteral]
      obtain ⟨more, rfl⟩ : ∃ more, next = .literal more := by
        cases next <;> simp_all [Segment.isLiteral]
      -- The joined literal meets what follows as its second part did.
      rcases rest with _ | ⟨other, rest⟩
      · cases last with
        | nil => simp
        | cons head tail =>
          cases head with
          | literal words => simp [String.append_assoc]
          | placeholder name => rfl
          | operator choice => rfl
      · simp
    · obtain ⟨head, tail, shape, kind⟩ := exists_joint_cons next rest last
      rw [joint_singleton_cons _ _ _ both, joint_cons_cons, shape,
        joint_singleton_cons _ _ _ (kind ▸ both)]

theorem joinLiterals_cons :
    joinLiterals (segment :: rest) = joint [segment] (joinLiterals rest) := by
  cases segment with
  | literal text =>
    rw [joinLiterals]
    cases joinLiterals rest with
    | nil => rfl
    | cons next others => cases next <;> rfl
  | placeholder name => rfl
  | operator choice => rfl

/-- Literals are joined in each part, and then at the joint. -/
theorem joinLiterals_append (first second : List Segment) :
    joinLiterals (first ++ second) = joint (joinLiterals first) (joinLiterals second) := by
  induction first with
  | nil => rfl
  | cons segment rest ih =>
    rw [List.cons_append, joinLiterals_cons, joinLiterals_cons, ih, joint_assoc]

end Joint

theorem joinLiterals_characters {text : List Char} (nonempty : text ≠ []) :
    joinLiterals (text.map fun character => .literal (String.singleton character)) =
      [.literal (String.ofList text)] := by
  induction text with
  | nil => exact absurd rfl nonempty
  | cons first rest ih =>
    rw [List.map_cons, joinLiterals_cons]
    cases rest with
    | nil => rfl
    | cons next others =>
      rw [ih (List.cons_ne_nil next others), joint_literals, ← String.ofList_cons]

theorem joinLiterals_pieces {token : Token} (covers : token.Covers) :
    joinLiterals (token.pieces.map Token.segment) = joinLiterals [token.segment] := by
  obtain ⟨source, segment⟩ := token
  cases segment with
  | literal text =>
    have nonempty : text.toList ≠ [] := by simpa using (covers text rfl).1
    simpa [Token.pieces, Function.comp_def, joinLiterals] using joinLiterals_characters nonempty
  | placeholder name => rfl
  | operator choice => rfl

theorem joinLiterals_flatMap_pieces {tokens : List Token}
    (covers : ∀ token ∈ tokens, token.Covers) :
    joinLiterals ((tokens.flatMap Token.pieces).map Token.segment) =
      joinLiterals (tokens.map Token.segment) := by
  induction tokens with
  | nil => rfl
  | cons token tokens ih =>
    rw [List.forall_mem_cons] at covers
    rw [List.flatMap_cons, List.map_append, joinLiterals_append, joinLiterals_pieces covers.1,
      ih covers.2, ← joinLiterals_append, List.map_cons, List.singleton_append]

theorem all_isLiteral_joinLiterals (segments : List Segment) :
    (joinLiterals segments).all Segment.isLiteral = segments.all Segment.isLiteral := by
  induction segments with
  | nil => rfl
  | cons segment rest ih =>
    cases segment with
    | literal text =>
      rw [joinLiterals]
      split
      · next shape => simpa [shape, Segment.isLiteral] using ih
      · simp [Segment.isLiteral, ih]
    | placeholder name => simp [joinLiterals, Segment.isLiteral]
    | operator choice => simp [joinLiterals, Segment.isLiteral]

end Template

end Phrasebook
