import Mathlib.Data.List.Infix
import Phrasebook.Proofs.Template.Parsing

/-! Openings and the braces that close them.

The piece at an opening is decided by the text up to the next closing brace. So a text in
which every opening is closed is cut alike whatever follows it, and a text is plain unless
some opening in it is closed.
-/

set_option autoImplicit false

namespace Phrasebook.Template

def HasClosedOpening (text : List Char) : Prop :=
  ∃ before inside after, text = before ++ braced inside ++ after

/-- The text does not end in the middle of something: neither behind a percent sign nor
behind an opening that has no closing brace. -/
structure IsClosed (text : List Char) : Prop where
  last : text.getLast? ≠ some '%'
  closes : ∀ suffix ∈ text.tails, ['%', '{'] <+: suffix → '}' ∈ suffix

section Closed

variable {text rest : List Char}

theorem IsClosed.of_append {before : List Char} (closed : IsClosed (before ++ rest)) :
    IsClosed rest where
  last ends := closed.last (by simp [List.getLast?_append, ends])
  closes suffix member := by
    have behind : suffix <:+ before ++ rest :=
      ((List.mem_tails _ _).1 member).trans (List.suffix_append before rest)
    exact closed.closes suffix ((List.mem_tails _ _).2 behind)

/-- What an opening at the start of a closed text encloses lies in that text. -/
theorem IsClosed.eq_braced_append {inside tail : List Char} (closed : IsClosed text)
    (nonempty : text ≠ []) (unclosed : '}' ∉ inside)
    (same : text ++ rest = braced inside ++ tail) :
    ∃ others, text = braced inside ++ others ∧ tail = others ++ rest := by
  obtain ⟨first, more, rfl⟩ := List.exists_cons_of_ne_nil nonempty
  obtain ⟨rfl, follows⟩ := List.cons.inj same
  -- A percent sign is not all of the text, so the opening is in it as a whole.
  obtain ⟨second, after, rfl⟩ : ∃ second after, more = second :: after := by
    cases more with
    | nil => exact absurd rfl closed.last
    | cons second after => exact ⟨second, after, rfl⟩
  obtain ⟨rfl, -⟩ := List.cons.inj follows
  have brace : '}' ∈ after := by
    simpa using closed.closes _ ((List.mem_tails _ _).2 List.suffix_rfl) ⟨after, rfl⟩
  obtain ⟨enclosed, others, rfl, first⟩ := List.eq_append_cons_of_mem brace
  have shape : '%' :: '{' :: (enclosed ++ '}' :: others) = braced enclosed ++ others := by
    simp [braced]
  rw [shape, List.append_assoc] at same
  obtain ⟨rfl, rfl⟩ := braced_append_inj first unclosed same
  exact ⟨others, shape, rfl⟩

theorem IsClosed.beginsOperator_append_iff (closed : IsClosed text) (nonempty : text ≠ [])
    (rest : List Char) :
    BeginsOperator (text ++ rest) ↔ BeginsOperator text := by
  constructor
  · rintro ⟨inside, operator, tail, form, same⟩
    obtain ⟨others, shape, -⟩ := closed.eq_braced_append nonempty form.unclosed same
    exact ⟨inside, operator, others, form, shape⟩
  · rintro ⟨inside, operator, others, form, rfl⟩
    exact ⟨inside, operator, others ++ rest, form, List.append_assoc _ _ _⟩

theorem IsClosed.beginsPlaceholder_append_iff (closed : IsClosed text) (nonempty : text ≠ [])
    (rest : List Char) :
    BeginsPlaceholder (text ++ rest) ↔ BeginsPlaceholder text := by
  constructor
  · rintro ⟨name, tail, form, same⟩
    obtain ⟨others, shape, -⟩ := closed.eq_braced_append nonempty form.1 same
    exact ⟨name, others, form, shape⟩
  · rintro ⟨name, others, form, rfl⟩
    exact ⟨name, others ++ rest, form, List.append_assoc _ _ _⟩

/-- The piece at the start of a closed text stays the same in front of another text. -/
theorem Begins.append {piece : Token} {tail : List Char} (begins : Begins text piece tail)
    (closed : IsClosed text) (rest : List Char) : Begins (text ++ rest) piece (tail ++ rest) := by
  have operator := closed.beginsOperator_append_iff begins.nonempty rest
  have placeholder := closed.beginsPlaceholder_append_iff begins.nonempty rest
  cases begins with
  | operator form shape => exact .operator form (by rw [shape, List.append_assoc])
  | placeholder unbegun form shape =>
    exact .placeholder (mt operator.1 unbegun) form (by rw [shape, List.append_assoc])
  | character unbegun placeholderUnbegun shape =>
    exact .character (mt operator.1 unbegun) (mt placeholder.1 placeholderUnbegun)
      (by rw [shape, List.cons_append])

theorem Cut.append {pieces others : List Token} (cut : Cut text pieces) (closed : IsClosed text)
    (other : Cut rest others) : Cut (text ++ rest) (pieces ++ others) := by
  induction cut with
  | nil => exact other
  | cons begins _ ih =>
    have behind : IsClosed _ := (begins.eq_source_append ▸ closed).of_append
    exact .cons (begins.append closed rest) (ih behind)

end Closed

/-- Parsing a closed text with another text behind it gives the segments of both, with two
literals at the joint made one. -/
theorem segments_parse_append (first second : String) (closed : IsClosed first.toList) :
    (parse (first ++ second)).segments =
      joint (parse first).segments (parse second).segments := by
  have firstCut := cut_scan first.toList
  have secondCut := cut_scan second.toList
  have cut := firstCut.append closed secondCut
  rw [← String.toList_append] at cut
  rw [segments_parse_of_cut cut, segments_parse_of_cut firstCut, segments_parse_of_cut secondCut,
    List.map_append, joinLiterals_append]

theorem braceAtJoint_literal :
    let first := "100%% %\x7bx, %\x7bn -> one,%\x7bs\x7d more"
    let second := "\x7d %\x7bn -> a|b\x7d %\x7b"
    IsClosed first.toList ∧ (parse (first ++ second)).segments = [
      .literal "100%% %\x7bx, ", .operator ⟨some "n", none, "one,%\x7bs"⟩,
      .literal " more\x7d ", .operator ⟨some "n", none, "a|b"⟩, .literal " %\x7b"] := by
  intro first second
  have closed : IsClosed first.toList := ⟨by decide, by decide⟩
  refine ⟨closed, ?_⟩
  rw [segments_parse_append first second closed]
  decide +kernel

section Plain

variable {text : List Char}

/-- Behind a closed opening there is one with no other and no brace before its own brace. -/
theorem exists_beginsPlaceholder_of_braced (before inside after : List Char)
    (shape : text = before ++ braced inside ++ after) :
    ∃ earlier suffix, text = earlier ++ suffix ∧ BeginsPlaceholder suffix := by
  by_cases brace : '}' ∈ inside
  · obtain ⟨front, back, cut, -⟩ := List.eq_append_cons_of_mem brace
    have shorter : front.length < inside.length := by simp [cut]
    exact exists_beginsPlaceholder_of_braced before front (back ++ '}' :: after)
      (by simp [shape, cut, braced])
  by_cases opening : ['%', '{'] <:+: inside
  · obtain ⟨front, back, cut⟩ := opening
    have shorter : back.length < inside.length := by
      simp [← cut]
      omega
    exact exists_beginsPlaceholder_of_braced (before ++ '%' :: '{' :: front) back after
      (by simp [shape, ← cut, braced])
  · exact ⟨before, braced inside ++ after, by rw [shape, List.append_assoc],
      inside, after, ⟨brace, opening⟩, rfl⟩
termination_by inside.length

theorem Cut.not_beginsPlaceholder {pieces : List Token} (cut : Cut text pieces)
    (literal : ∀ piece ∈ pieces, piece.segment.isLiteral = true) {earlier suffix : List Char}
    (shape : text = earlier ++ suffix) : ¬BeginsPlaceholder suffix := by
  induction cut generalizing earlier with
  | nil =>
    obtain ⟨-, rfl⟩ := List.append_eq_nil_iff.1 shape.symm
    rintro ⟨name, rest, -, same⟩
    simp [braced] at same
  | cons begins _ ih =>
    rw [List.forall_mem_cons] at literal
    cases begins with
    | operator => cases literal.1
    | placeholder => cases literal.1
    | character _ unbegun start =>
      cases earlier with
      | nil => rwa [← List.nil_append suffix, ← shape]
      | cons first earlier =>
        rw [start, List.cons_append] at shape
        exact ih literal.2 (List.cons.inj shape).2

theorem Cut.hasClosedOpening {pieces : List Token} (cut : Cut text pieces) {piece : Token}
    (member : piece ∈ pieces) (other : piece.segment.isLiteral = false) :
    HasClosedOpening text := by
  induction cut with
  | nil => cases member
  | @cons _ rest first _ begins _ ih =>
    have shape := begins.eq_source_append
    rcases List.mem_cons.1 member with rfl | member
    · cases begins with
      | operator => exact ⟨[], _, rest, shape⟩
      | placeholder => exact ⟨[], _, rest, shape⟩
      | character => cases other
    · obtain ⟨before, inside, after, same⟩ := ih member
      exact ⟨first.source ++ before, inside, after, by rw [shape, same]; simp⟩

end Plain

/-- A text is plain just when no opening in it is closed. -/
theorem isPlain_parse_iff (text : String) :
    (parse text).isPlain = true ↔ ¬HasClosedOpening text.toList := by
  have cut := cut_scan text.toList
  rw [isPlain, segments_parse_of_cut cut, all_isLiteral_joinLiterals, List.all_map,
    List.all_eq_true]
  constructor
  · rintro literal ⟨before, inside, after, shape⟩
    obtain ⟨earlier, suffix, same, begins⟩ :=
      exists_beginsPlaceholder_of_braced before inside after shape
    exact cut.not_beginsPlaceholder literal same begins
  · intro unclosed piece member
    by_contra other
    exact unclosed (cut.hasClosedOpening member (Bool.not_eq_true _ ▸ other))

end Phrasebook.Template
