import Phrasebook.Proofs.Template.Grammar
import Phrasebook.Proofs.Template.Joining

/-! Parsing a template follows the grammar.

The grammar cuts every text in exactly one way into operators, placeholders and
single characters. Parsing gives these pieces in their order, with neighbouring
characters joined to literals, and never falls back to the text as a whole.
-/

set_option autoImplicit false

namespace Phrasebook

namespace Template

def BeginsOperator (text : List Char) : Prop :=
  ∃ inside operator rest, OperatorForm inside operator ∧ text = braced inside ++ rest

def BeginsPlaceholder (text : List Char) : Prop :=
  ∃ name rest, PlaceholderForm name ∧ text = braced name ++ rest

/-- The piece at the start of a text, and the rest. An operator comes before a
placeholder, and a placeholder before a single character. -/
inductive Begins (text : List Char) : Token → List Char → Prop where
  | operator {inside rest : List Char} {operator : Operator} : OperatorForm inside operator →
      text = braced inside ++ rest → Begins text ⟨braced inside, .operator operator⟩ rest
  | placeholder {name rest : List Char} : ¬BeginsOperator text → PlaceholderForm name →
      text = braced name ++ rest →
      Begins text ⟨braced name, .placeholder (String.ofList name)⟩ rest
  | character {first : Char} {rest : List Char} : ¬BeginsOperator text →
      ¬BeginsPlaceholder text → text = first :: rest →
      Begins text ⟨[first], .literal (String.singleton first)⟩ rest

inductive Cut : List Char → List Token → Prop where
  | nil : Cut [] []
  | cons {text rest : List Char} {piece : Token} {pieces : List Token} :
      Begins text piece rest → Cut rest pieces → Cut text (piece :: pieces)

theorem braced_append_inj {inside other rest tail : List Char} (unclosed : '}' ∉ inside)
    (otherUnclosed : '}' ∉ other) (same : braced inside ++ rest = braced other ++ tail) :
    inside = other ∧ rest = tail := by
  have enclosed : enclosed? (braced inside ++ rest) = some inside :=
    enclosed?_eq_some_iff.2 ⟨unclosed, rest, rfl⟩
  have otherEnclosed : enclosed? (braced inside ++ rest) = some other :=
    enclosed?_eq_some_iff.2 ⟨otherUnclosed, tail, same⟩
  obtain rfl := Option.some.inj (enclosed.symm.trans otherEnclosed)
  exact ⟨rfl, List.append_cancel_left same⟩

theorem Begins.unique {text rest tail : List Char} {piece other : Token}
    (first : Begins text piece rest) (second : Begins text other tail) :
    piece = other ∧ rest = tail := by
  -- A form that begins rules out those behind it in the order, and has one closing brace.
  cases first with
  | @operator inside _ choice form shape =>
    have begins : BeginsOperator text := ⟨inside, choice, rest, form, shape⟩
    cases second with
    | operator otherForm otherShape =>
      obtain ⟨rfl, rfl⟩ := braced_append_inj form.unclosed otherForm.unclosed
        (shape.symm.trans otherShape)
      have read := (readOperator_eq_some_iff form.unclosed).2 form
      have otherRead := (readOperator_eq_some_iff form.unclosed).2 otherForm
      obtain rfl := Option.some.inj (read.symm.trans otherRead)
      exact ⟨rfl, rfl⟩
    | placeholder unbegun => exact (unbegun begins).elim
    | character unbegun => exact (unbegun begins).elim
  | @placeholder name _ unbegun form shape =>
    have begins : BeginsPlaceholder text := ⟨name, rest, form, shape⟩
    cases second with
    | operator otherForm otherShape => exact (unbegun ⟨_, _, _, otherForm, otherShape⟩).elim
    | placeholder _ otherForm otherShape =>
      obtain ⟨rfl, rfl⟩ := braced_append_inj form.1 otherForm.1 (shape.symm.trans otherShape)
      exact ⟨rfl, rfl⟩
    | character _ otherUnbegun => exact (otherUnbegun begins).elim
  | character unbegun placeholderUnbegun shape =>
    cases second with
    | operator otherForm otherShape => exact (unbegun ⟨_, _, _, otherForm, otherShape⟩).elim
    | placeholder _ otherForm otherShape =>
      exact (placeholderUnbegun ⟨_, _, otherForm, otherShape⟩).elim
    | character _ _ otherShape =>
      obtain ⟨rfl, rfl⟩ := List.cons.inj (shape.symm.trans otherShape)
      exact ⟨rfl, rfl⟩

theorem Begins.nonempty {text rest : List Char} {piece : Token} (begins : Begins text piece rest) :
    text ≠ [] := by
  cases begins with
  | operator _ shape => simp [shape, braced]
  | placeholder _ _ shape => simp [shape, braced]
  | character _ _ shape => simp [shape]

theorem Cut.unique {text : List Char} {pieces others : List Token} (first : Cut text pieces)
    (second : Cut text others) : pieces = others := by
  induction first generalizing others with
  | nil =>
    cases second with
    | nil => rfl
    | cons begins => exact (begins.nonempty rfl).elim
  | cons begins _ ih =>
    cases second with
    | nil => exact (begins.nonempty rfl).elim
    | cons otherBegins rest =>
      obtain ⟨rfl, rfl⟩ := begins.unique otherBegins
      rw [ih rest]

theorem Begins.eq_source_append {text rest : List Char} {piece : Token}
    (begins : Begins text piece rest) : text = piece.source ++ rest := by
  cases begins with
  | operator _ shape => exact shape
  | placeholder _ _ shape => exact shape
  | character _ _ shape => exact shape

theorem Cut.flatMap_source {text : List Char} {pieces : List Token} (cut : Cut text pieces) :
    pieces.flatMap Token.source = text := by
  induction cut with
  | nil => rfl
  | cons begins _ ih => rw [List.flatMap_cons, ih, ← begins.eq_source_append]

theorem operatorToken?_eq_some_iff_form {text : List Char} {token : Token} :
    operatorToken? text = some token ↔
      ∃ inside operator rest, OperatorForm inside operator ∧ text = braced inside ++ rest ∧
        token = ⟨braced inside, .operator operator⟩ := by
  rw [operatorToken?_eq_some_iff]
  constructor
  · rintro ⟨inside, rest, operator, shape, unclosed, read, same⟩
    exact ⟨inside, operator, rest, (readOperator_eq_some_iff unclosed).1 read, shape, same⟩
  · rintro ⟨inside, operator, rest, form, shape, same⟩
    exact ⟨inside, rest, operator, shape, form.unclosed,
      (readOperator_eq_some_iff form.unclosed).2 form, same⟩

theorem placeholderToken?_eq_some_iff_form {text : List Char} {token : Token} :
    placeholderToken? text = some token ↔
      ∃ name rest, PlaceholderForm name ∧ text = braced name ++ rest ∧
        token = ⟨braced name, .placeholder (String.ofList name)⟩ := by
  simp only [placeholderToken?_eq_some_iff, PlaceholderForm, ← hasOpening_iff, Bool.not_eq_true]
  grind

theorem operatorToken?_eq_none_iff {text : List Char} :
    operatorToken? text = none ↔ ¬BeginsOperator text := by
  simp only [Option.eq_none_iff_forall_ne_some, ne_eq, operatorToken?_eq_some_iff_form,
    BeginsOperator]
  grind

theorem placeholderToken?_eq_none_iff {text : List Char} :
    placeholderToken? text = none ↔ ¬BeginsPlaceholder text := by
  simp only [Option.eq_none_iff_forall_ne_some, ne_eq, placeholderToken?_eq_some_iff_form,
    BeginsPlaceholder]
  grind

theorem Cut.append_run {run rest : List Char} {pieces : List Token} (plain : '%' ∉ run)
    (cut : Cut rest pieces) :
    Cut (run ++ rest)
      (run.map (fun character => ⟨[character], .literal (String.singleton character)⟩) ++
        pieces) := by
  induction run with
  | nil => exact cut
  | cons first run ih =>
    rw [List.mem_cons, not_or] at plain
    -- Neither form begins with a character other than a percent sign.
    have other : ∀ inside tail, first :: run ++ rest ≠ braced inside ++ tail := by
      intro inside tail same
      exact plain.1 (List.cons.inj same).1.symm
    refine .cons (.character ?_ ?_ rfl) (ih plain.2)
    · rintro ⟨inside, operator, tail, -, shape⟩
      exact other inside tail shape
    · rintro ⟨name, tail, -, shape⟩
      exact other name tail shape

/-- A token that is read covers the pieces at the start of its text. -/
theorem Cut.append_token {token : Token} {rest : List Char} {pieces : List Token}
    (read : readToken? (token.source ++ rest) = some token) (cut : Cut rest pieces) :
    Cut (token.source ++ rest) (token.pieces ++ pieces) := by
  rcases readToken?_eq_some_iff.1 read with
    operator | ⟨noOperator, placeholder | ⟨noPlaceholder, percent | ⟨-, run⟩⟩⟩
  · obtain ⟨inside, choice, tail, form, -, rfl⟩ := operatorToken?_eq_some_iff_form.1 operator
    exact .cons (.operator form rfl) cut
  · obtain ⟨name, tail, form, -, rfl⟩ := placeholderToken?_eq_some_iff_form.1 placeholder
    exact .cons (.placeholder (operatorToken?_eq_none_iff.1 noOperator) form rfl) cut
  · obtain ⟨-, rfl⟩ := percentToken?_eq_some_iff.1 percent
    exact .cons (.character (operatorToken?_eq_none_iff.1 noOperator)
      (placeholderToken?_eq_none_iff.1 noPlaceholder) rfl) cut
  -- Only a run of text covers more than one piece.
  · obtain ⟨source, segment⟩ := token
    obtain ⟨-, same⟩ := runToken?_eq_some_iff.1 run
    obtain ⟨covered, literal⟩ := Token.mk.inj same
    rw [← covered] at literal
    subst literal
    have plain : '%' ∉ source := by
      intro member
      rw [covered] at member
      simpa using List.mem_takeWhile_imp member
    simpa [Token.pieces] using cut.append_run plain

/-- The scan reads the pieces of the grammar, some of them joined in one token. -/
theorem cut_scan (text : List Char) : Cut text ((scan text).1.flatMap Token.pieces) := by
  induction text using scan_induction with
  | nil => exact .nil
  | token token rest nonempty read ih =>
    rw [scan_append nonempty read, List.flatMap_cons]
    exact ih.append_token read

theorem covers_of_readToken? {text : List Char} {token : Token}
    (read : readToken? text = some token) : token.Covers := by
  rintro literal shape
  rcases readToken?_eq_some_iff.1 read with read | ⟨-, read | ⟨-, read | ⟨-, read⟩⟩⟩
  · obtain ⟨_, _, _, _, _, rfl⟩ := operatorToken?_eq_some_iff_form.1 read
    cases shape
  · obtain ⟨_, _, _, _, rfl⟩ := placeholderToken?_eq_some_iff_form.1 read
    cases shape
  · obtain ⟨-, rfl⟩ := percentToken?_eq_some_iff.1 read
    cases shape
    simp
  · obtain ⟨nonempty, rfl⟩ := runToken?_eq_some_iff.1 read
    cases shape
    simpa using nonempty

theorem covers_of_mem_scan {text : List Char} {token : Token} (member : token ∈ (scan text).1) :
    token.Covers := by
  induction text using scan_induction with
  | nil => simp at member
  | token first rest nonempty read ih =>
    rw [scan_append nonempty read, List.mem_cons] at member
    rcases member with rfl | member
    · exact covers_of_readToken? read
    · exact ih member

/-- The segments of a template are its pieces with neighbouring literals joined. -/
theorem segments_parse_of_cut {text : String} {pieces : List Token}
    (cut : Cut text.toList pieces) :
    (parse text).segments = joinLiterals (pieces.map Token.segment) := by
  rw [segments_parse, cut.unique (cut_scan text.toList),
    joinLiterals_flatMap_pieces fun _ => covers_of_mem_scan]

/-- Parsing gives the pieces of the grammar, of which there is one list for each text,
with neighbouring literals joined, for which there is one way. The joined tokens cover
the text, and nothing is left that would make the text one literal as a whole. -/
theorem parse_cut (text : String) :
    ∃ pieces spans,
      (∀ others, Cut text.toList others ↔ others = pieces) ∧
      (∀ others, Joined pieces others ↔ others = spans) ∧
      (parse text).segments = spans.map Token.segment ∧
      (parse text).segments.IsChain
        (fun first second => ¬(first.isLiteral = true ∧ second.isLiteral = true)) ∧
      .literal "" ∉ (parse text).segments ∧
      spans.flatMap Token.source = text.toList ∧
      (scan text.toList).2 = [] := by
  have covers : ∀ token ∈ (scan text.toList).1, token.Covers := fun _ => covers_of_mem_scan
  have cut := cut_scan text.toList
  have joined := joined_joinTokens covers
  have segments : (parse text).segments = (joinTokens (scan text.toList).1).map Token.segment := by
    rw [segments_parse, map_segment_joinTokens]
  refine ⟨_, _, fun others => ⟨fun other => other.unique cut, fun same => same ▸ cut⟩,
    fun others => ⟨fun other => other.unique joined, fun same => same ▸ joined⟩, segments,
    ?_, ?_, ?_, scan_left text.toList⟩
  · rw [segments]
    exact joined.isChain_segments
  · rw [segments]
    exact joined.empty_notMem_segments
  · rw [joined.flatMap_source, Token.flatMap_source_flatMap_pieces covers, flatMap_source_scan]

end Template

end Phrasebook
