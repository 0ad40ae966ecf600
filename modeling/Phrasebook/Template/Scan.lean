import Phrasebook.Template.Basic
import Phrasebook.Text.Blank

/-! Reading templates.

Every text is a template. From left to right, an opening with its closing brace
is an operator if its inside has that form, else a placeholder if no further
opening stands inside. A percent sign that opens neither is literal, and so is
the text up to the next percent sign. Neighbouring literals are then joined.
Each token keeps the characters it covers.
-/

set_option autoImplicit false

namespace Phrasebook

/-- A segment with the characters it was read from. -/
structure Token where
  source : List Char
  segment : Segment
  deriving DecidableEq, Repr

namespace Template

def isNameCharacter (character : Char) : Bool := character.isAlphanum || character == '_'

def readName (text : List Char) : Option String × List Char :=
  match text.takeWhile isNameCharacter with
  | [] => (none, text)
  | name => (some (String.ofList name), text.dropWhile isNameCharacter)

/-- A comma and a name, with blanks before and behind the comma. A text that does
not have this form is left as it is. -/
def readGender (text : List Char) : Option String × List Char :=
  match Text.skipBlanks text with
  | ',' :: rest =>
    match readName (Text.skipBlanks rest) with
    | (some name, rest) => (some name, rest)
    | (none, _) => (none, text)
  | _ => (none, text)

def readOperator (inside : List Char) : Option Operator :=
  let (count, rest) := readName inside
  let (gender, rest) := readGender rest
  match Text.skipBlanks rest with
  | '-' :: '>' :: rest => some ⟨count, gender, String.ofList (Text.skipBlanks rest)⟩
  | _ => none

def hasOpening : List Char → Bool
  | [] => false
  | first :: rest => (first == '%' && rest.head? == some '{') || hasOpening rest

def closed? : List Char → Option (List Char)
  | [] => none
  | first :: rest => if first = '}' then some [] else (closed? rest).map (first :: ·)

def enclosed? : List Char → Option (List Char)
  | '%' :: '{' :: text => closed? text
  | _ => none

def braced (inside : List Char) : List Char := '%' :: '{' :: inside ++ ['}']

def operatorToken? (text : List Char) : Option Token :=
  (enclosed? text).bind fun inside =>
    (readOperator inside).map fun operator => ⟨braced inside, .operator operator⟩

def placeholderToken? (text : List Char) : Option Token :=
  (enclosed? text).bind fun inside =>
    if hasOpening inside then none
    else some ⟨braced inside, .placeholder (String.ofList inside)⟩

def percentToken? : List Char → Option Token
  | '%' :: _ => some ⟨['%'], .literal (String.singleton '%')⟩
  | _ => none

def runToken? (text : List Char) : Option Token :=
  match text.takeWhile (· != '%') with
  | [] => none
  | run => some ⟨run, .literal (String.ofList run)⟩

def readToken? (text : List Char) : Option Token :=
  operatorToken? text <|> placeholderToken? text <|> percentToken? text <|> runToken? text

/-- The tokens of a text, of which the first characters belong to a token already
read, and what is left where no token can be read. -/
def scanAfter : (covered : Nat) → List Char → List Token × List Char
  | _, [] => ([], [])
  | covered + 1, _ :: rest => scanAfter covered rest
  | 0, first :: rest =>
    match readToken? (first :: rest) with
    | none => ([], first :: rest)
    | some token =>
      let (tokens, left) := scanAfter (token.source.length - 1) rest
      (token :: tokens, left)

def scan (text : List Char) : List Token × List Char := scanAfter 0 text

def joinLiterals : List Segment → List Segment
  | [] => []
  | .literal text :: rest =>
    match joinLiterals rest with
    | .literal next :: others => .literal (text ++ next) :: others
    | others => .literal text :: others
  | segment :: rest => segment :: joinLiterals rest

/-- A text in which something cannot be read is kept as one literal. -/
def parse (text : String) : Template :=
  match scan text.toList with
  | (tokens, []) => ⟨joinLiterals (tokens.map Token.segment)⟩
  | _ => .literal text

theorem scanAfter_eq (covered : Nat) (text : List Char) :
    scanAfter covered text = scan (text.drop covered) := by
  induction text generalizing covered with
  | nil => cases covered <;> simp [scan, scanAfter]
  | cons first rest ih =>
    cases covered with
    | zero => rfl
    | succ covered => simp [scanAfter, ih]

@[simp] theorem scan_nil : scan [] = ([], []) := rfl

theorem scan_append {token : Token} {rest : List Char} (nonempty : token.source ≠ [])
    (read : readToken? (token.source ++ rest) = some token) :
    scan (token.source ++ rest) = (token :: (scan rest).1, (scan rest).2) := by
  obtain ⟨source, segment⟩ := token
  obtain ⟨first, others, rfl⟩ := List.exists_cons_of_ne_nil nonempty
  simp only [List.cons_append] at read ⊢
  rw [scan, scanAfter, read]
  simp only [scanAfter_eq, List.length_cons, Nat.add_sub_cancel, List.drop_left]

theorem closed?_eq_some_iff {text inside : List Char} :
    closed? text = some inside ↔ '}' ∉ inside ∧ ∃ rest, text = inside ++ '}' :: rest := by
  induction text generalizing inside with
  | nil => simp [closed?]
  | cons first rest ih =>
    simp only [closed?]
    split
    · next same =>
      subst same
      cases inside with
      | nil => simp
      | cons head others => simp +contextual [List.cons_append]
    · next other =>
      cases inside with
      | nil => simp [other]
      | cons head others => simp [ih]; grind

theorem enclosed?_eq_some_iff {text inside : List Char} :
    enclosed? text = some inside ↔ '}' ∉ inside ∧ ∃ rest, text = braced inside ++ rest := by
  unfold enclosed?
  split
  · next text => simp [closed?_eq_some_iff, braced]
  · next unopened =>
    simp only [reduceCtorEq, false_iff, not_and, not_exists]
    intro _ rest shape
    exact unopened _ (by simpa [braced] using shape)

theorem operatorToken?_eq_some_iff {text : List Char} {token : Token} :
    operatorToken? text = some token ↔
      ∃ inside rest operator, text = braced inside ++ rest ∧ '}' ∉ inside ∧
        readOperator inside = some operator ∧ token = ⟨braced inside, .operator operator⟩ := by
  simp only [operatorToken?, Option.bind_eq_some_iff, Option.map_eq_some_iff,
    enclosed?_eq_some_iff]
  grind

theorem placeholderToken?_eq_some_iff {text : List Char} {token : Token} :
    placeholderToken? text = some token ↔
      ∃ inside rest, text = braced inside ++ rest ∧ '}' ∉ inside ∧ hasOpening inside = false ∧
        token = ⟨braced inside, .placeholder (String.ofList inside)⟩ := by
  simp only [placeholderToken?, Option.bind_eq_some_iff, enclosed?_eq_some_iff]
  grind

theorem percentToken?_eq_some_iff {text : List Char} {token : Token} :
    percentToken? text = some token ↔
      (∃ rest, text = '%' :: rest) ∧ token = ⟨['%'], .literal (String.singleton '%')⟩ := by
  unfold percentToken?
  grind

theorem runToken?_eq_some_iff {text : List Char} {token : Token} :
    runToken? text = some token ↔
      text.takeWhile (· != '%') ≠ [] ∧
        token = ⟨text.takeWhile (· != '%'), .literal (String.ofList (text.takeWhile (· != '%')))⟩ := by
  unfold runToken?
  grind

theorem readToken?_eq_some_iff {text : List Char} {token : Token} :
    readToken? text = some token ↔
      operatorToken? text = some token ∨
      operatorToken? text = none ∧ (placeholderToken? text = some token ∨
        placeholderToken? text = none ∧ (percentToken? text = some token ∨
          percentToken? text = none ∧ runToken? text = some token)) := by
  simp [readToken?]

theorem readToken?_source {text : List Char} {token : Token}
    (read : readToken? text = some token) :
    token.source ≠ [] ∧ ∃ rest, text = token.source ++ rest := by
  rcases readToken?_eq_some_iff.1 read with read | ⟨-, read | ⟨-, read | ⟨-, read⟩⟩⟩
  · obtain ⟨inside, rest, operator, shape, -, -, rfl⟩ := operatorToken?_eq_some_iff.1 read
    exact ⟨by simp [braced], rest, shape⟩
  · obtain ⟨inside, rest, shape, -, -, rfl⟩ := placeholderToken?_eq_some_iff.1 read
    exact ⟨by simp [braced], rest, shape⟩
  · obtain ⟨⟨rest, shape⟩, rfl⟩ := percentToken?_eq_some_iff.1 read
    exact ⟨by simp, rest, shape⟩
  · obtain ⟨nonempty, rfl⟩ := runToken?_eq_some_iff.1 read
    exact ⟨nonempty, _, List.takeWhile_append_dropWhile.symm⟩

theorem exists_readToken? {text : List Char} (nonempty : text ≠ []) :
    ∃ token, readToken? text = some token := by
  obtain ⟨first, rest, rfl⟩ := List.exists_cons_of_ne_nil nonempty
  apply Option.isSome_iff_exists.1
  by_cases percent : first = '%'
  · simp [readToken?, percent, percentToken?]
  · simp [readToken?, percent, runToken?]

/-- What holds of the empty text, and passes from what is behind a token to the
text with the token, holds of every text. -/
theorem scan_induction {motive : List Char → Prop} (nil : motive [])
    (token : ∀ (token : Token) (rest : List Char), token.source ≠ [] →
      readToken? (token.source ++ rest) = some token → motive rest → motive (token.source ++ rest))
    (text : List Char) : motive text := by
  by_cases empty : text = []
  · exact empty ▸ nil
  obtain ⟨first, read⟩ := exists_readToken? empty
  obtain ⟨nonempty, rest, shape⟩ := readToken?_source read
  have shorter : rest.length < text.length := by
    have := List.length_pos_iff.2 nonempty
    rw [shape, List.length_append]
    omega
  subst shape
  exact token first rest nonempty read (scan_induction nil token rest)
termination_by text.length

theorem scan_left (text : List Char) : (scan text).2 = [] := by
  induction text using scan_induction with
  | nil => rfl
  | token token rest nonempty read ih => rw [scan_append nonempty read, ih]

theorem flatMap_source_scan (text : List Char) : (scan text).1.flatMap Token.source = text := by
  induction text using scan_induction with
  | nil => rfl
  | token token rest nonempty read ih => rw [scan_append nonempty read, List.flatMap_cons, ih]

/-- No text is kept as one literal for want of a token. -/
theorem segments_parse (text : String) :
    (parse text).segments = joinLiterals ((scan text.toList).1.map Token.segment) := by
  have left := scan_left text.toList
  unfold parse
  split
  · next shape => simp [shape]
  · next kept => exact (kept _ (Prod.ext rfl left)).elim

end Template

end Phrasebook
