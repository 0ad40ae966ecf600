import Mathlib.Data.List.Basic
import Mathlib.Tactic.SplitIfs
import Phrasebook.Catalog.Basic

/-! The byte that the diagnostic of a catalog marks.

A position is a line and a count of bytes on it, so it stands for the byte behind the line
feeds in front of its line and the bytes before it on the line. The diagnostic counts one
byte for the end of each line, which is one too few where a carriage return belongs to it.
-/

set_option autoImplicit false

namespace Phrasebook

namespace Json

def linesBefore : (feeds : Nat) → List Char → List Char
  | 0, _ => []
  | _, [] => []
  | feeds + 1, first :: rest =>
    first :: linesBefore (if first = '\n' then feeds else feeds + 1) rest

/-- How often a line feed has a carriage return in front of it. -/
def returnFeeds : List Char → Nat
  | [] => 0
  | first :: rest =>
    (if first = '\r' ∧ rest.head? = some '\n' then 1 else 0) + returnFeeds rest

@[simp] theorem byteLength_nil : byteLength [] = 0 := rfl

@[simp] theorem byteLength_cons (first : Char) (rest : List Char) :
    byteLength (first :: rest) = first.utf8Size + byteLength rest := by
  simp [byteLength]

@[simp] theorem byteLength_append (first second : List Char) :
    byteLength (first ++ second) = byteLength first + byteLength second := by
  simp [byteLength]

@[simp] theorem linesBefore_zero (text : List Char) : linesBefore 0 text = [] := by
  cases text <;> rfl

theorem linesBefore_of_ne {first : Char} (other : first ≠ '\n') (feeds : Nat) (rest : List Char) :
    linesBefore (feeds + 1) (first :: rest) = first :: linesBefore (feeds + 1) rest := by
  rw [linesBefore, if_neg other]

theorem linesBefore_line {line : List Char} (whole : '\n' ∉ line) (feeds : Nat)
    (rest : List Char) :
    linesBefore (feeds + 1) (line ++ '\n' :: rest) = line ++ '\n' :: linesBefore feeds rest := by
  induction line with
  | nil => rfl
  | cons first line ih =>
    rw [List.mem_cons, not_or] at whole
    rw [List.cons_append, linesBefore_of_ne (Ne.symm whole.1), ih whole.2, List.cons_append]

theorem returnFeeds_line {line : List Char} (whole : '\n' ∉ line) (rest : List Char) :
    returnFeeds (line ++ '\n' :: rest) =
      (if line.getLast? = some '\r' then 1 else 0) + returnFeeds rest := by
  induction line with
  | nil => rfl
  | cons first line ih =>
    rw [List.mem_cons, not_or] at whole
    rw [List.cons_append, returnFeeds, ih whole.2]
    cases line with
    | nil => simp
    | cons second line =>
      have inside : second ≠ '\n' := fun same => whole.2 (same ▸ List.mem_cons_self)
      simp [inside, List.getLast?_cons_cons]

namespace Position

def lineStart (position : Position) (text : List Char) : Nat :=
  byteLength (linesBefore (position.line - 1) text)

structure LiesIn (position : Position) (text : List Char) : Prop where
  line : 0 < position.line
  column : 0 < position.column
  feeds : position.line - 1 ≤ text.count '\n'
  bytes : position.lineStart text + (position.column - 1) ≤ byteLength text

instance (position : Position) (text : List Char) : Decidable (position.LiesIn text) :=
  decidable_of_iff
    (0 < position.line ∧ 0 < position.column ∧ position.line - 1 ≤ text.count '\n' ∧
      position.lineStart text + (position.column - 1) ≤ byteLength text)
    ⟨fun ⟨line, column, feeds, bytes⟩ => ⟨line, column, feeds, bytes⟩,
      fun lies => ⟨lies.line, lies.column, lies.feeds, lies.bytes⟩⟩

/-- Every line feed that is passed begins a line, and the bytes behind the last of them are
the column. -/
theorem advance_spec (position : Position) (bytes : Nat) (text : List Char) :
    ∃ feeds ≤ text.count '\n',
      (position.advance bytes text).line = position.line + feeds ∧
        byteLength (linesBefore feeds text) + (position.advance bytes text).column =
          (if feeds = 0 then position.column else 0) + min bytes (byteLength text) := by
  -- The position and the bytes left to read both change with every character.
  induction text generalizing position bytes with
  | nil => exact ⟨0, by simp [advance]⟩
  | cons first rest ih =>
    rw [advance]
    split_ifs with none feed short
    · exact ⟨0, by simp [none]⟩
    · subst feed
      obtain ⟨feeds, enough, line, column⟩ := ih ⟨position.line + 1, 0⟩ (bytes - 1)
      refine ⟨feeds + 1, by simpa using enough, by rw [line, Nat.add_assoc, Nat.add_comm 1], ?_⟩
      have one : '\n'.utf8Size = 1 := by decide
      rw [linesBefore, if_pos rfl, byteLength_cons, byteLength_cons, one, if_neg (by omega)]
      simp only [ite_self] at column
      omega
    · refine ⟨0, by simp, by simp, ?_⟩
      rw [linesBefore_zero, byteLength_nil, if_pos rfl, byteLength_cons]
      simp only
      omega
    · obtain ⟨feeds, enough, line, column⟩ :=
        ih ⟨position.line, position.column + first.utf8Size⟩ (bytes - first.utf8Size)
      refine ⟨feeds, by simpa [List.count_cons_of_ne feed] using enough, line, ?_⟩
      -- The character counts for the column only while no line feed follows it.
      cases feeds with
      | zero =>
        simp only [linesBefore_zero, byteLength_nil, if_true, byteLength_cons] at column ⊢
        omega
      | succ feeds =>
        rw [linesBefore_of_ne feed, byteLength_cons, byteLength_cons]
        simp only [Nat.succ_ne_zero, if_false] at column ⊢
        omega

theorem lineStart_advance_start (bytes : Nat) (text : List Char) :
    let position := start.advance bytes text
    position.lineStart text + position.column = min bytes (byteLength text) ∧
      (0 < position.column → position.LiesIn text) := by
  intro position
  obtain ⟨feeds, enough, line, column⟩ := advance_spec start bytes text
  have before : position.line = feeds + 1 := line.trans (Nat.add_comm 1 feeds)
  have read : position.lineStart text + position.column = min bytes (byteLength text) := by
    rw [lineStart, before, Nat.add_sub_cancel, column]
    simp [start]
  exact ⟨read, fun positive => ⟨by omega, positive, by omega, by omega⟩⟩

end Position

end Json

open Json

theorem completeLines_line {line : List Char} (whole : '\n' ∉ line) (rest : List Char) :
    completeLines (line ++ '\n' :: rest) =
      (if line.getLast? = some '\r' then line.dropLast else line) :: completeLines rest := by
  rw [completeLines, Text.split_append_cons whole,
    List.dropLast_cons_of_ne_nil (Text.split_ne_nil '\n' rest), List.map_cons, completeLines]

theorem byteLength_withoutReturn (line : List Char) :
    byteLength (if line.getLast? = some '\r' then line.dropLast else line) +
      (if line.getLast? = some '\r' then 1 else 0) = byteLength line := by
  split_ifs with last
  · obtain ⟨front, rfl⟩ := List.getLast?_eq_some_iff.1 last
    have one : '\r'.utf8Size = 1 := by decide
    simp [one]
  · rfl

theorem sum_completeLines {feeds : Nat} {text : List Char} (enough : feeds ≤ text.count '\n') :
    (((completeLines text).take feeds).map (byteLength · + 1)).sum +
      returnFeeds (linesBefore feeds text) = byteLength (linesBefore feeds text) := by
  -- Each step takes the first line with its line feed from the text.
  induction feeds generalizing text with
  | zero => simp [returnFeeds]
  | succ feeds ih =>
    have member : '\n' ∈ text := List.count_pos_iff.1 (by omega)
    obtain ⟨line, rest, rfl, whole⟩ := List.eq_append_cons_of_mem member
    have fewer : feeds ≤ rest.count '\n' := by
      rw [List.count_append, List.count_eq_zero_of_not_mem whole, List.count_cons_self] at enough
      omega
    have one : '\n'.utf8Size = 1 := by decide
    rw [completeLines_line whole, linesBefore_line whole, returnFeeds_line whole,
      List.take_succ_cons, List.map_cons, List.sum_cons, byteLength_append, byteLength_cons, one]
    have remaining := ih fewer
    have stripped := byteLength_withoutReturn line
    omega

namespace CatalogDiagnostic

theorem offsetAt_add_returnFeeds {text : List Char} {position : Position}
    (lies : position.LiesIn text) :
    offsetAt text position + returnFeeds (linesBefore (position.line - 1) text) =
      position.lineStart text + (position.column - 1) := by
  have counted := sum_completeLines lies.feeds
  have within := lies.bytes
  rw [Position.lineStart] at within ⊢
  rw [offsetAt]
  omega

/-- The marked byte is that of the position less one for each earlier line that ends with a
carriage return and a line feed, so it is that of the position just when there is no such
line. Wherever reading finds a fault, the position counts the bytes that have been read. -/
theorem offset_exact_iff (diagnostic : CatalogDiagnostic) :
    (∀ position : Position, position.LiesIn diagnostic.source →
      let target := position.lineStart diagnostic.source + (position.column - 1)
      let returns := returnFeeds (linesBefore (position.line - 1) diagnostic.source)
      offsetAt diagnostic.source position + returns = target ∧
        (offsetAt diagnostic.source position = target ↔ returns = 0)) ∧
      ∀ position : Position, diagnostic.fault.position? diagnostic.source = some position →
        diagnostic.offset = offsetAt diagnostic.source position ∧
          position.lineStart diagnostic.source + position.column =
            min (byteLength diagnostic.source - byteLength diagnostic.fault.rest +
              diagnostic.fault.ahead) (byteLength diagnostic.source) ∧
          (0 < position.column → position.LiesIn diagnostic.source) := by
  constructor
  · intro position lies target returns
    have counted : offsetAt diagnostic.source position + returns = target :=
      offsetAt_add_returnFeeds lies
    exact ⟨counted, by omega⟩
  · intro position found
    have marked : diagnostic.offset = offsetAt diagnostic.source position := by
      rw [offset, found]
    rw [Fault.position?] at found
    split_ifs at found
    obtain rfl := Option.some.inj found
    exact ⟨marked, Position.lineStart_advance_start _ _⟩

def missingColon : CatalogDiagnostic :=
  ⟨.past .expectedColon ['?'], "[\n\n\x7b\"ключ\" ?".toList⟩

theorem missingColon_marked :
    readCatalog "[\n\n\x7b\"ключ\" ?" = .error missingColon ∧
      missingColon.fault.position? missingColon.source = some ⟨3, 13⟩ ∧
      (⟨3, 13⟩ : Position).LiesIn missingColon.source ∧
      (⟨3, 13⟩ : Position).lineStart missingColon.source = 3 ∧ missingColon.offset = 15 := by
  have found : missingColon.fault.position? missingColon.source = some ⟨3, 13⟩ := by decide
  obtain ⟨counted, placed⟩ := offset_exact_iff missingColon
  obtain ⟨marked, -, lies⟩ := placed _ found
  have inside : (⟨3, 13⟩ : Position).LiesIn missingColon.source := lies (by decide)
  refine ⟨rfl, found, inside, by decide, ?_⟩
  rw [marked]
  exact ((counted _ inside).2.2 (by decide)).trans (by decide)

/-- A value that is none, behind a line that ends with a carriage return and a line feed. -/
def behindReturnFeed : CatalogDiagnostic :=
  ⟨.past .expectedValue ['?', ']'], "[\r\n?]".toList⟩

/-- The line feed is marked in place of the byte behind it. -/
theorem behindReturnFeed_marked_early :
    readCatalog "[\r\n?]" = .error behindReturnFeed ∧
      behindReturnFeed.fault.position? behindReturnFeed.source = some ⟨2, 1⟩ ∧
      (⟨2, 1⟩ : Position).LiesIn behindReturnFeed.source ∧
      (⟨2, 1⟩ : Position).lineStart behindReturnFeed.source + (1 - 1) = 3 ∧
      behindReturnFeed.offset = 2 := by
  exact ⟨rfl, by decide, by decide, by decide, by decide⟩

end CatalogDiagnostic

end Phrasebook
