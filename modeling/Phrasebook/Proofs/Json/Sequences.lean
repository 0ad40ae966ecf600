import Phrasebook.Proofs.Json.Scalars

/-! Members and items that are written in one line are read back.

The readers are given what reads one member or one item. If that takes each of
them in turn, from one state to the next, then the whole is read to its end.
-/

set_option autoImplicit false

namespace Phrasebook.Json

theorem readColon_cons (rest : List Char) : readColon (':' :: rest) = .ok rest := by
  rw [readColon, skipBlanks_cons (by decide)]
  rfl

section Sequences

variable {σ : Type}

def writtenMembers : (first : Bool) → List (String × Json) → List Char
  | _, [] => []
  | first, (name, value) :: others =>
    (if first then [] else [',']) ++
      (Quotation.write name ++ ':' :: (value.compact ++ writtenMembers false others))

def writtenItems : (first : Bool) → List Json → List Char
  | _, [] => []
  | first, item :: others =>
    (if first then [] else [',']) ++ (item.compact ++ writtenItems false others)

theorem compactMembers_eq (members : List (String × Json)) :
    compactMembers members = writtenMembers true members := by
  induction members with
  | nil => rfl
  | cons member others ih =>
    obtain ⟨name, value⟩ := member
    cases others with
    | nil => simp [compactMembers, writtenMembers]
    | cons next others => simp [compactMembers, ih, writtenMembers]

theorem compactItems_eq (items : List Json) : compactItems items = writtenItems true items := by
  induction items with
  | nil => rfl
  | cons item others ih =>
    cases others with
    | nil => simp [compactItems, writtenItems]
    | cons next others => simp [compactItems, ih, writtenItems]

theorem compactItems_eq_intercalate (items : List Json) :
    compactItems items = List.intercalate [','] (items.map compact) := by
  induction items with
  | nil => rfl
  | cons item others ih =>
    cases others with
    | nil => simp [compactItems]
    | cons next others => simp_all [compactItems, List.intercalate]

theorem compact_object_append (members : List (String × Json)) (rest : List Char) :
    (Json.object members).compact ++ rest = '{' :: (writtenMembers true members ++ '}' :: rest) := by
  simp [compact, compactMembers_eq]

theorem compact_list_append (items : List Json) (rest : List Char) :
    (Json.list items).compact ++ rest = '[' :: (writtenItems true items ++ ']' :: rest) := by
  simp [compact, compactItems_eq]

/-- Each member is read from what is written of it, up to the text behind it, and leads
from one state to the next. -/
inductive ReadsMembers (member : σ → String → Reader σ) : σ → List (String × Json) → σ → Prop where
  | nil (state : σ) : ReadsMembers member state [] state
  | cons {state next final : σ} {name : String} {value : Json} {others : List (String × Json)} :
      (∀ rest, EndsNumber rest →
        member state name (':' :: (value.compact ++ rest)) = .ok (next, rest)) →
      ReadsMembers member next others final →
      ReadsMembers member state ((name, value) :: others) final

theorem endsNumber_writtenMembers (members : List (String × Json)) (rest : List Char) :
    EndsNumber (writtenMembers false members ++ '}' :: rest) := by
  cases members <;> exact endsNumber_cons (by decide) _

theorem length_le_writtenMembers (first : Bool) (members : List (String × Json)) :
    members.length ≤ (writtenMembers first members).length := by
  induction members generalizing first with
  | nil => exact Nat.zero_le _
  | cons member others ih =>
    have := ih false
    simp only [writtenMembers, List.length_append, List.length_cons]
    omega

theorem nextMember_written (first : Bool) (name : String) (rest : List Char) :
    nextMember first ((if first then [] else [',']) ++ (Quotation.write name ++ rest)) =
      .ok (some (name.toList.flatMap Quotation.escape ++ '"' :: rest)) := by
  rw [Quotation.write_append]
  cases first with
  | true => simp [nextMember, skipBlanks_cons (show isBlank '"' = false by decide)]
  | false =>
    simp [nextMember, skipBlanks_cons (show isBlank '"' = false by decide),
      skipBlanks_cons (show isBlank ',' = false by decide)]

theorem nextMember_end (first : Bool) (rest : List Char) :
    nextMember first ('}' :: rest) = .ok none := by
  rw [nextMember, skipBlanks_cons (by decide)]
  rfl

theorem readMembers_written {member : σ → String → Reader σ} {state final : σ}
    {members : List (String × Json)} (reads : ReadsMembers member state members final)
    {characters : Nat} (enough : members.length < characters) (first : Bool) (rest : List Char) :
    readMembers member characters first state (writtenMembers first members ++ '}' :: rest) =
      .ok (final, '}' :: rest) := by
  induction reads generalizing characters first with
  | nil state =>
    obtain ⟨more, rfl⟩ := Nat.exists_eq_add_one.2 enough
    rw [writtenMembers, List.nil_append, readMembers, nextMember_end]
    show Except.ok (state, skipBlanks ('}' :: rest)) = _
    rw [skipBlanks_cons (by decide)]
  | @cons state next final name value others read _ ih =>
    obtain ⟨more, rfl⟩ := Nat.exists_eq_add_one.2 (Nat.zero_lt_of_lt enough)
    simp only [writtenMembers, List.append_assoc, List.cons_append]
    rw [readMembers, nextMember_written]
    simp only [bind, Except.bind, Quotation.read_write,
      read _ (endsNumber_writtenMembers others rest)]
    exact ih (Nat.lt_of_succ_lt_succ enough) false

theorem readMembers_all {member : σ → String → Reader σ} {state final : σ}
    {members : List (String × Json)} (reads : ReadsMembers member state members final)
    (rest : List Char) :
    readMembers member ((writtenMembers true members ++ '}' :: rest).length + 1) true state
      (writtenMembers true members ++ '}' :: rest) = .ok (final, '}' :: rest) := by
  apply readMembers_written reads
  have := length_le_writtenMembers true members
  rw [List.length_append]
  omega

theorem braced_written {α : Type} {inside : Reader α} {value : α} {text rest : List Char}
    (read : inside (text ++ '}' :: rest) = .ok (value, '}' :: rest)) :
    braced inside (text ++ '}' :: rest) = .ok (value, rest) := by
  rw [braced, read]
  simp only [endObject, skipBlanks_cons (show isBlank '}' = false by decide), Except.map]

theorem bracketed_written {α : Type} {inside : Reader α} {value : α} {text rest : List Char}
    (read : inside (text ++ ']' :: rest) = .ok (value, ']' :: rest)) :
    bracketed inside (text ++ ']' :: rest) = .ok (value, rest) := by
  rw [bracketed, read]
  simp only [endList, skipBlanks_cons (show isBlank ']' = false by decide), Except.map]

/-- Each item begins with a character that is no sign between items, and is read from
what is written of it, up to the text behind it. -/
inductive ReadsItems (item : σ → Reader σ) : σ → List Json → σ → Prop where
  | nil (state : σ) : ReadsItems item state [] state
  | cons {state next final : σ} {first : Char} {rest : List Char} {value : Json}
      {others : List Json} :
      value.compact = first :: rest → isBlank first = false → first ≠ ']' → first ≠ ',' →
      (∀ rest, EndsNumber rest → item state (value.compact ++ rest) = .ok (next, rest)) →
      ReadsItems item next others final → ReadsItems item state (value :: others) final

theorem endsNumber_writtenItems (items : List Json) (rest : List Char) :
    EndsNumber (writtenItems false items ++ ']' :: rest) := by
  cases items <;> exact endsNumber_cons (by decide) _

theorem nextItem_written (first : Bool) {start : Char} {rest : List Char}
    (visible : isBlank start = false) (noEnd : start ≠ ']') (noComma : start ≠ ',') :
    nextItem first ((if first then [] else [',']) ++ start :: rest) =
      .ok (some (start :: rest)) := by
  cases first with
  | true =>
    simp only [if_true, List.nil_append, nextItem, skipBlanks_cons visible]
    split
    · contradiction
    · next shape => exact absurd (List.cons.inj shape).1 noEnd
    · next shape => exact absurd (List.cons.inj shape).1 noComma
    · rfl
  | false =>
    simp only [Bool.false_eq_true, if_false, List.singleton_append, nextItem,
      skipBlanks_cons visible, skipBlanks_cons (show isBlank ',' = false by decide)]
    split
    · contradiction
    · next shape => exact absurd (List.cons.inj shape).1 noEnd
    · rfl

theorem nextItem_end (first : Bool) (rest : List Char) :
    nextItem first (']' :: rest) = .ok none := by
  rw [nextItem, skipBlanks_cons (by decide)]
  rfl

theorem readItems_written {item : σ → Reader σ} {state final : σ} {items : List Json}
    (reads : ReadsItems item state items final) {characters : Nat}
    (enough : items.length < characters) (first : Bool) (rest : List Char) :
    readItems item characters first state (writtenItems first items ++ ']' :: rest) =
      .ok (final, ']' :: rest) := by
  induction reads generalizing characters first with
  | nil state =>
    obtain ⟨more, rfl⟩ := Nat.exists_eq_add_one.2 enough
    rw [writtenItems, List.nil_append, readItems, nextItem_end]
    show Except.ok (state, skipBlanks (']' :: rest)) = _
    rw [skipBlanks_cons (by decide)]
  | @cons state next final start tail value others shape visible noEnd noComma read _ ih =>
    obtain ⟨more, rfl⟩ := Nat.exists_eq_add_one.2 (Nat.zero_lt_of_lt enough)
    have read := read _ (endsNumber_writtenItems others rest)
    rw [shape, List.cons_append] at read
    simp only [writtenItems, List.append_assoc, shape, List.cons_append]
    rw [readItems, nextItem_written first visible noEnd noComma]
    simp only [bind, Except.bind, read]
    exact ih (Nat.lt_of_succ_lt_succ enough) false

theorem ReadsItems.length_le {item : σ → Reader σ} {state final : σ} {items : List Json}
    (reads : ReadsItems item state items final) (first : Bool) :
    items.length ≤ (writtenItems first items).length := by
  induction reads generalizing first with
  | nil state => exact Nat.zero_le _
  | @cons _ _ _ _ _ value _ shape _ _ _ _ _ ih =>
    have := ih false
    simp only [writtenItems, shape, List.length_append, List.length_cons]
    omega

theorem readItems_all {item : σ → Reader σ} {state final : σ} {items : List Json}
    (reads : ReadsItems item state items final) (rest : List Char) :
    readItems item ((writtenItems true items ++ ']' :: rest).length + 1) true state
      (writtenItems true items ++ ']' :: rest) = .ok (final, ']' :: rest) := by
  apply readItems_written reads
  have := reads.length_le true
  rw [List.length_append]
  omega

end Sequences

end Phrasebook.Json
