import Mathlib.Data.List.Forall2
import Phrasebook.Proofs.Json.Literals

/-! The members of an object and the items of a list, as they stand in a text.

Both are read in turn, and readers differ only in what they make of an element: a reader answers
what the elements that there are make of its state, taken one after the other. Reading values
collects them, so every other reader goes with a value that could be read in its place.
-/

set_option autoImplicit false

namespace Phrasebook.Json

section Sequences

variable {σ ε : Type} {characters : Nat} {first : Bool} {text rest : List Char}
  {next : Bool → List Char → Except Fault (Option (List Char))} {element : Reader ε}
  {step : σ → Reader σ} {take : σ → ε → Option σ}
  {run : (characters : Nat) → (first : Bool) → σ → Reader σ}

/-- A reader of elements in turn. Where the next one begins is told by `next`, and at least one
character is left for each. -/
structure ReadsInTurn (next : Bool → List Char → Except Fault (Option (List Char)))
    (step : σ → Reader σ) (run : (characters : Nat) → (first : Bool) → σ → Reader σ) : Prop where
  zero (first : Bool) (state : σ) (text : List Char) (result : σ × List Char) :
    run 0 first state text ≠ .ok result
  succ (characters : Nat) (first : Bool) (state : σ) (text : List Char) :
    run (characters + 1) first state text = (do
      match ← next first text with
      | none => return (state, skipBlanks text)
      | some rest =>
        let (state, rest) ← step state rest
        run characters false state rest)

/-- A step that takes elements as they are read and can refuse some of them. -/
def Takes (element : Reader ε) (step : σ → Reader σ) (take : σ → ε → Option σ) : Prop :=
  ∀ state text next rest, step state text = .ok (next, rest) ↔
    ∃ value, element text = .ok (value, rest) ∧ take state value = some next

inductive HasElements (next : Bool → List Char → Except Fault (Option (List Char)))
    (element : Reader ε) :
    (characters : Nat) → (first : Bool) → List Char → List ε → List Char → Prop where
  | done {characters : Nat} {first : Bool} {text : List Char} :
      next first text = .ok none →
      HasElements next element (characters + 1) first text [] (skipBlanks text)
  | more {characters : Nat} {first : Bool} {text start following rest : List Char} {value : ε}
      {others : List ε} :
      next first text = .ok (some start) → element start = .ok (value, following) →
      HasElements next element characters false following others rest →
      HasElements next element (characters + 1) first text (value :: others) rest

/-- The answer of a reader is what the elements make of its state. -/
theorem ReadsInTurn.eq_ok_iff (reads : ReadsInTurn next step run)
    (takes : Takes element step take) {state final : σ} :
    run characters first state text = .ok (final, rest) ↔
      ∃ elements, HasElements next element characters first text elements rest ∧
        elements.foldlM take state = some final := by
  -- Each element is read with one character less to go, and `first` holds of the first alone.
  induction characters generalizing first state text with
  | zero =>
    refine iff_of_false (reads.zero first state text _) ?_
    rintro ⟨_, impossible, -⟩
    cases impossible
  | succ characters ih =>
    rw [reads.succ, bind_eq_ok_iff]
    constructor
    · rintro ⟨found, start, read⟩
      cases found with
      | none =>
        obtain ⟨rfl, rfl⟩ := Prod.mk.inj (Except.ok.inj read)
        exact ⟨[], .done start, rfl⟩
      | some behind =>
        obtain ⟨⟨after, following⟩, read, others⟩ := bind_eq_ok_iff.1 read
        obtain ⟨value, found, taken⟩ := (takes ..).1 read
        obtain ⟨elements, has, folded⟩ := ih.1 others
        refine ⟨value :: elements, .more start found has, ?_⟩
        rw [List.foldlM_cons, taken]
        exact folded
    · rintro ⟨elements, has, folded⟩
      cases has with
      | done start =>
        obtain rfl := Option.some.inj folded
        exact ⟨none, start, rfl⟩
      | @more _ _ _ behind following _ value others start found has =>
        rw [List.foldlM_cons] at folded
        obtain ⟨after, taken, folded⟩ := Option.bind_eq_some_iff.1 folded
        exact ⟨some behind, start, bind_eq_ok_iff.2 ⟨(after, following),
          (takes ..).2 ⟨value, found, taken⟩, ih.2 ⟨others, has, folded⟩⟩⟩

theorem foldlM_collect_eq_some_iff {α β : Type} {make : α → Option β} {elements : List α}
    {before final : List β} :
    elements.foldlM (fun collected element => (make element).map (· :: collected)) before =
        some final ↔
      ∃ made, List.Forall₂ (make · = some ·) elements made ∧ final = made.reverse ++ before := by
  induction elements generalizing before with
  | nil => simp [List.forall₂_nil_left_iff, eq_comm]
  | cons element elements ih =>
    rw [List.foldlM_cons]
    constructor
    · intro folded
      obtain ⟨_, first, later⟩ := Option.bind_eq_some_iff.1 folded
      obtain ⟨result, found, rfl⟩ := Option.map_eq_some_iff.1 first
      obtain ⟨made, all, rfl⟩ := ih.1 later
      exact ⟨result :: made, .cons found all, by simp⟩
    · rintro ⟨made, all, rfl⟩
      cases all with
      | @cons _ result _ made found all =>
        refine Option.bind_eq_some_iff.2 ⟨result :: before, ?_, ih.2 ⟨made, all, ?_⟩⟩
        · rw [found]
          rfl
        · simp

theorem foldlM_cons_eq_some_iff {α : Type} {elements final : List α} :
    elements.foldlM (fun collected element => some (element :: collected)) [] = some final ↔
      elements = final.reverse := by
  refine (@foldlM_collect_eq_some_iff α α some elements [] final).trans ?_
  simp only [Option.some_inj, List.forall₂_eq_eq_eq, exists_eq_left', List.append_nil]
  exact ⟨fun same => by rw [same, List.reverse_reverse],
    fun same => by rw [same, List.reverse_reverse]⟩

theorem ReadsInTurn.collect_eq_ok_iff {run : Nat → Bool → List ε → Reader (List ε)}
    {step : List ε → Reader (List ε)} (reads : ReadsInTurn next step run)
    (takes : Takes element step fun collected value => some (value :: collected))
    {final : List ε} :
    run characters first [] text = .ok (final, rest) ↔
      HasElements next element characters first text final.reverse rest := by
  simp only [reads.eq_ok_iff takes, foldlM_cons_eq_some_iff, exists_eq_right]

theorem readsInTurn_readItems (item : σ → Reader σ) :
    ReadsInTurn nextItem item (readItems item) where
  zero := by simp [readItems]
  succ _ _ _ _ := rfl

theorem readsInTurn_readMembers (member : σ → String → Reader σ) :
    ReadsInTurn nextMember (fun state text => do
        let (name, rest) ← Quotation.read text
        member state name rest)
      (readMembers member) where
  zero := by simp [readMembers]
  succ characters first state text := by
    rw [readMembers]
    congr 1
    funext found
    cases found with
    | none => rfl
    | some start => exact (bind_assoc ..).symm

theorem braced_eq_ok_iff {α : Type} {inside : Reader α} {value : α} :
    braced inside text = .ok (value, rest) ↔
      ∃ before, inside text = .ok (value, before) ∧ endObject before = .ok rest := by
  unfold braced
  cases inside text with
  | error fault => simp
  | ok result =>
    simp only [map_eq_ok_iff, Prod.mk.injEq, Except.ok.injEq]
    grind

theorem bracketed_eq_ok_iff {α : Type} {inside : Reader α} {value : α} :
    bracketed inside text = .ok (value, rest) ↔
      ∃ before, inside text = .ok (value, before) ∧ endList before = .ok rest := by
  unfold bracketed
  cases inside text with
  | error fault => simp
  | ok result =>
    simp only [map_eq_ok_iff, Prod.mk.injEq, Except.ok.injEq]
    grind

end Sequences

def readMemberValue (depth : Nat) : Reader Json := fun text => do
  readValue depth (← readColon text)

def readPair (depth : Nat) : Reader (String × Json) := fun text => do
  let (name, rest) ← Quotation.read text
  let (value, rest) ← readMemberValue depth rest
  return ((name, value), rest)

/-- A reader of members that takes their values as they are and can refuse some of them. -/
def TakesMembers {σ : Type} (depth : Nat) (member : σ → String → Reader σ)
    (take : σ → String × Json → Option σ) : Prop :=
  ∀ state name text next rest, member state name text = .ok (next, rest) ↔
    ∃ value, readMemberValue depth text = .ok (value, rest) ∧ take state (name, value) = some next

section Values

variable {σ : Type} {depth characters : Nat} {first : Bool} {text rest : List Char}

theorem TakesMembers.takes {member : σ → String → Reader σ} {take : σ → String × Json → Option σ}
    (takes : TakesMembers depth member take) :
    Takes (readPair depth) (fun state text => do
        let (name, rest) ← Quotation.read text
        member state name rest) take := by
  intro state text next rest
  simp only [readPair, bind_eq_ok_iff]
  constructor
  · rintro ⟨⟨name, behind⟩, quotation, read⟩
    obtain ⟨value, found, taken⟩ := (takes ..).1 read
    exact ⟨(name, value), ⟨(name, behind), quotation, (value, rest), found, rfl⟩, taken⟩
  · rintro ⟨_, ⟨⟨name, behind⟩, quotation, ⟨value, _⟩, found, same⟩, taken⟩
    obtain ⟨rfl, rfl⟩ := Prod.mk.inj (Except.ok.inj same)
    exact ⟨(name, behind), quotation, (takes ..).2 ⟨value, found, taken⟩⟩

theorem takesMembers_values :
    TakesMembers depth (fun members name text => do
        let (value, rest) ← readValue depth (← readColon text)
        return ((name, value) :: members, rest))
      fun members member => some (member :: members) := by
  intro members name text next rest
  simp only [readMemberValue, bind_eq_ok_iff, Option.some_inj]
  constructor
  · rintro ⟨behind, colon, ⟨value, _⟩, read, same⟩
    obtain ⟨rfl, rfl⟩ := Prod.mk.inj (Except.ok.inj same)
    exact ⟨value, ⟨behind, colon, read⟩, rfl⟩
  · rintro ⟨value, ⟨behind, colon, read⟩, rfl⟩
    exact ⟨behind, colon, (value, rest), read, rfl⟩

theorem takes_values :
    Takes (readValue depth) (fun items text => do
        let (value, rest) ← readValue depth text
        return (value :: items, rest))
      fun items value => some (value :: items) := by
  intro items text next rest
  simp only [bind_eq_ok_iff, Option.some_inj]
  constructor
  · rintro ⟨⟨value, _⟩, read, same⟩
    obtain ⟨rfl, rfl⟩ := Prod.mk.inj (Except.ok.inj same)
    exact ⟨value, read, rfl⟩
  · rintro ⟨value, read, rfl⟩
    exact ⟨(value, rest), read, rfl⟩

theorem readMembers_values {final : List (String × Json)} :
    readMembers (fun members name text => do
        let (value, rest) ← readValue depth (← readColon text)
        return ((name, value) :: members, rest)) characters first [] text = .ok (final, rest) ↔
      HasElements nextMember (readPair depth) characters first text final.reverse rest :=
  (readsInTurn_readMembers _).collect_eq_ok_iff takesMembers_values.takes

theorem readItems_values {final : List Json} :
    readItems (fun items text => do
        let (value, rest) ← readValue depth text
        return (value :: items, rest)) characters first [] text = .ok (final, rest) ↔
      HasElements nextItem (readValue depth) characters first text final.reverse rest :=
  (readsInTurn_readItems _).collect_eq_ok_iff takes_values

end Values

def HasObject (depth : Nat) (text : List Char) (members : List (String × Json))
    (rest : List Char) : Prop :=
  ∃ inside before, skipBlanks text = '{' :: inside ∧
    HasElements nextMember (readPair depth) (inside.length + 1) true inside members before ∧
      endObject before = .ok rest

def HasList (depth : Nat) (text : List Char) (items : List Json) (rest : List Char) : Prop :=
  ∃ inside before, skipBlanks text = '[' :: inside ∧
    HasElements nextItem (readValue depth) (inside.length + 1) true inside items before ∧
      endList before = .ok rest

variable {depth : Nat} {text rest : List Char}

theorem readValue_eq_object_iff {members : List (String × Json)} :
    readValue depth text = .ok (.object members, rest) ↔
      ∃ below, depth = below + 1 ∧ HasObject below text members rest := by
  unfold readValue HasObject
  split
  · simp
  · simp
  · next shape => simp [bind_eq_ok_iff, pure, Except.pure, shape]
  · next below inside shape =>
    simp only [bind_eq_ok_iff, shape]
    constructor
    · rintro ⟨⟨collected, _⟩, read, same⟩
      obtain ⟨before, read, ended⟩ := braced_eq_ok_iff.1 read
      have same := Prod.mk.inj (Except.ok.inj same)
      obtain rfl := Json.object.inj same.1
      obtain rfl := same.2
      exact ⟨below, rfl, inside, before, rfl, readMembers_values.1 read, ended⟩
    · rintro ⟨_, sameDepth, _, before, same, has, ended⟩
      obtain rfl := Nat.succ.inj sameDepth
      obtain rfl := (List.cons.inj same).2
      refine ⟨(members.reverse, rest), braced_eq_ok_iff.2 ⟨before, readMembers_values.2 ?_, ended⟩,
        ?_⟩
      · rwa [List.reverse_reverse]
      · show Except.ok (Json.object members.reverse.reverse, rest) = _
        rw [List.reverse_reverse]
  · next noBrace =>
    refine iff_of_false (fun read => isFlat_of_readScalar read) ?_
    rintro ⟨below, sameDepth, inside, before, shape, -⟩
    exact noBrace below inside sameDepth shape

theorem readValue_eq_list_iff {items : List Json} :
    readValue depth text = .ok (.list items, rest) ↔
      ∃ below, depth = below + 1 ∧ HasList below text items rest := by
  unfold readValue HasList
  split
  · simp
  · simp
  · next below inside shape =>
    simp only [bind_eq_ok_iff, shape]
    constructor
    · rintro ⟨⟨collected, _⟩, read, same⟩
      obtain ⟨before, read, ended⟩ := bracketed_eq_ok_iff.1 read
      have same := Prod.mk.inj (Except.ok.inj same)
      obtain rfl := Json.list.inj same.1
      obtain rfl := same.2
      exact ⟨below, rfl, inside, before, rfl, readItems_values.1 read, ended⟩
    · rintro ⟨_, sameDepth, _, before, same, has, ended⟩
      obtain rfl := Nat.succ.inj sameDepth
      obtain rfl := (List.cons.inj same).2
      refine ⟨(items.reverse, rest), bracketed_eq_ok_iff.2 ⟨before, readItems_values.2 ?_, ended⟩,
        ?_⟩
      · rwa [List.reverse_reverse]
      · show Except.ok (Json.list items.reverse.reverse, rest) = _
        rw [List.reverse_reverse]
  · next shape => simp [bind_eq_ok_iff, pure, Except.pure, shape]
  · next noBracket _ =>
    refine iff_of_false (fun read => isFlat_of_readScalar read) ?_
    rintro ⟨below, sameDepth, inside, before, shape, -⟩
    exact noBracket below inside sameDepth shape

theorem readAll_eq_ok_iff {α : Type} {reader : Reader α} {text : List Char} {value : α} :
    readAll reader text = .ok value ↔ ∃ rest, reader text = .ok (value, rest) ∧
      skipBlanks rest = [] := by
  rw [readAll, bind_eq_ok_iff]
  constructor
  · rintro ⟨⟨found, rest⟩, read, finished⟩
    dsimp only at finished
    split at finished
    · next atEnd =>
      obtain rfl := Except.ok.inj finished
      exact ⟨rest, read, atEnd⟩
    · cases finished
  · rintro ⟨rest, read, atEnd⟩
    refine ⟨(value, rest), read, ?_⟩
    simp only [atEnd]
    rfl

end Phrasebook.Json
