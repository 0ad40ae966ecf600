import Phrasebook.Catalog.Basic
import Phrasebook.Proofs.Catalog.Members

/-! Which JSON texts are entries.

An entry is read in one go with the object that it is: the template in place, the other members
as values from which the identity is taken at the end. What comes out is what the members of
the object make, whatever their order.
-/

set_option autoImplicit false

namespace Phrasebook

open Json

variable {depth : Nat} {text rest : List Char} {entry : Entry}

theorem EntryDraft.takesMembers_readMember : TakesMembers depth (readMember depth) take? := by
  intro draft name text next rest
  unfold readMember take? readMemberValue
  by_cases isTemplate : name = "template"
  · subst isTemplate
    simp only [if_true]
    -- A second template is refused before its value is read, and the first has to be a text.
    cases given : draft.template.isSome with
    | true => simp [bind_eq_ok_iff]
    | false =>
      simp only [Bool.false_eq_true, if_false, bind_eq_ok_iff, Option.map_eq_some_iff,
        string?_eq_some_iff]
      constructor
      · rintro ⟨behind, colon, ⟨template, _⟩, read, same⟩
        obtain ⟨rfl, rfl⟩ := Prod.mk.inj (Except.ok.inj same)
        exact ⟨.string template, ⟨behind, colon, readText_eq_ok_iff.1 read⟩, template, rfl, rfl⟩
      · rintro ⟨_, ⟨behind, colon, read⟩, template, rfl, rfl⟩
        exact ⟨behind, colon, (template, rest), readText_eq_ok_iff.2 read, rfl⟩
  · simp only [isTemplate, if_false, bind_eq_ok_iff, Option.some_inj]
    constructor
    · rintro ⟨behind, colon, ⟨value, _⟩, read, same⟩
      obtain ⟨rfl, rfl⟩ := Prod.mk.inj (Except.ok.inj same)
      exact ⟨value, ⟨behind, colon, read⟩, rfl⟩
    · rintro ⟨value, ⟨behind, colon, read⟩, rfl⟩
      exact ⟨behind, colon, (value, rest), read, rfl⟩

namespace Entry

theorem readObject_eq_ok_iff :
    readObject depth text = .ok (entry, rest) ↔ ∃ members,
      HasElements nextMember (readPair depth) (text.length + 1) true text members rest ∧
        entry.GivenBy members := by
  simp only [readObject, bind_eq_ok_iff, givenBy_iff_finish]
  constructor
  · rintro ⟨⟨draft, behind⟩, read, finished⟩
    obtain ⟨members, has, folded⟩ :=
      ((readsInTurn_readMembers _).eq_ok_iff EntryDraft.takesMembers_readMember.takes).1 read
    split at finished
    · next found =>
      obtain ⟨rfl, rfl⟩ := Prod.mk.inj (Except.ok.inj finished)
      exact ⟨members, has, draft, folded, found⟩
    · cases finished
  · rintro ⟨members, has, draft, folded, found⟩
    refine ⟨(draft, rest), ((readsInTurn_readMembers _).eq_ok_iff
      EntryDraft.takesMembers_readMember.takes).2 ⟨members, has, folded⟩, ?_⟩
    simp only [found]
    rfl

theorem read_eq_ok_iff :
    read depth text = .ok (entry, rest) ↔ ∃ members,
      readValue depth text = .ok (.object members, rest) ∧ entry.GivenBy members := by
  simp only [readValue_eq_object_iff, HasObject]
  unfold read
  split
  · next shape => simp [shape]
  · simp
  · next below inside shape =>
    rw [braced_eq_ok_iff]
    simp only [readObject_eq_ok_iff, shape]
    constructor
    · rintro ⟨before, ⟨members, has, given⟩, ended⟩
      exact ⟨members, ⟨below, rfl, inside, before, rfl, has, ended⟩, given⟩
    · rintro ⟨members, ⟨_, sameDepth, _, before, same, has, ended⟩, given⟩
      obtain rfl := Nat.succ.inj sameDepth
      obtain rfl := (List.cons.inj same).2
      exact ⟨before, ⟨members, has, given⟩, ended⟩
  · next noBrace =>
    refine iff_of_false (wrongType_ne_ok _ _ _) ?_
    rintro ⟨_, ⟨below, sameDepth, inside, _, shape, -⟩, -⟩
    exact noBrace below inside sameDepth shape

theorem read_iff_givenBy {members : List (String × Json)}
    (object : readValue depth text = .ok (.object members, rest)) :
    read depth text = .ok (entry, rest) ↔ entry.GivenBy members := by
  rw [read_eq_ok_iff, object]
  simp

theorem read_eq_ok_iff_ofJson? :
    read depth text = .ok (entry, rest) ↔
      ∃ value, readValue depth text = .ok (value, rest) ∧ ofJson? value = some entry := by
  simp only [read_eq_ok_iff, ofJson?_eq_some_iff]
  constructor
  · rintro ⟨members, read, given⟩
    exact ⟨_, read, members, rfl, given⟩
  · rintro ⟨_, read, members, rfl, given⟩
    exact ⟨members, read, given⟩

theorem takes_read : Takes (readValue depth) (fun entries text => do
      let (entry, rest) ← read depth text
      return (entry :: entries, rest))
    fun entries value => (ofJson? value).map (· :: entries) := by
  intro entries text next rest
  simp only [bind_eq_ok_iff, Option.map_eq_some_iff]
  constructor
  · rintro ⟨⟨entry, _⟩, read, same⟩
    obtain ⟨rfl, rfl⟩ := Prod.mk.inj (Except.ok.inj same)
    obtain ⟨value, read, found⟩ := read_eq_ok_iff_ofJson?.1 read
    exact ⟨value, read, entry, found, rfl⟩
  · rintro ⟨value, read, entry, found, rfl⟩
    exact ⟨(entry, rest), read_eq_ok_iff_ofJson?.2 ⟨value, read, found⟩, rfl⟩

theorem readList_eq_ok_iff {entries : List Entry} :
    readList depth text = .ok (entries, rest) ↔ ∃ items,
      readValue depth text = .ok (.list items, rest) ∧
        List.Forall₂ (ofJson? · = some ·) items entries := by
  simp only [readValue_eq_list_iff, HasList]
  unfold readList
  dsimp only
  split
  · next shape => simp [shape]
  · simp
  · next below inside shape =>
    simp only [bind_eq_ok_iff, shape]
    constructor
    · rintro ⟨⟨collected, _⟩, read, same⟩
      obtain ⟨before, read, ended⟩ := bracketed_eq_ok_iff.1 read
      obtain ⟨rfl, rfl⟩ := Prod.mk.inj (Except.ok.inj same)
      obtain ⟨items, has, folded⟩ := ((readsInTurn_readItems _).eq_ok_iff takes_read).1 read
      obtain ⟨made, all, rfl⟩ := foldlM_collect_eq_some_iff.1 folded
      rw [List.append_nil, List.reverse_reverse]
      exact ⟨items, ⟨below, rfl, inside, before, rfl, has, ended⟩, all⟩
    · rintro ⟨items, ⟨_, sameDepth, _, before, same, has, ended⟩, all⟩
      obtain rfl := Nat.succ.inj sameDepth
      obtain rfl := (List.cons.inj same).2
      -- Items are collected with the last one in front.
      refine ⟨(entries.reverse, rest), bracketed_eq_ok_iff.2 ⟨before,
        ((readsInTurn_readItems _).eq_ok_iff takes_read).2 ⟨items, has,
          foldlM_collect_eq_some_iff.2 ⟨entries, all, (List.append_nil _).symm⟩⟩, ended⟩, ?_⟩
      show Except.ok (entries.reverse.reverse, rest) = _
      rw [List.reverse_reverse]
  · next noBracket =>
    refine iff_of_false (wrongType_ne_ok _ _ _) ?_
    rintro ⟨_, ⟨below, sameDepth, inside, _, shape, -⟩, -⟩
    exact noBracket below inside sameDepth shape

end Entry

theorem Entry.decode_eq_ok_iff {text : String} {entry : Entry} :
    decode text = .ok entry ↔ ∃ members,
      readAll (readValue maximumDepth) text.toList = .ok (.object members) ∧
        entry.GivenBy members := by
  simp only [decode, readAll_eq_ok_iff, read_eq_ok_iff]
  grind

theorem readCatalog_eq_ok_iff {text : String} {entries : List Entry} :
    readCatalog text = .ok entries ↔ ∃ items,
      readAll (readValue maximumDepth) text.toList = .ok (.list items) ∧
        List.Forall₂ (fun item entry => ∃ members, item = .object members ∧ entry.GivenBy members)
          items entries := by
  simp only [readCatalog, mapError_eq_ok_iff, readAll_eq_ok_iff, Entry.readList_eq_ok_iff,
    Entry.ofJson?_eq_some_iff]
  grind

/-- An entry is read just where the members of an object give it: one key, one language and one
template, and at most one section, among members with other names. The elements of a catalog are
read in the same way. Objects with the same four members are read alike, and the number of a
section is written with its digits and nothing else. -/
theorem entry_read_exactly :
    (∀ depth text entry rest, Entry.read depth text = .ok (entry, rest) ↔
      ∃ members, readValue depth text = .ok (.object members, rest) ∧ entry.GivenBy members) ∧
    (∀ text entry, Entry.decode text = .ok entry ↔ ∃ members,
      readAll (readValue maximumDepth) text.toList = .ok (.object members) ∧
        entry.GivenBy members) ∧
    (∀ text entries, readCatalog text = .ok entries ↔ ∃ items,
      readAll (readValue maximumDepth) text.toList = .ok (.list items) ∧
        List.Forall₂ (fun item entry => ∃ members, item = .object members ∧ entry.GivenBy members)
          items entries) ∧
    (∀ depth text members rest other others behind,
      readValue depth text = .ok (.object members, rest) →
      readValue depth other = .ok (.object others, behind) →
      (members.filter (·.1 ∈ Entry.partNames)).Perm (others.filter (·.1 ∈ Entry.partNames)) →
      ∀ entry, Entry.read depth text = .ok (entry, rest) ↔
        Entry.read depth other = .ok (entry, behind)) ∧
    (∀ depth text (id : UInt32) rest,
      readValue depth text = .ok (.integer id.toNat, rest) ↔
        skipBlanks text = Numeral.ofNat id.toNat ++ rest ∧ EndsNumber rest) := by
  refine ⟨fun _ _ _ _ => Entry.read_eq_ok_iff, fun _ _ => Entry.decode_eq_ok_iff,
    fun _ _ => readCatalog_eq_ok_iff, ?_, fun depth text id rest =>
      readValue_eq_natural_iff (id.toNat_lt.trans (by decide))⟩
  intro depth text members rest other others behind read readOther same entry
  rw [Entry.read_iff_givenBy read, Entry.read_iff_givenBy readOther]
  exact ⟨fun given => given.of_perm same, fun given => given.of_perm same.symm⟩

/-- The members of one entry in two orders, the second with a member that is passed over. -/
def shuffledMembers : List Char × List Char :=
  ("\x7b\"key\":\"k\",\"language\":\"en\",\"template\":\"T\",\"section\":3\x7d".toList,
    "\x7b\"section\":3,\"note\":[],\"template\":\"T\",\"language\":\"en\",\"key\":\"k\"\x7d".toList)

theorem shuffledMembers_alike :
    Entry.read 2 shuffledMembers.1 = .ok (⟨⟨"k", "en", .number 3⟩, "T"⟩, []) ∧
      Entry.read 2 shuffledMembers.2 = .ok (⟨⟨"k", "en", .number 3⟩, "T"⟩, []) := by
  -- Both texts are read as values, and their members differ in their order and in the note.
  have first : readValue 2 shuffledMembers.1 = .ok (.object [("key", .string "k"),
      ("language", .string "en"), ("template", .string "T"), ("section", .integer 3)], []) := rfl
  have second : readValue 2 shuffledMembers.2 = .ok (.object [("section", .integer 3),
      ("note", .list []), ("template", .string "T"), ("language", .string "en"),
      ("key", .string "k")], []) := rfl
  have read : Entry.read 2 shuffledMembers.1 = .ok (⟨⟨"k", "en", .number 3⟩, "T"⟩, []) :=
    (entry_read_exactly.1 ..).2 ⟨_, first, ⟨rfl, rfl, .numbered 3⟩, rfl⟩
  exact ⟨read, (entry_read_exactly.2.2.2.1 _ _ _ _ _ _ _ first second
    (List.reverse_perm _).symm _).1 read⟩

end Phrasebook
