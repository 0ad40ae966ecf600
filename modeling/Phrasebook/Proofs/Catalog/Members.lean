import Phrasebook.Catalog.Decoding
import Phrasebook.Proofs.Json.Objects

/-! Which members make an entry.

Each part of an entry has its members, and at most one of them may be there. The parts are
read independently of each other, so neither the order of the members nor any member with
another name has an effect.
-/

set_option autoImplicit false

namespace Phrasebook

namespace Json

def valuesOf (name : String) (members : List (String × Json)) : List Json :=
  (members.filter (·.1 = name)).map (·.2)

theorem valuesOf_cons (name : String) (member : String × Json) (members : List (String × Json)) :
    valuesOf name (member :: members) = valuesOf name [member] ++ valuesOf name members := by
  rw [valuesOf, ← List.singleton_append, List.filter_append, List.map_append, valuesOf, valuesOf]

theorem valuesOf_singleton (name other : String) (value : Json) :
    valuesOf name [(other, value)] = if other = name then [value] else [] := by
  unfold valuesOf
  split <;> simp_all

/-- What is there of a part before and after some values are read for it. A part that is there
is not read again. -/
inductive Fills {α : Type} (read : Json → Option α) : Option α → List Json → Option α → Prop where
  | kept (part : Option α) : Fills read part [] part
  | filled {value : Json} {part : α} :
      read value = some part → Fills read none [value] (some part)

section Fills

variable {α : Type} {read : Json → Option α} {before after : Option α}

theorem fills_nil_iff : Fills read before [] after ↔ after = before := by
  constructor
  · rintro ⟨⟩
    rfl
  · rintro rfl
    exact .kept after

theorem fills_cons_iff {value : Json} {values : List Json} :
    Fills read before (value :: values) after ↔
      before = none ∧ values = [] ∧ ∃ part, read value = some part ∧ after = some part := by
  constructor
  · intro fills
    cases fills with
    | filled found => exact ⟨rfl, rfl, _, found, rfl⟩
  · rintro ⟨rfl, rfl, part, found, rfl⟩
    exact .filled found

theorem fills_append_iff {first second : List Json} :
    Fills read before (first ++ second) after ↔
      ∃ between, Fills read before first between ∧ Fills read between second after := by
  -- One value fills the part, so at most one of the two lists has any.
  cases first with
  | nil => simp [fills_nil_iff]
  | cons value values =>
    simp only [List.cons_append, fills_cons_iff, List.append_eq_nil_iff]
    cases second with
    | nil => simp only [fills_nil_iff, exists_eq_right', and_true]
    | cons => simp [fills_cons_iff]

theorem fills_some_iff {values : List Json} {part : α} :
    Fills read none values (some part) ↔ ∃ value, values = [value] ∧ read value = some part := by
  cases values with
  | nil => simp [fills_nil_iff]
  | cons value values => simp [fills_cons_iff, and_comm]

theorem string?_eq_some_iff {value : Json} {text : String} :
    value.string? = some text ↔ value = .string text := by
  cases value <;> simp [string?]

theorem fills_string_iff {values : List Json} {text : String} :
    Fills string? none values (some text) ↔ values = [.string text] := by
  simp [fills_some_iff, string?_eq_some_iff]

end Fills

end Json

open Json

inductive Section.GivenBy : Section → List Json → Prop where
  | missing : GivenBy (.number 0) []
  | unnamed : GivenBy (.number 0) [.string ""]
  | named {text : String} (nonempty : text ≠ "") : GivenBy (.name text nonempty) [.string text]
  | numbered (id : UInt32) : GivenBy (.number id) [.integer id.toNat]

theorem Section.ofJson?_integer {value : Int} {part : Section} :
    ofJson? (.integer value) = some part ↔ ∃ id : UInt32, value = id.toNat ∧ part = .number id := by
  simp only [ofJson?, Option.ite_none_right_eq_some, Option.some_inj]
  constructor
  · rintro ⟨⟨natural, small⟩, rfl⟩
    refine ⟨UInt32.ofNat value.toNat, ?_, rfl⟩
    rw [UInt32.toNat_ofNat_of_lt' small, Int.toNat_of_nonneg natural]
  · rintro ⟨id, rfl, rfl⟩
    exact ⟨⟨Int.natCast_nonneg _, id.toNat_lt⟩, by simp⟩

theorem Section.givenBy_iff {values : List Json} {part : Section} :
    part.GivenBy values ↔
      ∃ within, Fills ofJson? none values within ∧ within.getD default = part := by
  constructor
  · rintro (_ | _ | nonempty | id)
    · exact ⟨none, .kept none, rfl⟩
    · exact ⟨some (.number 0), .filled rfl, rfl⟩
    · exact ⟨_, .filled (congrArg some (dif_neg nonempty)), rfl⟩
    · exact ⟨_, .filled (ofJson?_integer.2 ⟨id, rfl, rfl⟩), rfl⟩
  · rintro ⟨within, fills, rfl⟩
    cases fills with
    | kept => exact .missing
    | @filled value part found =>
      cases value with
      | integer value =>
        obtain ⟨id, rfl, rfl⟩ := ofJson?_integer.1 found
        exact .numbered id
      | string text =>
        obtain rfl := Option.some.inj found
        by_cases empty : text = ""
        · subst empty
          exact .unnamed
        · rw [Option.getD_some, ofName, dif_neg empty]
          exact .named empty
      | _ => cases found

/-- The members of an object give the parts of an identity, apart from other members. -/
structure Identity.GivenBy (identity : Identity) (members : List (String × Json)) : Prop where
  key : valuesOf "key" members = [.string identity.key]
  language : valuesOf "language" members = [.string identity.language]
  within : identity.within.GivenBy (valuesOf "section" members)

namespace IdentityDraft

@[mk_iff] structure Becomes (draft : IdentityDraft) (members : List (String × Json))
    (next : IdentityDraft) : Prop where
  key : Fills string? draft.key (valuesOf "key" members) next.key
  language : Fills string? draft.language (valuesOf "language" members) next.language
  within : Fills Section.ofJson? draft.within (valuesOf "section" members) next.within

theorem becomes_nil_iff {draft next : IdentityDraft} : Becomes draft [] next ↔ next = draft := by
  constructor
  · rintro ⟨key, language, within⟩
    cases next
    cases draft
    simp_all [valuesOf, fills_nil_iff]
  · rintro rfl
    exact ⟨.kept _, .kept _, .kept _⟩

theorem becomes_cons_iff {draft final : IdentityDraft} {member : String × Json}
    {members : List (String × Json)} :
    Becomes draft (member :: members) final ↔
      ∃ next, Becomes draft [member] next ∧ Becomes next members final := by
  constructor
  · rintro ⟨key, language, within⟩
    rw [valuesOf_cons, fills_append_iff] at key language within
    obtain ⟨key, keyFirst, keyLater⟩ := key
    obtain ⟨language, languageFirst, languageLater⟩ := language
    obtain ⟨part, partFirst, partLater⟩ := within
    exact ⟨⟨key, language, part⟩, ⟨keyFirst, languageFirst, partFirst⟩,
      ⟨keyLater, languageLater, partLater⟩⟩
  · rintro ⟨next, first, later⟩
    constructor
    all_goals rw [valuesOf_cons, fills_append_iff]
    · exact ⟨_, first.key, later.key⟩
    · exact ⟨_, first.language, later.language⟩
    · exact ⟨_, first.within, later.within⟩

theorem addMember_eq_ok_iff {draft next : IdentityDraft} {member : String × Json} :
    addMember draft member = .ok next ↔ Becomes draft [member] next := by
  obtain ⟨name, value⟩ := member
  obtain ⟨key, language, within⟩ := draft
  obtain ⟨nextKey, nextLanguage, nextWithin⟩ := next
  simp only [becomes_iff, valuesOf_singleton, addMember]
  -- A name has a part of its own or none, and the other parts are kept.
  by_cases isKey : name = "key"
  · subst isKey
    cases key <;> cases value <;>
      simp [fills_nil_iff, fills_cons_iff, string?, Except.map, eq_comm]
  by_cases isLanguage : name = "language"
  · subst isLanguage
    cases language <;> cases value <;>
      simp [fills_nil_iff, fills_cons_iff, string?, Except.map, eq_comm]
  by_cases isSection : name = "section"
  · subst isSection
    cases within <;> cases found : Section.ofJson? value <;>
      simp [fills_nil_iff, fills_cons_iff, found, eq_comm]
  · simp [isKey, isLanguage, isSection, fills_nil_iff, eq_comm]

theorem foldlM_addMember_eq_ok_iff {draft final : IdentityDraft}
    {members : List (String × Json)} :
    members.foldlM addMember draft = .ok final ↔ Becomes draft members final := by
  induction members generalizing draft with
  | nil =>
    rw [becomes_nil_iff, eq_comm]
    exact ⟨Except.ok.inj, congrArg Except.ok⟩
  | cons member members ih =>
    rw [List.foldlM_cons, bind_eq_ok_iff, becomes_cons_iff]
    simp only [addMember_eq_ok_iff, ih]

theorem finish_eq_ok_iff {draft : IdentityDraft} {identity : Identity} :
    draft.finish = .ok identity ↔ draft.key = some identity.key ∧
      draft.language = some identity.language ∧ draft.within.getD default = identity.within := by
  obtain ⟨key, language, within⟩ := draft
  obtain ⟨_, _, _⟩ := identity
  cases key <;> cases language <;> simp [finish]

end IdentityDraft

theorem Identity.ofMembers_eq_ok_iff {members : List (String × Json)} {identity : Identity} :
    ofMembers members = .ok identity ↔ identity.GivenBy members := by
  show (members.foldlM IdentityDraft.addMember {} >>= IdentityDraft.finish) = _ ↔ _
  simp only [bind_eq_ok_iff, IdentityDraft.foldlM_addMember_eq_ok_iff,
    IdentityDraft.finish_eq_ok_iff]
  constructor
  · rintro ⟨⟨_, _, within⟩, ⟨key, language, fills⟩, rfl, rfl, given⟩
    exact ⟨fills_string_iff.1 key, fills_string_iff.1 language,
      Section.givenBy_iff.2 ⟨within, fills, given⟩⟩
  · rintro ⟨key, language, given⟩
    obtain ⟨within, fills, same⟩ := Section.givenBy_iff.1 given
    exact ⟨⟨some identity.key, some identity.language, within⟩,
      ⟨fills_string_iff.2 key, fills_string_iff.2 language, fills⟩, rfl, rfl, same⟩

namespace EntryDraft

def take? (draft : EntryDraft) (member : String × Json) : Option EntryDraft :=
  if member.1 = "template" then
    if draft.template.isSome then none
    else member.2.string?.map fun template => { draft with template := some template }
  else some { draft with members := member :: draft.members }

variable {draft next final : EntryDraft} {members : List (String × Json)}

theorem take?_eq_some_iff {member : String × Json} :
    take? draft member = some next ↔
      Fills string? draft.template (valuesOf "template" [member]) next.template ∧
        next.members = ([member].filter (·.1 ≠ "template")).reverse ++ draft.members := by
  obtain ⟨name, value⟩ := member
  obtain ⟨template, collected⟩ := draft
  obtain ⟨nextTemplate, nextCollected⟩ := next
  by_cases isTemplate : name = "template"
  · subst isTemplate
    cases template <;> cases value <;>
      simp [take?, valuesOf_singleton, fills_cons_iff, string?, eq_comm]
  · simp [take?, isTemplate, valuesOf_singleton, fills_nil_iff, eq_comm]

theorem foldlM_take?_eq_some_iff :
    members.foldlM take? draft = some final ↔
      Fills string? draft.template (valuesOf "template" members) final.template ∧
        final.members = (members.filter (·.1 ≠ "template")).reverse ++ draft.members := by
  induction members generalizing draft with
  | nil =>
    obtain ⟨template, collected⟩ := draft
    obtain ⟨finalTemplate, finalCollected⟩ := final
    simp [valuesOf, fills_nil_iff, eq_comm]
  | cons member members ih =>
    rw [List.foldlM_cons, valuesOf_cons, fills_append_iff]
    constructor
    · intro folded
      obtain ⟨next, taken, later⟩ := Option.bind_eq_some_iff.1 folded
      obtain ⟨first, same⟩ := take?_eq_some_iff.1 taken
      obtain ⟨second, collected⟩ := ih.1 later
      refine ⟨⟨next.template, first, second⟩, ?_⟩
      rw [collected, same, ← List.append_assoc, ← List.reverse_append, ← List.filter_append,
        List.singleton_append]
    · rintro ⟨⟨template, first, second⟩, collected⟩
      refine Option.bind_eq_some_iff.2 ⟨⟨template, _⟩, take?_eq_some_iff.2 ⟨first, rfl⟩,
        ih.2 ⟨second, ?_⟩⟩
      rw [collected, ← List.append_assoc, ← List.reverse_append, ← List.filter_append,
        List.singleton_append]

theorem finish_eq_ok_iff {entry : Entry} :
    draft.finish = .ok entry ↔ draft.template = some entry.template ∧
      Identity.ofMembers draft.members.reverse = .ok entry.identity := by
  obtain ⟨template, collected⟩ := draft
  obtain ⟨identity, text⟩ := entry
  cases template with
  | none => simp [finish]
  | some template =>
    simp only [finish, map_eq_ok_iff, Entry.mk.injEq, Option.some_inj]
    grind

end EntryDraft

structure Entry.GivenBy (entry : Entry) (members : List (String × Json)) : Prop where
  identity : entry.identity.GivenBy members
  template : valuesOf "template" members = [.string entry.template]

theorem Json.valuesOf_filter {name : String} {kept : String → Bool} (isKept : kept name = true)
    (members : List (String × Json)) :
    valuesOf name (members.filter (kept ·.1)) = valuesOf name members := by
  rw [valuesOf, valuesOf, List.filter_filter]
  congr 1
  apply List.filter_congr
  grind

/-- There is at most one value, so their order does not matter. -/
theorem Section.GivenBy.of_perm {part : Section} {values others : List Json}
    (given : part.GivenBy values) (same : values.Perm others) : part.GivenBy others := by
  cases given with
  | missing =>
    rw [List.nil_perm.1 same]
    exact .missing
  | unnamed =>
    rw [← List.singleton_perm.1 same]
    exact .unnamed
  | named nonempty =>
    rw [← List.singleton_perm.1 same]
    exact .named nonempty
  | numbered id =>
    rw [← List.singleton_perm.1 same]
    exact .numbered id

theorem Identity.GivenBy.of_perm {identity : Identity} {members others : List (String × Json)}
    (given : identity.GivenBy members)
    (same : ∀ name ∈ ["key", "language", "section"],
      (valuesOf name members).Perm (valuesOf name others)) : identity.GivenBy others where
  key := List.perm_singleton.1 (given.key ▸ (same "key" (by simp)).symm)
  language := List.perm_singleton.1 (given.language ▸ (same "language" (by simp)).symm)
  within := given.within.of_perm (same "section" (by simp))

theorem Identity.givenBy_filter_iff {identity : Identity} {members : List (String × Json)} :
    identity.GivenBy (members.filter (·.1 ≠ "template")) ↔ identity.GivenBy members := by
  have same : ∀ name ∈ ["key", "language", "section"],
      (valuesOf name (members.filter (·.1 ≠ "template"))).Perm (valuesOf name members) := by
    have other : ∀ name ∈ ["key", "language", "section"], decide (name ≠ "template") = true := by
      decide
    exact fun name member =>
      .of_eq (@valuesOf_filter name (· ≠ "template") (other name member) members)
  exact ⟨fun given => given.of_perm same,
    fun given => given.of_perm fun name member => (same name member).symm⟩

namespace Entry

def partNames : List String := ["key", "language", "section", "template"]

theorem GivenBy.of_perm {entry : Entry} {members others : List (String × Json)}
    (given : entry.GivenBy members)
    (same : (members.filter (·.1 ∈ partNames)).Perm (others.filter (·.1 ∈ partNames))) :
    entry.GivenBy others := by
  have values (name : String) (isPart : name ∈ partNames) :
      (valuesOf name members).Perm (valuesOf name others) := by
    have isKept : decide (name ∈ partNames) = true := decide_eq_true isPart
    rw [← @valuesOf_filter name (· ∈ partNames) isKept members,
      ← @valuesOf_filter name (· ∈ partNames) isKept others]
    exact (same.filter _).map _
  refine ⟨given.identity.of_perm fun name isPart => ?_, ?_⟩
  · exact values name (List.mem_append_left ["template"] isPart)
  · exact List.perm_singleton.1 (given.template ▸ (values "template" (by simp [partNames])).symm)

def ofJson? : Json → Option Entry
  | .object members => (members.foldlM EntryDraft.take? {}).bind (·.finish.toOption)
  | _ => none

theorem givenBy_iff_finish {entry : Entry} {members : List (String × Json)} :
    entry.GivenBy members ↔
      ∃ draft, members.foldlM EntryDraft.take? {} = some draft ∧ draft.finish = .ok entry := by
  simp only [EntryDraft.foldlM_take?_eq_some_iff, EntryDraft.finish_eq_ok_iff]
  constructor
  · rintro ⟨identity, template⟩
    refine ⟨⟨some entry.template, (members.filter (·.1 ≠ "template")).reverse⟩,
      ⟨fills_string_iff.2 template, (List.append_nil _).symm⟩, rfl, ?_⟩
    rw [List.reverse_reverse, Identity.ofMembers_eq_ok_iff, Identity.givenBy_filter_iff]
    exact identity
  · rintro ⟨draft, ⟨template, collected⟩, known, identity⟩
    rw [List.append_nil] at collected
    rw [collected, List.reverse_reverse, Identity.ofMembers_eq_ok_iff,
      Identity.givenBy_filter_iff] at identity
    rw [known, fills_string_iff] at template
    exact ⟨identity, template⟩

theorem ofJson?_eq_some_iff {value : Json} {entry : Entry} :
    ofJson? value = some entry ↔
      ∃ members, value = .object members ∧ entry.GivenBy members := by
  cases value with
  | object members =>
    have toOption (draft : EntryDraft) :
        draft.finish.toOption = some entry ↔ draft.finish = .ok entry := by
      cases draft.finish <;> simp [Except.toOption]
    simp [ofJson?, Option.bind_eq_some_iff, toOption, givenBy_iff_finish]
  | _ => simp [ofJson?]

end Entry

end Phrasebook
