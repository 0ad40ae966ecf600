import Phrasebook.Catalog.Basic
import Phrasebook.Proofs.Json.Sequences

/-! Reading a catalog gives back the entries that were written.

The same holds of an entry, of an identity and of a section alone. Sections are
numbers or names that are not empty, so their JSON form tells them apart.
-/

set_option autoImplicit false

namespace Phrasebook

open Json

theorem Json.readAll_ofList {α : Type} {reader : Reader α} {text : List Char} {value : α}
    (read : reader text = .ok (value, [])) :
    readAll reader (String.ofList text).toList = .ok value := by
  rw [String.toList_ofList, readAll, read]
  rfl

namespace Section

theorem isScalar_toJson (part : Section) : IsScalar part.toJson := by
  cases part with
  | number id => exact .natural (Nat.lt_trans id.toNat_lt (by decide))
  | name text nonempty => exact .string text

theorem ofJson?_toJson (part : Section) : ofJson? part.toJson = some part := by
  cases part with
  | number id =>
    have below : id.toNat < 4294967296 := id.toNat_lt
    simp [toJson, ofJson?, below]
  | name text nonempty => exact congrArg some (ofName_display_name text nonempty)

theorem read_compact (part : Section) (depth : Nat) {rest : List Char} (ends : EndsNumber rest) :
    read depth (part.toJson.compact ++ rest) = .ok (part, rest) := by
  rw [read, readValue_compact part.isScalar_toJson depth ends]
  simp only [bind, Except.bind, ofJson?_toJson]
  rfl

end Section

namespace IdentityDraft

def complete (identity : Identity) : IdentityDraft :=
  ⟨some identity.key, some identity.language, some identity.within⟩

theorem readsMembers (identity : Identity) (depth : Nat) :
    ReadsMembers (readMember depth) {} identity.members (complete identity) := by
  have key (rest : List Char) : readMember depth {} "key"
      (':' :: ((Json.string identity.key).compact ++ rest)) =
        .ok (⟨some identity.key, none, none⟩, rest) := by
    simp only [readMember, readColon_cons, compact, readText_write, bind, Except.bind]
    rfl
  have language (rest : List Char) : readMember depth ⟨some identity.key, none, none⟩ "language"
      (':' :: ((Json.string identity.language).compact ++ rest)) =
        .ok (⟨some identity.key, some identity.language, none⟩, rest) := by
    simp only [readMember, readColon_cons, compact, readText_write, bind, Except.bind]
    rfl
  have within (rest : List Char) (ends : EndsNumber rest) :
      readMember depth ⟨some identity.key, some identity.language, none⟩ "section"
        (':' :: (identity.within.toJson.compact ++ rest)) = .ok (complete identity, rest) := by
    simp only [readMember, readColon_cons, identity.within.read_compact depth ends, bind,
      Except.bind]
    rfl
  exact .cons (fun rest _ => key rest) (.cons (fun rest _ => language rest)
    (.cons within (.nil _)))

end IdentityDraft

namespace Identity

theorem readObject_written (identity : Identity) (depth : Nat) (rest : List Char) :
    readObject depth (writtenMembers true identity.members ++ '}' :: rest) =
      .ok (identity, '}' :: rest) := by
  rw [readObject, readMembers_all (IdentityDraft.readsMembers identity depth)]
  rfl

theorem read_compact (identity : Identity) (depth : Nat) (rest : List Char) :
    read (depth + 1) (identity.toJson.compact ++ rest) = .ok (identity, rest) := by
  rw [toJson, compact_object_append]
  exact braced_written (identity.readObject_written depth rest)

theorem ofMembers_members (identity : Identity) : ofMembers identity.members = .ok identity := by
  have within : IdentityDraft.addMember ⟨some identity.key, some identity.language, none⟩
      ("section", identity.within.toJson) = .ok (.complete identity) := by
    simp [IdentityDraft.addMember, Section.ofJson?_toJson, IdentityDraft.complete]
  show (IdentityDraft.addMember ⟨some identity.key, some identity.language, none⟩
    ("section", identity.within.toJson) >>= pure).bind IdentityDraft.finish = _
  rw [within]
  rfl

theorem ne_template_and_isScalar_of_mem_members {identity : Identity} {member : String × Json}
    (inside : member ∈ identity.members) : member.1 ≠ "template" ∧ IsScalar member.2 := by
  simp only [members, List.mem_cons, List.not_mem_nil, or_false] at inside
  rcases inside with rfl | rfl | rfl
  · exact ⟨by simp, .string _⟩
  · exact ⟨by simp, .string _⟩
  · exact ⟨by simp, identity.within.isScalar_toJson⟩

end Identity

namespace EntryDraft

theorem readsMembers_append {depth : Nat} {final : EntryDraft}
    {members others : List (String × Json)}
    (scalars : ∀ member ∈ members, member.1 ≠ "template" ∧ IsScalar member.2)
    (collected : List (String × Json))
    (reads : ReadsMembers (readMember depth) ⟨none, members.reverse ++ collected⟩ others final) :
    ReadsMembers (readMember depth) ⟨none, collected⟩ (members ++ others) final := by
  induction members generalizing collected with
  | nil => exact reads
  | cons member members ih =>
    obtain ⟨name, value⟩ := member
    obtain ⟨other, scalar⟩ := scalars (name, value) List.mem_cons_self
    refine .cons (fun rest ends => ?_) (ih (fun member inside =>
      scalars member (List.mem_cons_of_mem _ inside)) ((name, value) :: collected) ?_)
    · simp only [readMember, if_neg other, readColon_cons, readValue_compact scalar depth ends,
        bind, Except.bind]
      rfl
    · rwa [List.reverse_cons, List.append_assoc, List.singleton_append] at reads

theorem readsMembers (entry : Entry) (depth : Nat) :
    ReadsMembers (readMember depth) {}
      (entry.identity.members ++ [("template", .string entry.template)])
      ⟨some entry.template, entry.identity.members.reverse⟩ := by
  apply readsMembers_append fun _ => Identity.ne_template_and_isScalar_of_mem_members
  rw [List.append_nil]
  refine .cons (fun rest _ => ?_) (.nil _)
  simp only [readMember, readColon_cons, compact, readText_write, bind, Except.bind]
  rfl

theorem finish_members (entry : Entry) :
    finish ⟨some entry.template, entry.identity.members.reverse⟩ = .ok entry := by
  rw [finish, List.reverse_reverse, Identity.ofMembers_members]
  rfl

end EntryDraft

namespace Entry

theorem readObject_written (entry : Entry) (depth : Nat) (rest : List Char) :
    readObject depth (writtenMembers true
        (entry.identity.members ++ [("template", .string entry.template)]) ++ '}' :: rest) =
      .ok (entry, '}' :: rest) := by
  have reads := EntryDraft.readsMembers entry depth
  generalize entry.identity.members ++ [("template", .string entry.template)] = members at reads ⊢
  rw [readObject, readMembers_all reads]
  simp only [bind, Except.bind, EntryDraft.finish_members]
  rfl

theorem read_compact (entry : Entry) (depth : Nat) (rest : List Char) :
    read (depth + 1) (entry.toJson.compact ++ rest) = .ok (entry, rest) := by
  rw [toJson, compact_object_append]
  exact braced_written (entry.readObject_written depth rest)

/-- Entries are collected from a list, the last one first. -/
theorem readsItems (entries before : List Entry) (depth : Nat) :
    ReadsItems (fun (entries : List Entry) text => do
        let (entry, rest) ← read (depth + 1) text
        return (entry :: entries, rest))
      before (entries.map toJson) (entries.reverse ++ before) := by
  induction entries generalizing before with
  | nil => exact .nil before
  | cons entry entries ih =>
    have shape : entry.toJson.compact = '{' :: (writtenMembers true
        (entry.identity.members ++ [("template", .string entry.template)]) ++ ['}']) := by
      rw [← List.append_nil (compact _), toJson, compact_object_append]
    have following := ih (entry :: before)
    rw [← List.singleton_append, ← List.append_assoc, ← List.reverse_cons] at following
    refine .cons shape (by decide) (by decide) (by decide) (fun rest _ => ?_) following
    rw [entry.read_compact]
    rfl

theorem readList_compact (entries : List Entry) (depth : Nat) (rest : List Char) :
    readList (depth + 2) ((Json.list (entries.map toJson)).compact ++ rest) =
      .ok (entries, rest) := by
  have read := readItems_all (readsItems entries [] depth) rest
  rw [List.append_nil] at read
  rw [compact_list_append]
  show (bracketed _ _ >>= _) = _
  rw [show depth + 2 - 1 = depth + 1 from rfl, bracketed_written read]
  exact congrArg (fun entries => Except.ok (entries, rest)) entries.reverse_reverse

end Entry

theorem writeCatalog_eq (entries : List Entry) :
    writeCatalog entries = String.ofList ('[' ::
      List.intercalate [','] (entries.map fun entry => entry.toJson.compact) ++ [']']) := by
  rw [writeCatalog, compact, compactItems_eq_intercalate, List.map_map]
  rfl

theorem readCatalog_ofList {text : List Char} {entries : List Entry}
    (read : Entry.readList maximumDepth text = .ok (entries, [])) :
    readCatalog (String.ofList text) = .ok entries := by
  rw [readCatalog, readAll_ofList read]
  rfl

theorem readCatalog_writeCatalog (entries : List Entry) :
    readCatalog (writeCatalog entries) = .ok entries := by
  apply readCatalog_ofList
  have read := Entry.readList_compact entries 125 []
  rwa [List.append_nil] at read

/-- Entries that are written in one line each, in brackets and with commas between, are read
back in their order. An identity or a section that is written is read back as it was. -/
theorem readCatalog_compact :
    (∀ entries : List Entry,
      readCatalog (String.ofList ('[' ::
        List.intercalate [','] (entries.map fun entry => entry.toJson.compact) ++ [']'])) =
          .ok entries) ∧
    (∀ identity : Identity,
      Identity.decode (String.ofList identity.toJson.compact) = .ok identity) ∧
    ∀ part : Section, Section.decode (String.ofList part.toJson.compact) = .ok part := by
  refine ⟨fun entries => ?_, fun identity => ?_, fun part => ?_⟩
  · rw [← writeCatalog_eq, readCatalog_writeCatalog]
  · apply readAll_ofList
    have read := identity.read_compact 126 []
    rwa [List.append_nil] at read
  · apply readAll_ofList
    have read := part.read_compact maximumDepth endsNumber_nil
    rwa [List.append_nil] at read

end Phrasebook
