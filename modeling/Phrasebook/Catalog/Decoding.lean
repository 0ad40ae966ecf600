import Phrasebook.Audit
import Phrasebook.Json.Skip
import Phrasebook.Json.Variant
import Phrasebook.Plural.Category

/-! Reading sections, identities and entries from JSON.

An identity is an object or a list of its parts, and members that it does not
know are passed over. An entry is an object only. Its other members are read as
whole values before its identity is looked for among them, so what is wrong with
the identity is found at the end of the object.
-/

set_option autoImplicit false

namespace Phrasebook

open Json

namespace Section

/-- A number that fits in 32 bits, or a name. -/
def ofJson? : Json → Option Section
  | .integer value =>
    if 0 ≤ value ∧ value.toNat < 2 ^ 32 then some (.number (UInt32.ofNat value.toNat)) else none
  | .string text => some (ofName text)
  | _ => none

def read (depth : Nat) : Reader Section := fun text => do
  let (value, rest) ← readValue depth text
  match ofJson? value with
  | some part => return (part, rest)
  | none => throw (.unplaced .noSection rest)

end Section

structure IdentityDraft where
  key : Option String := none
  language : Option String := none
  within : Option Section := none
  deriving DecidableEq

namespace IdentityDraft

def finish (draft : IdentityDraft) : Except Cause Identity :=
  match draft.key, draft.language with
  | none, _ => .error (.missingMember "key")
  | _, none => .error (.missingMember "language")
  | some key, some language => .ok ⟨key, language, draft.within.getD default⟩

/-- Take over a member that has been read as a value. Other members are left out. -/
def addMember (draft : IdentityDraft) (member : String × Json) : Except Cause IdentityDraft :=
  let text : Except Cause String :=
    match member.2 with
    | .string text => .ok text
    | value => .error (.wrongType (.ofJson value) "a string")
  if member.1 = "key" then
    if draft.key.isSome then .error (.duplicateMember "key")
    else text.map fun text => { draft with key := some text }
  else if member.1 = "language" then
    if draft.language.isSome then .error (.duplicateMember "language")
    else text.map fun text => { draft with language := some text }
  else if member.1 = "section" then
    if draft.within.isSome then .error (.duplicateMember "section")
    else match Section.ofJson? member.2 with
      | some part => .ok { draft with within := some part }
      | none => .error .noSection
  else .ok draft

def readMember (depth : Nat) (draft : IdentityDraft) (name : String) : Reader IdentityDraft :=
  fun text => do
    let once (isNew : Bool) : Except Fault Unit :=
      if isNew then .ok () else .error (.unplaced (.duplicateMember name) text)
    if name = "key" then
      once draft.key.isNone
      let (key, rest) ← readText "a string" (← readColon text)
      return ({ draft with key := some key }, rest)
    else if name = "language" then
      once draft.language.isNone
      let (language, rest) ← readText "a string" (← readColon text)
      return ({ draft with language := some language }, rest)
    else if name = "section" then
      once draft.within.isNone
      let (part, rest) ← Section.read depth (← readColon text)
      return ({ draft with within := some part }, rest)
    else
      return (draft, ← Skip.value (← readColon text))

end IdentityDraft

namespace Identity

def expected : String := "struct TranslationId"

def ofMembers (members : List (String × Json)) : Except Cause Identity :=
  (members.foldlM IdentityDraft.addMember {}).bind IdentityDraft.finish

def readObject (depth : Nat) : Reader Identity := fun text => do
  let (draft, rest) ← readMembers (IdentityDraft.readMember depth) (text.length + 1) true {} text
  match draft.finish with
  | .ok identity => return (identity, rest)
  | .error cause => throw (.unplaced cause rest)

def readList (depth : Nat) : Reader Identity := fun text => do
  let short (length : Nat) (rest : List Char) : Fault :=
    .unplaced (.wrongLength length (expected ++ " with 3 elements")) (skipBlanks rest)
  match ← nextItem true text with
  | none => throw (short 0 text)
  | some rest =>
    let (key, rest) ← readText "a string" rest
    match ← nextItem false rest with
    | none => throw (short 1 rest)
    | some rest =>
      let (language, rest) ← readText "a string" rest
      match ← nextItem false rest with
      | none => return (⟨key, language, default⟩, rest)
      | some rest =>
        let (part, rest) ← Section.read depth rest
        return (⟨key, language, part⟩, rest)

def read (depth : Nat) : Reader Identity := fun text =>
  match depth, skipBlanks text with
  | _, [] => .error (.before .endInValue [])
  | 0, '[' :: rest => .error (.past .nestedTooDeeply ('[' :: rest))
  | 0, '{' :: rest => .error (.past .nestedTooDeeply ('{' :: rest))
  | depth + 1, '[' :: rest => bracketed (readList depth) rest
  | depth + 1, '{' :: rest => braced (readObject depth) rest
  | _, other => wrongType expected other

end Identity

/-- The parts of an entry that have been read, the last member first. -/
structure EntryDraft where
  template : Option String := none
  members : List (String × Json) := []

namespace EntryDraft

def finish (draft : EntryDraft) : Except Cause Entry :=
  match draft.template with
  | none => .error (.missingMember "template")
  | some template =>
    (Identity.ofMembers draft.members.reverse).map fun identity => ⟨identity, template⟩

def readMember (depth : Nat) (draft : EntryDraft) (name : String) : Reader EntryDraft :=
  fun text => do
    if name = "template" then
      if draft.template.isSome then throw (.unplaced (.duplicateMember name) text)
      let (template, rest) ← readText "a string" (← readColon text)
      return ({ draft with template := some template }, rest)
    else
      let (value, rest) ← readValue depth (← readColon text)
      return ({ draft with members := (name, value) :: draft.members }, rest)

end EntryDraft

namespace Entry

def readObject (depth : Nat) : Reader Entry := fun text => do
  let (draft, rest) ← readMembers (EntryDraft.readMember depth) (text.length + 1) true {} text
  match draft.finish with
  | .ok entry => return (entry, rest)
  | .error cause => throw (.unplaced cause rest)

def read (depth : Nat) : Reader Entry := fun text =>
  match depth, skipBlanks text with
  | _, [] => .error (.before .endInValue [])
  | 0, '{' :: rest => .error (.past .nestedTooDeeply ('{' :: rest))
  | depth + 1, '{' :: rest => braced (readObject depth) rest
  | _, other => wrongType "struct TranslationEntry" other

def readList (depth : Nat) : Reader (List Entry) := fun text =>
  let item (entries : List Entry) : Reader (List Entry) := fun text => do
    let (entry, rest) ← read (depth - 1) text
    return (entry :: entries, rest)
  match depth, skipBlanks text with
  | _, [] => .error (.before .endInValue [])
  | 0, '[' :: rest => .error (.past .nestedTooDeeply ('[' :: rest))
  | _ + 1, '[' :: rest => do
    let (entries, rest) ← bracketed (readItems item (rest.length + 1) true []) rest
    return (entries.reverse, rest)
  | _, other => wrongType "a sequence" other

end Entry

def readNamed {α : Type} (all : List α) (name : α → String) : Reader α := fun text => do
  let (found, rest) ← readVariant (all.map name) text
  match all.find? (name · == found) with
  | some value => return (value, rest)
  | none => throw (.before (.unknownName found (all.map name)) rest)

namespace Section

def decode (text : String) : Except Fault Section := readAll (read maximumDepth) text.toList

end Section

namespace Identity

def decode (text : String) : Except Fault Identity := readAll (read maximumDepth) text.toList

end Identity

namespace Entry

def decode (text : String) : Except Fault Entry := readAll (read maximumDepth) text.toList

end Entry

namespace Category

def decode (text : String) : Except Fault Category := readAll (readNamed all name) text.toList

end Category

namespace Event

def decode (text : String) : Except Fault Event := readAll (readNamed all name) text.toList

end Event

end Phrasebook
