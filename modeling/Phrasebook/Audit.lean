import Phrasebook.Identity

/-! What happens during lookups, and who hears of it.

A lookup never fails. It notes events, each with the identity it is about, and
log records. A sink decides what becomes of the events: they are kept, or become
log records themselves, or are dropped.
-/

set_option autoImplicit false

namespace Phrasebook

inductive Event where
  | keyUsed
  | keyMiss
  | keyInvalid
  | pluralizerMiss
  | keywordMiss
  deriving DecidableEq, Repr

namespace Event

def all : List Event := [.keyUsed, .keyMiss, .keyInvalid, .pluralizerMiss, .keywordMiss]

def display : Event → String
  | .keyUsed => "key_used"
  | .keyMiss => "key_miss"
  | .keyInvalid => "key_invalid"
  | .pluralizerMiss => "pluralizer_miss"
  | .keywordMiss => "keyword_miss"

def name : Event → String
  | .keyUsed => "KeyUsed"
  | .keyMiss => "KeyMiss"
  | .keyInvalid => "KeyInvalid"
  | .pluralizerMiss => "PluralizerMiss"
  | .keywordMiss => "KeywordMiss"

def ofName? (name : String) : Option Event := all.find? (·.name == name)

end Event

inductive Level where
  | trace
  | debug
  | warn
  deriving DecidableEq, Repr

def Level.display : Level → String
  | .trace => "TRACE"
  | .debug => "DEBUG"
  | .warn => "WARN"

structure LogRecord where
  level : Level
  message : String
  fields : List (String × String)
  deriving DecidableEq, Repr

inductive Notice where
  | audit (identity : Identity) (event : Event)
  | log (entry : LogRecord)
  deriving DecidableEq

namespace Event

def level : Event → Level
  | .keyUsed => .trace
  | .keyMiss | .keyInvalid | .pluralizerMiss => .warn
  | .keywordMiss => .debug

def message : Event → String
  | .keyUsed => "translation used"
  | .keyMiss => "translation or count parameter missing"
  | .keyInvalid => "invalid translation key"
  | .pluralizerMiss => "no pluralizer for language, using default"
  | .keywordMiss => "gender parameter missing"

def logRecord (identity : Identity) (event : Event) : LogRecord where
  level := event.level
  message := event.message
  fields := [("key", identity.key), ("language", identity.language),
    ("section", identity.within.display), ("event", event.display)]

end Event

abbrev AuditEntry := Identity × Event

inductive Sink where
  | recording
  | logging
  | discarding
  deriving DecidableEq, Repr

namespace Sink

def events (sink : Sink) (notices : List Notice) : List AuditEntry :=
  match sink with
  | .recording => notices.filterMap fun
    | .audit identity event => some (identity, event)
    | .log _ => none
  | _ => []

/-- The log records of the notices, with those that the sink makes of events. -/
def records (sink : Sink) (notices : List Notice) : List LogRecord :=
  notices.filterMap fun
    | .audit identity event => if sink = .logging then some (event.logRecord identity) else none
    | .log entry => some entry

end Sink

structure Journal where
  entries : List AuditEntry := []
  deriving DecidableEq

namespace Journal

def record (journal : Journal) (identity : Identity) (event : Event) : Journal :=
  ⟨journal.entries ++ [(identity, event)]⟩

def kinds (journal : Journal) : List Event := journal.entries.map (·.2)

def count (journal : Journal) (event : Event) : Nat := journal.kinds.count event

def take (journal : Journal) : List AuditEntry × Journal := (journal.entries, {})

end Journal

/-- A value with what was noted on the way to it. -/
@[ext]
structure Noted (α : Type) where
  value : α
  notices : List Notice

namespace Noted

variable {α β : Type}

instance : Monad Noted where
  pure value := ⟨value, []⟩
  bind first next :=
    let second := next first.value
    ⟨second.value, first.notices ++ second.notices⟩

@[simp] theorem value_pure (value : α) : (pure value : Noted α).value = value := rfl

@[simp] theorem notices_pure (value : α) : (pure value : Noted α).notices = [] := rfl

@[simp] theorem value_bind (first : Noted α) (next : α → Noted β) :
    (first >>= next).value = (next first.value).value := rfl

@[simp] theorem notices_bind (first : Noted α) (next : α → Noted β) :
    (first >>= next).notices = first.notices ++ (next first.value).notices := rfl

instance : LawfulMonad Noted := LawfulMonad.mk' Noted
  (by intro α x; cases x; simp [Functor.map])
  (by intro α β x f; simp [bind, pure])
  (by intro α β γ x f g; simp [bind, List.append_assoc])

@[simp] theorem value_map (transform : α → β) (noted : Noted α) :
    (transform <$> noted).value = transform noted.value := rfl

@[simp] theorem notices_map (transform : α → β) (noted : Noted α) :
    (transform <$> noted).notices = noted.notices := by
  simp [Functor.map]

def note (notice : Notice) : Noted Unit := ⟨(), [notice]⟩

end Noted

end Phrasebook
