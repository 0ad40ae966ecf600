import Phrasebook.Identity
import Phrasebook.Json.Basic
import Phrasebook.Text.Table
import Std.Data.ExtTreeSet

/-! How much of a source language other languages cover. -/

set_option autoImplicit false

namespace Phrasebook

structure Coverage where
  language : String
  translated : Nat
  missing : List String
  deriving DecidableEq, Repr

namespace Coverage

def keysOf (entries : List Entry) (language : String) : Std.ExtTreeSet String :=
  Std.ExtTreeSet.ofList <|
    (entries.filter (·.identity.language == language)).map (·.identity.sectionKey)

/-- The source keys that a language does not have, in the order of their characters. -/
def missingKeys (source target : Std.ExtTreeSet String) : List String :=
  source.toList.filter fun key => !target.contains key

def compute (entries : List Entry) (source : String) (targets : List String) :
    Nat × List Coverage :=
  let sourceKeys := keysOf entries source
  (sourceKeys.size, targets.map fun language =>
    -- Missing keys are source keys, so the subtraction is exact.
    let missing := missingKeys sourceKeys (keysOf entries language)
    ⟨language, sourceKeys.size - missing.length, missing⟩)

def table (total : Nat) (rows : List Coverage) : Text.Table where
  header := ["Language", "Coverage", "Missing"]
  rows := rows.map fun row =>
    [row.language, Numeral.display row.translated ++ "/" ++ Numeral.display total,
      Numeral.display row.missing.length]

def toJson (total : Nat) (row : Coverage) : Json :=
  .object [("language", .string row.language), ("translated", .integer row.translated),
    ("total", .integer total), ("missing", .list (row.missing.map .string))]

end Coverage

end Phrasebook
