import Phrasebook.CommandLine.Outcome

/-! The program: reads the environment and the catalog file, and prints. -/

set_option autoImplicit false

namespace Phrasebook

open CommandLine

def readEnvironment : IO Environment := do
  return ⟨← IO.getEnv "TONGUE_CATALOG", ← IO.getEnv "TONGUE_DEFAULT_LANG"⟩

def readFile? (path : String) : IO (Option String) := do
  try
    return some (← IO.FS.readFile path)
  catch _ =>
    return none

def runRequest : Request → IO Outcome
  | .version => return version
  | .command command => do
    match command.catalog? with
    | some path => return command.run (← readFile? path)
    | none => return command.run none

end Phrasebook

def main (arguments : List String) : IO UInt32 := do
  let environment ← Phrasebook.readEnvironment
  let outcome ← match Phrasebook.CommandLine.readRequest environment arguments with
    | .ok request => Phrasebook.runRequest request
    | .error error => pure (Phrasebook.CommandLine.Outcome.refused error)
  IO.print outcome.output
  outcome.errors.forM IO.eprintln
  return UInt32.ofNat outcome.code.number
