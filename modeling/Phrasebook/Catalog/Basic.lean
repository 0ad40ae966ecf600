import Phrasebook.Catalog.Decoding
import Phrasebook.Catalog.Encoding
import Phrasebook.Store
import Phrasebook.Text.Split

/-! Catalogs: JSON lists of entries.

A catalog that cannot be read gives a diagnostic with the byte at which its text
is marked.
-/

set_option autoImplicit false

namespace Phrasebook

/-- The complete lines of a text, without the line feed or the carriage return
and line feed at their ends. -/
def completeLines (text : List Char) : List (List Char) :=
  (Text.split '\n' text).dropLast.map fun line =>
    if line.getLast? = some '\r' then line.dropLast else line

structure CatalogDiagnostic where
  fault : Json.Fault
  source : List Char

namespace CatalogDiagnostic

def message (diagnostic : CatalogDiagnostic) : String :=
  "invalid catalog: " ++ diagnostic.fault.message diagnostic.source

/-- The marked byte for a position: each earlier line counts its bytes and one for
its end, and no byte behind the text is marked. -/
def offsetAt (source : List Char) (position : Json.Position) : Nat :=
  let lines := (completeLines source).take (position.line - 1)
  min ((lines.map (Json.byteLength · + 1)).sum + (position.column - 1)) (Json.byteLength source)

def offset (diagnostic : CatalogDiagnostic) : Nat :=
  match diagnostic.fault.position? diagnostic.source with
  | some position => offsetAt diagnostic.source position
  | none => 0

end CatalogDiagnostic

def readCatalog (text : String) : Except CatalogDiagnostic (List Entry) :=
  (Json.readAll (Entry.readList Json.maximumDepth) text.toList).mapError (⟨·, text.toList⟩)

end Phrasebook
