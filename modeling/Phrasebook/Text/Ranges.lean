/-! Classes of characters given by ranges of code points. -/

set_option autoImplicit false

namespace Phrasebook.Text

def inRanges (ranges : List (Nat × Nat)) (character : Char) : Bool :=
  ranges.any fun range => range.1 ≤ character.toNat && character.toNat ≤ range.2

end Phrasebook.Text
