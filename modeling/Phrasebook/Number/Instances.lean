/-! The powers and the zero of the natural numbers.

They are those of the core library in every module, also in one that knows the
powers and the zero of an algebraic structure.
-/

set_option autoImplicit false

namespace Phrasebook

@[default_instance high]
instance (priority := high) powNat : Pow Nat Nat := instPowNat

instance (priority := high) zeroNat : Zero Nat := Zero.ofOfNat0

end Phrasebook
