set_option autoImplicit false

/-! # Powers: one meaning of `^` for every module

The numbers here are naturals and integers, and the definitions that run use the powers of the core
library. The algebra of Mathlib brings powers of its own, equal to them but written with another
instance. The instance below comes first, so that a power is one term wherever it is written. -/

namespace Bacnet

/-- Powers of the core library, before all others. -/
instance (priority := high) powOfNatPow {α : Type} [NatPow α] : Pow α Nat := instPowNat

end Bacnet
