import SceneScript.Text.Basic

set_option autoImplicit false

namespace SceneScript

structure Decimal where
  negative : Bool
  coefficient : Nat
  exponent : Int
deriving DecidableEq

namespace Decimal

def powerFraction (base : Nat) (exponent : Int) : Nat × Nat :=
  if 0 ≤ exponent then (base.pow exponent.toNat, 1) else (1, base.pow (-exponent).toNat)

def fraction (decimal : Decimal) : Nat × Nat :=
  let (dividend, divisor) := powerFraction 10 decimal.exponent
  (decimal.coefficient * dividend, divisor)

end Decimal

end SceneScript
