import SceneScript.Decimal.Basic

set_option autoImplicit false

namespace SceneScript

structure Binary where
  mantissa : Nat
  exponent : Int
deriving DecidableEq

namespace Binary

def leastExponent : Int := -1074

def mantissaBits : Nat := 53

def greatestBits : Int := 1024

def roundHalfEven (dividend divisor : Nat) : Nat :=
  let quotient := dividend / divisor
  let twice := 2 * (dividend % divisor)
  if twice < divisor ∨ (twice = divisor ∧ quotient % 2 = 0) then quotient else quotient + 1

def floorLog (base : Nat) (dividend divisor : Nat) : Int :=
  let guess : Int := (Nat.toDigits base dividend).length - (Nat.toDigits base divisor).length
  let (up, down) := Decimal.powerFraction base guess
  if up * divisor ≤ dividend * down then guess else guess - 1

/-- Rounding up may fill all bits; the mantissa then starts over with the next exponent. -/
def carry (binary : Binary) : Binary :=
  if binary.mantissa = Nat.pow 2 mantissaBits then
    ⟨Nat.pow 2 (mantissaBits - 1), binary.exponent + 1⟩
  else binary

def ofFraction (dividend divisor : Nat) : Option Binary :=
  let exponent := max leastExponent (floorLog 2 dividend divisor - (mantissaBits - 1))
  let (up, down) := Decimal.powerFraction 2 exponent
  let mantissa := roundHalfEven (dividend * down) (divisor * up)
  if greatestBits < exponent + Nat.log2 mantissa + 1 then none
  else some (carry ⟨mantissa, exponent⟩)

/-- The magnitude, and the magnitudes half way to both neighbours, in quarters of the last place. -/
def quarters (binary : Binary) : Nat × Nat × Nat :=
  let middle := 4 * binary.mantissa
  let narrow := binary.mantissa = Nat.pow 2 (mantissaBits - 1) ∧ leastExponent < binary.exponent
  (middle - (if narrow then 1 else 2), middle, middle + 2)

def onGrid? (binary : Binary) (place : Int) : Option Nat :=
  let (low, middle, high) := binary.quarters
  let (up, down) := Decimal.powerFraction 2 binary.exponent
  let (dividend, divisor) := Decimal.powerFraction 10 place
  -- One quarter of the last binary place is `unit`, one step of the grid is `step`.
  let unit := up * divisor
  let step := 4 * dividend * down
  let roundsBack (count : Nat) : Bool :=
    if binary.mantissa % 2 = 0 then low * unit ≤ count * step ∧ count * step ≤ high * unit
    else low * unit < count * step ∧ count * step < high * unit
  let nearest := roundHalfEven (middle * unit) step
  let below := middle * unit / step
  [nearest, below, below + 1].find? roundsBack

def shortest (binary : Binary) : Nat × Int :=
  let (up, down) := Decimal.powerFraction 2 binary.exponent
  let top := floorLog 10 (binary.mantissa * up) down
  let attempt (size : Nat) : Option (Nat × Int) :=
    (binary.onGrid? (top - size)).map fun count => (count, top - size)
  ((List.range 17).findSome? attempt).getD (0, 0)

end Binary

namespace Decimal

inductive Approximation where
  | zero
  | finite (binary : Binary)
  | infinite
deriving DecidableEq

def approximate (decimal : Decimal) : Approximation :=
  let top := decimal.exponent + (Nat.toDigits 10 decimal.coefficient).length
  if decimal.coefficient = 0 ∨ top < -400 then .zero
  else if 400 < top then .infinite
  else
    let (dividend, divisor) := decimal.fraction
    match Binary.ofFraction dividend divisor with
    | none => .infinite
    | some ⟨0, _⟩ => .zero
    | some binary => .finite binary

def leastPositional : Int := -4

def greatestPositional : Int := 16

def exponentText (exponent : Int) : Text :=
  let digits := Text.ofNat exponent.natAbs
  (if exponent < 0 then '-' else '+') :: List.replicate (2 - digits.length) '0' ++ digits

def layOut (digits : Text) (place : Int) : Text :=
  if leastPositional < place ∧ place ≤ greatestPositional then
    if place ≤ 0 then "0." ++ List.replicate (-place).toNat '0' ++ digits
    else
      let whole := digits.take place.toNat
      let fraction := digits.drop place.toNat
      whole ++ List.replicate (place.toNat - whole.length) '0' ++ "."
        ++ (if fraction = [] then ['0'] else fraction)
  else
    let fraction := digits.drop 1
    digits.take 1 ++ (if fraction = [] then [] else '.' :: fraction)
      ++ "e" ++ exponentText (place - 1)

def withoutTrailingZeros (digits : Text) : Text := (digits.reverse.dropWhile (· = '0')).reverse

def shortestText (decimal : Decimal) : Text :=
  let magnitude : Text :=
    match decimal.approximate with
    | .zero => "0.0"
    | .infinite => "inf"
    | .finite binary =>
        let (count, place) := binary.shortest
        let digits := Text.ofNat count
        layOut (withoutTrailingZeros digits) (digits.length + place)
  if decimal.negative then '-' :: magnitude else magnitude

end Decimal

end SceneScript
