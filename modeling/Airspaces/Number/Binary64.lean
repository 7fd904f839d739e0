import Airspaces.Number.Scalar
/-! Binary64 numbers as measurements. A finite number is a significand times a
power of two; remainders and readings are taken from that exact value, so a
remainder is rounded once and a text shows the number that is stored. -/
namespace Airspaces

namespace Binary64

/-- What the 64 bits of a number say. -/
inductive Parts where
  | finite (negative : Bool) (significand : Nat) (power : Int)
  | infinite (negative : Bool)
  | undefined
  deriving Repr, DecidableEq

/-- The fields of the bit pattern: sign, eleven bits of exponent, 52 of fraction. -/
def parts (x : Float) : Parts :=
  let bits : Nat := x.toBits.toNat
  let negative := bits / 0x8000000000000000 % 2 == 1
  let exponent : Nat := bits / 0x10000000000000 % 2048
  let fraction := bits % 0x10000000000000
  if exponent = 2047 then
    if fraction = 0 then .infinite negative else .undefined
  else if exponent = 0 then .finite negative fraction (-1074)
  else .finite negative (0x10000000000000 + fraction) ((exponent : Int) - 1075)

def infinity : Float := 1.0 / 0.0

def undefined : Float := 0.0 / 0.0

/-- Bounds of `exponent` times the binary logarithm of ten, in millionths. -/
def tensBelow (exponent : Int) : Int := exponent * if exponent < 0 then 3321929 else 3321928

def tensAbove (exponent : Int) : Int := exponent * if exponent < 0 then 3321928 else 3321929

/-- The nearest number to `mantissa * 10 ^ exponent`. What is at least `2 ^ 1024` or less
than `2 ^ -1075` by its size alone is told without its digits. -/
def ofDecimal (mantissa : Nat) (exponent : Int) : Float :=
  if mantissa = 0 then 0.0
  else
    let size : Int := 1000000 * mantissa.log2
    if 1024000000 ≤ size + tensBelow exponent then infinity
    else if size + 1000000 + tensAbove exponent ≤ -1075000000 then 0.0
    else Float.ofScientific mantissa (exponent < 0) exponent.natAbs

/-- The nearest number to `num / 2 ^ places`: a half is five tenths. -/
def ofDyadic (num places : Nat) : Float :=
  Float.ofScientific (num * Nat.pow 5 places) true places

/-- The remainder of the exact value by a full turn, from 0 up to 360, rounded
once. An infinite angle has no remainder. -/
def wrap (x : Float) : Float :=
  match parts x with
  | .finite negative significand power =>
    let places := (-power).toNat
    let turn := 360 * Nat.pow 2 places
    let rest := significand * Nat.pow 2 power.toNat % turn
    ofDyadic (if negative && rest != 0 then turn - rest else rest) places
  | _ => undefined

def reading (x : Float) : Reading :=
  match parts x with
  | .finite negative significand power =>
    .finite negative (significand * Nat.pow 2 power.toNat) (Nat.pow 2 (-power).toNat)
  | .infinite negative => .infinite negative
  | .undefined => .undefined

/-- The nearest number to a whole number, or none where that is infinite. -/
def ofNat? (n : Nat) : Option Float :=
  let x := ofDecimal n 0
  if x.isInf then none else some x

end Binary64

instance : Scalar Float where
  decideLE := fun a b => inferInstanceAs (Decidable (a ≤ b))
  decideLT := fun a b => inferInstanceAs (Decidable (a < b))
  ofDecimal := Binary64.ofDecimal
  ofNat? := Binary64.ofNat?
  wrap := Binary64.wrap
  reading := Binary64.reading
  zero_mem := by decide +kernel

end Airspaces
