/-! Numbers that positions and altitudes are measured in. The program runs on
binary64 numbers; the same definitions run on exact fractions, where the laws
of the file formats can be stated without rounding. `Reading` is what a number
shows of itself to a writer: an exact fraction with its sign, or none. -/
namespace Airspaces

/-- A number as a writer sees it. The sign is kept apart because a zero has one. -/
inductive Reading where
  | finite (negative : Bool) (num den : Nat)
  | infinite (negative : Bool)
  | undefined
  deriving Repr, DecidableEq

/-- The arithmetic that the file formats need. -/
class Scalar (α : Type) extends Add α, Sub α, Mul α, Div α, Neg α, LE α, LT α, BEq α where
  decideLE : DecidableRel (fun a b : α => a ≤ b)
  decideLT : DecidableRel (fun a b : α => a < b)
  /-- The number `mantissa * 10 ^ exponent`, rounded once if it has to be. -/
  ofDecimal : (mantissa : Nat) → (exponent : Int) → α
  /-- A whole number, or none if it is beyond the largest finite number. -/
  ofNat? : Nat → Option α
  /-- The angle in degrees reduced to a full turn: the remainder from 0 up to 360. -/
  wrap : α → α
  reading : α → Reading
  zero_mem : -(ofDecimal 90 0) ≤ ofDecimal 0 0 ∧ ofDecimal 0 0 ≤ ofDecimal 90 0

namespace Scalar

variable {α : Type} [Scalar α]

instance (a b : α) : Decidable (a ≤ b) := decideLE a b

instance (a b : α) : Decidable (a < b) := decideLT a b

/-- Decimal literals stand for the nearest number. -/
instance (priority := low) : OfScientific α :=
  ⟨fun mantissa negative exponent =>
    ofDecimal mantissa (if negative then -(exponent : Int) else exponent)⟩

instance (priority := low) : Inhabited α := ⟨ofDecimal 0 0⟩

/-- The number without its sign; an undefined number stays undefined. -/
def abs (x : α) : α := if x < ofDecimal 0 0 then -x else x

/-- A whole number with a sign, if it is in range. -/
def ofInt? : Int → Option α
  | .ofNat n => ofNat? n
  | .negSucc n => (ofNat? (n + 1)).map (- ·)

end Scalar

instance : Scalar Rat where
  decideLE := fun a b => inferInstanceAs (Decidable (a ≤ b))
  decideLT := fun a b => inferInstanceAs (Decidable (a < b))
  ofDecimal mantissa exponent :=
    if exponent < 0 then mkRat mantissa (Nat.pow 10 exponent.natAbs)
    else (mantissa * Nat.pow 10 exponent.natAbs : Nat)
  ofNat? n := some n
  wrap q := q - 360 * (q / 360).floor
  reading q := .finite (q < 0) q.num.natAbs q.den
  zero_mem := by decide

end Airspaces
