import Airspaces.Number.Binary64
/-! The shortest decimal text of a binary64 number. The reals that round to a
number form an interval around it, with its ends when the significand is even.
Grids of decimals with one, two, three and more digits are tried in turn; the
first with a point in the interval gives the digits, and of two such points the
nearer one, an even last digit deciding a tie. `Layout` says how the digits are
set out. -/
namespace Airspaces.Shortest

/-- A fraction together with the ends of the interval that rounds to it, all
three over one denominator. -/
structure Interval where
  low : Nat
  value : Nat
  high : Nat
  den : Nat
  closed : Bool

/-- The interval of a positive number. Below a power of two the next number is
only half as far away, except at the smallest exponent. -/
def Interval.of (significand : Nat) (power : Int) : Interval :=
  let up := Nat.pow 2 (power - 2).toNat
  let below := if significand = 0x10000000000000 ∧ -1074 < power then 1 else 2
  { low := (4 * significand - below) * up
    value := 4 * significand * up
    high := (4 * significand + 2) * up
    den := Nat.pow 2 (2 - power).toNat
    closed := significand % 2 = 0 }

def digitCount (n : Nat) : Nat := (toString n).length

/-- The exponent of the leading decimal digit of a positive fraction. -/
def leadingExponent (num den : Nat) : Int :=
  if den ≤ num then (digitCount (num / den) : Int) - 1
  else -(digitCount ((den + num - 1) / num - 1) : Int)

/-- Is `point * step / den` in the interval that is given over `den`? -/
def Interval.has (i : Interval) (point : Nat) : Bool :=
  if i.closed then i.low ≤ point && point ≤ i.high
  else i.low < point && point < i.high

/-- The point of the grid of multiples of `10 ^ scale` that stands for the
interval's value, if the interval holds one. -/
def Interval.onGrid (i : Interval) (scale : Int) : Option Nat :=
  let widen := Nat.pow 10 (-scale).toNat
  let step := i.den * Nat.pow 10 scale.toNat
  let j : Interval :=
    { i with low := i.low * widen, value := i.value * widen, high := i.high * widen }
  let below := j.value / step
  let above := below + 1
  match 0 < below && j.has (below * step), j.has (above * step) with
  | true, false => some below
  | false, true => some above
  | false, false => none
  | true, true =>
    let down := j.value - below * step
    let up := above * step - j.value
    if down < up || (down == up && below % 2 == 0) then some below else some above

/-- Digits and the exponent of the last of them. -/
structure Decimal where
  digits : Nat
  exponent : Int
  deriving Repr, DecidableEq

/-- Trailing zeros move into the exponent. -/
def Decimal.trim : Nat → Decimal → Decimal
  | 0, d => d
  | fuel + 1, d =>
    if d.digits ≠ 0 ∧ d.digits % 10 = 0 then trim fuel ⟨d.digits / 10, d.exponent + 1⟩ else d

/-- Seventeen digits always suffice. -/
def Interval.shortest (i : Interval) : Decimal :=
  let lead := leadingExponent i.value i.den
  let grids := (List.range 17).map fun (k : Nat) => lead - (k : Int)
  match grids.findSome? fun scale => (i.onGrid scale).map (Decimal.mk · scale) with
  | some d => d.trim 17
  | none => ⟨0, 0⟩

/-- How a number's digits are set out. -/
structure Layout where
  /-- Exponents of the leading digit for which the point is put in its place. -/
  positionalFrom : Int
  positionalBelow : Int
  /-- The least number of digits of a written exponent. -/
  exponentDigits : Nat
  infinite : String
  undefined : String

/-- Digits with the point in its place, at least one digit on either side. -/
def positional (digits : String) (lead : Int) : String :=
  let chars := digits.toList
  if lead < 0 then
    "0." ++ String.ofList (List.replicate (-lead - 1).toNat '0') ++ digits
  else
    let whole := lead.toNat + 1
    let padded := chars ++ List.replicate (whole - chars.length) '0'
    let fraction := padded.drop whole
    String.ofList (padded.take whole) ++ "." ++
      (if fraction.isEmpty then "0" else String.ofList fraction)

/-- One digit before the point and a signed exponent; no point after a lone digit. -/
def scientific (layout : Layout) (digits : String) (lead : Int) : String :=
  let chars := digits.toList
  let fraction := chars.drop 1
  let size := toString lead.natAbs
  String.ofList (chars.take 1) ++
    (if fraction.isEmpty then "" else "." ++ String.ofList fraction) ++
    (if lead < 0 then "e-" else "e+") ++
    String.ofList (List.replicate (layout.exponentDigits - size.length) '0') ++ size

def Decimal.text (layout : Layout) (d : Decimal) : String :=
  let digits := toString d.digits
  let lead := d.exponent + digits.length - 1
  if layout.positionalFrom ≤ lead ∧ lead < layout.positionalBelow then positional digits lead
  else scientific layout digits lead

def text (layout : Layout) (x : Float) : String :=
  match Binary64.parts x with
  | .undefined => layout.undefined
  | .infinite negative => if negative then "-" ++ layout.infinite else layout.infinite
  | .finite negative significand power =>
    let size := if significand = 0 then Decimal.mk 0 0
      else (Interval.of significand power).shortest
    (if negative then "-" else "") ++ size.text layout

end Airspaces.Shortest
