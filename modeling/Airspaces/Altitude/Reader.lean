import Airspaces.Altitude.Basic
import Airspaces.Altitude.Token
/-! Altitudes as they are read from files. Every text has one: words change a draft
one after the other, and what is still open at the end is settled by two rules.
A number without a unit is in feet, and an altitude without a datum is above mean
sea level. -/
namespace Airspaces.Altitude

variable {α : Type} [Scalar α]

/-- An altitude of which some words have been read. -/
structure Draft (α : Type) where
  metres : α
  level : α
  aboveTerrain : α
  datum : Datum
  hasUnit : Bool

namespace Draft

def start : Draft α :=
  ⟨Scalar.ofDecimal 0 0, Scalar.ofDecimal 0 0, Scalar.ofDecimal 0 0, .undefined, false⟩

def surfaceMark : α := -(Scalar.ofDecimal 1 0)

/-- The altitude that stands for no limit at all. -/
def unlimitedHeight : α := Scalar.ofDecimal 50000 0

def atSurface (d : Draft α) : Draft α :=
  { d with
    metres := Scalar.ofDecimal 0 0
    level := Scalar.ofDecimal 0 0
    aboveTerrain := surfaceMark
    datum := .terrain
    hasUnit := true }

/-- What one word does. A number goes to the size that the datum has chosen so far. -/
def take (d : Draft α) : Token → Draft α
  | .blank => d
  | .other => d
  | .number n =>
    match d.datum with
    | .standard => { d with level := n.value }
    | .terrain => { d with aboveTerrain := n.value }
    | _ => { d with metres := n.value }
  | .ground =>
    if Scalar.ofDecimal 0 0 < d.metres then
      { d with aboveTerrain := d.metres, metres := Scalar.ofDecimal 0 0, datum := .terrain }
    else d.atSurface
  | .surface => d.atSurface
  | .level => { d with datum := .standard, hasUnit := true }
  | .feet => { d with metres := LengthUnit.feet.store d.metres, hasUnit := true }
  | .meanSea => { d with datum := .meanSea }
  | .metres => { d with hasUnit := true }
  | .aboveGround =>
    { d with aboveTerrain := d.metres, metres := Scalar.ofDecimal 0 0, datum := .terrain }
  | .standard => { d with datum := .standard, level := LengthUnit.flightLevel.display d.metres }
  | .unlimited =>
    { d with datum := .meanSea, aboveTerrain := surfaceMark, metres := unlimitedHeight }

/-- A draft whose sizes are in feet unless a unit or a flight level was read. -/
def applyUnit (d : Draft α) : Draft α :=
  if !d.hasUnit && d.datum != .standard then
    { d with
      metres := LengthUnit.feet.store d.metres
      aboveTerrain := LengthUnit.feet.store d.aboveTerrain }
  else d

def finish (d : Draft α) : Altitude α :=
  let d := d.applyUnit
  ⟨d.metres, d.level, d.aboveTerrain, if d.datum = .undefined then .meanSea else d.datum⟩

end Draft

def read (t : Text) : Altitude α :=
  ((Token.scan t).foldl Draft.take Draft.start).finish

end Airspaces.Altitude
