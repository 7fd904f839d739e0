import Airspaces.Number.Scalar
/-! Bearings in degrees, clockwise from north. -/
namespace Airspaces.Bearing

variable {α : Type} [Scalar α]

/-- The same direction in the first turn. -/
def reduce (degrees : α) : α := Scalar.wrap degrees

/-- The angle between two directions, at most a half turn; the sense is lost. -/
def difference (a b : α) : α :=
  let delta := Scalar.abs (reduce a - reduce b)
  if 180.0 < delta then 360.0 - delta else delta

end Airspaces.Bearing
