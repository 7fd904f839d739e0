import Airspaces.Bearing
import Airspaces.Position.Sphere
/-! Curved boundaries as chains of points, one every five degrees around the center.
Stepping ends once the end is within seven and a half degrees, and the end itself
comes last. -/
namespace Airspaces.Arc

variable {α : Type} [Scalar α]

/-- Five degrees for each unit of rotation; its sign gives the sense. -/
def step (rotation : Int) : Except (Fault α) α :=
  match Scalar.ofInt? rotation with
  | some turns => .ok (turns * 5.0)
  | none => .error .overflow

/-- Is a bearing near enough to the end for the end to come next? -/
def near (stop bearing : α) : Bool := ¬ 7.5 < Bearing.difference stop bearing

/-- Steps of a whole number of degrees meet at most this many bearings. -/
def orbit : Nat := 360

/-- The bearings after `bearing` that stepping passes, up to the first one near the
end, and whether there is one. -/
def walk (step stop : α) : Nat → α → List α × Bool
  | 0, bearing => ([], near stop bearing)
  | fuel + 1, bearing =>
    if near stop bearing then ([], true)
    else
      let next := Bearing.reduce (bearing + step)
      let (later, ended) := walk step stop fuel next
      (next :: later, ended)

/-- The points at the given bearings, provided stepping came to an end. -/
def pointsOf (g : Geodesy α) (center : Position α) (radius : α) (bearings : List α)
    (ended : Bool) : Except (Fault α) (List (Position α)) := do
  let points ← bearings.mapM fun b => g.project center b radius
  if ended then .ok points else .error .endless

/-- The points of a sector given by two bearings. A start that is already near the
end is left out. -/
def sector (g : Geodesy α) (center : Position α) (radius start stop : α) (rotation : Int) :
    Except (Fault α) (List (Position α)) := do
  let step ← step rotation
  let start := Bearing.reduce start
  let stop := Bearing.reduce stop
  let (later, ended) := walk step stop orbit start
  let points ← pointsOf g center radius (if near stop start then later else start :: later) ended
  let last ← g.project center stop radius
  .ok (points ++ [last])

/-- The points of an arc between two positions, both of which are kept as they are.
Radius and first bearing are those of the start. -/
def between (g : Geodesy α) (center start stop : Position α) (rotation : Int) :
    Except (Fault α) (List (Position α)) := do
  let step ← step rotation
  let first ← g.measure center start
  let last ← g.measure center stop
  let (later, ended) := walk step last.bearing orbit first.bearing
  let points ← pointsOf g center first.distance later ended
  .ok (start :: points ++ [stop])

end Airspaces.Arc
