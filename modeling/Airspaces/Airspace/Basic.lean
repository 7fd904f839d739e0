import Airspaces.Airspace.Activity
import Airspaces.Airspace.Class
import Airspaces.Altitude.Basic
import Airspaces.Position.Basic
/-! Finished airspaces: what is known of one, and its boundary, which is either a
chain of points or a circle. -/
namespace Airspaces

variable {α : Type} [Scalar α]

inductive Shape (α : Type) [Scalar α] where
  | polygon (points : List (Position α))
  /-- The radius is in metres. -/
  | circle (center : Position α) (radius : α)

namespace Shape

def kind : Shape α → String
  | polygon _ => "polygon"
  | circle .. => "circle"

def isCircle : Shape α → Bool
  | polygon _ => false
  | circle .. => true

def points : Shape α → List (Position α)
  | polygon points => points
  | circle .. => []

def radius? : Shape α → Option α
  | polygon _ => none
  | circle _ radius => some radius

/-- A polygon never equals a circle. -/
instance : BEq (Shape α) where
  beq
    | polygon points, polygon points' => points == points'
    | circle center radius, circle center' radius' => center == center' && radius == radius'
    | _, _ => false

end Shape

structure Airspace (α : Type) [Scalar α] where
  name : Text := []
  airspaceClass : AirspaceClass := .other
  base : Altitude α := .unset
  top : Altitude α := .unset
  radio : Text := []
  activity : Activity := .everyday
  shape : Shape α

namespace Airspace

/-- Airspaces are equal when all that is known of them compares equal. -/
instance : BEq (Airspace α) where
  beq a b :=
    a.name == b.name && a.airspaceClass == b.airspaceClass && a.base == b.base &&
      a.top == b.top && a.radio == b.radio && a.activity == b.activity && a.shape == b.shape

/-- One line about an airspace: name, class and size. -/
def summary (a : Airspace α) : Text :=
  let about := "(name='".toList ++ a.name ++ ("', class=" ++ a.airspaceClass.name).toList
  match a.shape with
  | .polygon points =>
    "AirspacePolygon".toList ++ about ++ (", points=" ++ toString points.length ++ ")").toList
  | .circle _ radius =>
    "AirspaceCircle".toList ++ about ++ ", radius=".toList ++
      Fixed.text 0 (Scalar.reading radius) ++ "m)".toList

end Airspace
end Airspaces
