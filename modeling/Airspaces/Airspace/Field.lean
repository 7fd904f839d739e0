import Airspaces.Airspace.Basic
import Airspaces.Collection.Key
/-! The fields of an airspace that collections are sorted, filtered and grouped by. -/
namespace Airspaces

namespace Airspace

inductive Field where
  | name
  | radio
  | airspaceClass
  | shape
  /-- The heights of base and top. -/
  | base
  | top
  /-- The flight level of the top. -/
  | topLevel
  | active
  /-- The number of points; a circle has none. -/
  | vertices
  /-- The radius of a circle; that of a polygon counts as -1. -/
  | radius
  deriving Repr, DecidableEq

def Field.names : List (String × Field) :=
  [("name", .name), ("radio", .radio), ("class", .airspaceClass), ("shape", .shape),
    ("base", .base), ("top", .top), ("top_level", .topLevel), ("active", .active),
    ("vertices", .vertices), ("radius", .radius)]

variable {α : Type} [Scalar α]

def key (field : Field) (a : Airspace α) : Key α :=
  match field with
  | .name => .text a.name
  | .radio => .text a.radio
  | .airspaceClass => .text a.airspaceClass.name.toList
  | .shape => .text a.shape.kind.toList
  | .base => .number a.base.metres
  | .top => .number a.top.metres
  | .topLevel => .number a.top.level
  | .active => .text a.activity.text.toList
  | .vertices => .whole a.shape.points.length
  | .radius => .number (a.shape.radius?.getD (-1.0))

end Airspace
end Airspaces
