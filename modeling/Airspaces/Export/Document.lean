import Airspaces.Database
import Airspaces.Export.Csv
import Airspaces.Export.Json
/-! The database in two written forms: a document with everything that is known of
each airspace, and a table with one line for each. -/
namespace Airspaces

namespace Export

def altitude (a : Altitude Float) : JsonValue :=
  .object [
    ("reference", .text a.datum.label.toList),
    ("altitude_m", .number a.metres),
    ("flight_level", .number a.level),
    ("altitude_above_terrain_m", .number a.aboveTerrain),
    ("text", .text (a.text .feet))]

def position (p : Position Float) : JsonValue :=
  .list [.number p.latitude, .number p.longitude]

def shape : Shape Float → List (String × JsonValue)
  | .polygon points => [("points", .list (points.map position))]
  | .circle center radius => [("center", position center), ("radius_m", .number radius)]

def airspace (a : Airspace Float) : JsonValue :=
  .object ([
    ("name", .text a.name),
    ("class", .text a.airspaceClass.label.toList),
    ("shape", .text a.shape.kind.toList),
    ("radio", .text a.radio),
    ("base", altitude a.base),
    ("top", altitude a.top),
    ("active", .text a.activity.text.toList)] ++ shape a.shape)

/-- When the database was made and last changed, in the words of a clock. -/
structure Times where
  created : String := ""
  updated : String := ""

def json (times : Times) (d : Database Float) : String :=
  (JsonValue.object [
    ("airspaces", .list (d.airspaces.map airspace)),
    ("count", .whole d.size),
    ("created_at", .text times.created.toList),
    ("updated_at", .text times.updated.toList)]).render 0

def columns : List String :=
  ["name", "class", "shape", "radio", "base", "top", "base_reference", "top_reference",
    "active", "vertices", "radius_m"]

/-- The radius in a table: polygons have none, and an undefined one is left out. -/
def radiusCell : Option Float → Text
  | none => []
  | some radius => if radius.isNaN then [] else (Measurement.text radius).toList

def cells (a : Airspace Float) : List Text := [
  a.name,
  a.airspaceClass.label.toList,
  a.shape.kind.toList,
  a.radio,
  a.base.text .feet,
  a.top.text .feet,
  a.base.datum.label.toList,
  a.top.datum.label.toList,
  a.activity.text.toList,
  (toString a.shape.points.length).toList,
  radiusCell a.shape.radius?]

def csv (d : Database Float) : String :=
  String.ofList (Csv.table (columns.map String.toList :: d.airspaces.map cells))

end Export
end Airspaces
