import Airspaces.Airspace.Basic
import Airspaces.Calendar
import Airspaces.Collection.Basic
import Airspaces.Text.Case
import Airspaces.Text.Quoted
/-! Questions about a collection of airspaces: by class, name, shape, radio and day. -/
namespace Airspaces.Collection

variable {α : Type} [Scalar α]

/-- The class of a name in any case. -/
def classNamed (name : Text) : Except QueryError AirspaceClass :=
  match AirspaceClass.ofName? (String.ofList (Text.upper name)) with
  | some k => .ok k
  | none => .error (.unknownClass name)

def byClass (wanted : List AirspaceClass) (c : Collection (Airspace α)) :
    Collection (Airspace α) :=
  c.filter fun a => wanted.contains a.airspaceClass

def byClassNames (names : List Text) (c : Collection (Airspace α)) :
    Except QueryError (Collection (Airspace α)) := do
  let wanted ← names.mapM classNamed
  .ok (c.byClass wanted)

/-- Airspaces whose name has the text in it, in any case. -/
def byNameContains (part : Text) (c : Collection (Airspace α)) : Collection (Airspace α) :=
  c.filter fun a => Text.hasPart (Text.upper part) (Text.upper a.name)

def polygons (c : Collection (Airspace α)) : Collection (Airspace α) :=
  c.filter fun a => !a.shape.isCircle

def circles (c : Collection (Airspace α)) : Collection (Airspace α) :=
  c.filter fun a => a.shape.isCircle

/-- Airspaces that are active on the weekday of a date. -/
def activeOn (date : Date) (c : Collection (Airspace α)) : Collection (Airspace α) :=
  c.filter fun a => a.activity.isActive date.weekday

def withRadio (c : Collection (Airspace α)) : Collection (Airspace α) :=
  c.filter fun a => !a.radio.isEmpty

/-- The airspaces of each class that occurs, by the name of the class. -/
def groupByClass (c : Collection (Airspace α)) : List (String × List (Airspace α)) :=
  c.groupBy fun a => a.airspaceClass.name

def airspaceSummary (c : Collection (Airspace α)) : Text :=
  c.summary "AirspaceCollection" fun a => Text.quoted a.name

end Airspaces.Collection
