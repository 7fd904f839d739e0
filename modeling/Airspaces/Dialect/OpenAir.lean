import Airspaces.Altitude.Reader
import Airspaces.Arc
import Airspaces.Position.Sexagesimal
import Airspaces.Record
/-! The OpenAir dialect. A line starts with a directive of one or two letters:

    AC R                          class, opens a record
    AN ED-R 123                   name
    AL GND / AH FL100             base / top
    AR 123.450                    radio
    V X=53:20:41 N 010:24:41 E    center of circles and arcs
    V D=+ / V D=-                 sense of arcs
    DP 53:20:41 N 010:24:41 E     boundary point
    DA 2.5,270,90                 sector: radius in nautical miles, first and last bearing
    DB 53:20 N 010:20 E,53:30 N 010:20 E    arc between two points
    DC 2.5                        circle: radius in nautical miles, closes the record

Unknown directives, and most values that cannot be read, are passed over; only an
unreadable coordinate of DP, DB or V X= is an error. -/
namespace Airspaces.OpenAir

variable {α : Type} [Scalar α]

/-- Classes by the letters that a value starts with; the first that fits is taken. -/
def classLetters : List (Text × AirspaceClass) := [
  (['R'], .restricted),
  (['Q'], .danger),
  (['P'], .prohibited),
  (['C', 'T', 'R'], .controlZone),
  (['A'], .a),
  (['B'], .b),
  (['C'], .c),
  (['D'], .d),
  (['G', 'P'], .noGlider),
  (['W'], .wave),
  (['E'], .e),
  (['F'], .f),
  (['T', 'M', 'Z'], .transponder),
  (['G'], .g)]

def classOf (t : Text) : AirspaceClass :=
  match classLetters.find? fun (letters, _) => letters.isPrefixOf t with
  | some (_, airspaceClass) => airspaceClass
  | none => .other

/-- The value of a directive: what follows one space. A directive may be left blank;
anything but a space after it makes the line malformed. -/
def value? : Text → Option Text
  | [] => some []
  | ' ' :: rest => some rest
  | _ => none

/-- Radius, first and last bearing, each value after one character of any kind. -/
def sectorValues? (line : Text) : Option (α × α × α) := do
  let (radius, rest) ← Numeral.scan? (line.drop 2)
  let (first, rest) ← Numeral.scan? (rest.drop 1)
  let (last, _) ← Numeral.scan? (rest.drop 1)
  some (radius, first, last)

/-- The record with the points of a curve, unless they cannot be computed. -/
def addCurve (r : Record α) : Except (Fault α) (List (Position α)) → Step α (Record α)
  | .ok points => .leave (r.addPoints points)
  | .error f => .crash r f

def sectorLine (g : Geodesy α) (line : Text) (r : Record α) : Step α (Record α) :=
  match sectorValues? line with
  | none => .leave r
  | some (radius, first, last) =>
    addCurve r (Arc.sector g r.center (LengthUnit.nauticalMiles.store radius) first last r.rotation)

def arcLine (g : Geodesy α) (line : Text) (r : Record α) : Step α (Record α) :=
  match Position.ofSexagesimal? (line.drop 3) with
  | none => .reject r .malformedArcStart line
  | some start =>
    match Text.after? ',' line with
    | none => .reject r .missingArcEnd line
    | some rest =>
      match Position.ofSexagesimal? rest with
      | none => .reject r .malformedArcEnd line
      | some stop => addCurve r (Arc.between g r.center start stop r.rotation)

def pointLine (line : Text) (r : Record α) : Step α (Record α) :=
  match value? (line.drop 2) with
  | none => .leave r
  | some value =>
    match Position.ofSexagesimal? value with
    | none => .reject r .malformedPoint line
    | some point => .leave (r.addPoints [point])

def circleLine (line : Text) (r : Record α) : Step α (Record α) :=
  match Numeral.scan? (line.drop 2) with
  | none => .leave r
  | some (radius, _) =>
    let r := { r with radius := LengthUnit.nauticalMiles.store radius }
    { state := r.reset, finished := [r.circle] }

/-- The second letter of a line as a capital. -/
def letter (line : Text) : Text := Text.upper ((line.drop 1).take 1)

def boundaryLine (g : Geodesy α) (line : Text) (r : Record α) : Step α (Record α) :=
  let second := letter line
  if second = ['P'] then pointLine line r
  else if second = ['C'] then circleLine line r
  else if second = ['A'] then sectorLine g line r
  else if second = ['B'] then arcLine g line r
  else .leave r

/-- The second character of a variable line is not looked at. -/
def variableLine (line : Text) (r : Record α) : Step α (Record α) :=
  let setting := Text.upper (line.drop 2)
  if ['X', '='].isPrefixOf setting then
    match Position.ofSexagesimal? (line.drop 4) with
    | none => .reject r .malformedCenter line
    | some center => .leave { r with center }
  else if ['D', '=', '-'].isPrefixOf setting then .leave { r with rotation := -1 }
  else if ['D', '=', '+'].isPrefixOf setting then .leave { r with rotation := 1 }
  else .leave r

def attributeLine (line : Text) (r : Record α) : Step α (Record α) :=
  let second := letter line
  match value? (line.drop 2) with
  | none => .leave r
  | some value =>
    if second = ['C'] then { state := r.start (classOf value), finished := r.pending }
    else if second = ['N'] then .leave { r with name := value }
    else if second = ['L'] then .leave { r with base := Altitude.read value }
    else if second = ['H'] then .leave { r with top := Altitude.read value }
    else if second = ['R'] then .leave { r with radio := value }
    else .leave r

/-- What one line does to the record. A line without characters has no directive. -/
def step (g : Geodesy α) (line : Text) (r : Record α) : Step α (Record α) :=
  match line with
  | [] => .crash r .emptyLine
  | c :: _ =>
    let first := Text.capital c
    if first = ['D'] then boundaryLine g line r
    else if first = ['V'] then variableLine line r
    else if first = ['A'] then attributeLine line r
    else .leave r

end Airspaces.OpenAir
