import Airspaces.Altitude.Reader
import Airspaces.Arc
import Airspaces.Position.Compact
import Airspaces.Record
/-! The keyword dialect, known as TNP. A line is a keyword with a value, or an arc or
circle with its parameters:

    INCLUDE=NO
    TYPE=CTA/CTR
    TITLE=HAMBURG CTR
    CLASS=D
    TOPS=2500ALT
    BASE=SFC
    RADIO=120.100
    ACTIVE=WEEKDAY
    POINT=N533813 E0095943
    CLOCKWISE RADIUS=34.95 CENTRE=N523333 E0131603 TO=N522052 E0122236
    CIRCLE RADIUS=17.00 CENTRE=N533813 E0095943

`TYPE=` opens a record. Lines after `INCLUDE=NO` are passed over until `INCLUDE=YES`. -/
namespace Airspaces.Tnp

variable {α : Type} [Scalar α]

/-- Prohibited and danger areas count as restricted. -/
def types : List (Text × AirspaceClass) := [
  (['C'], .controlZone),
  (['C', 'T', 'A'], .controlZone),
  (['C', 'T', 'A', '/', 'C', 'T', 'R'], .controlZone),
  (['R'], .restricted),
  (['R', 'E', 'S', 'T', 'R', 'I', 'C', 'T', 'E', 'D'], .restricted),
  (['P'], .restricted),
  (['P', 'R', 'O', 'H', 'I', 'B', 'I', 'T', 'E', 'D'], .restricted),
  (['D'], .restricted),
  (['D', 'A', 'N', 'G', 'E', 'R'], .restricted),
  (['G'], .wave),
  (['G', 'S', 'E', 'C'], .wave)]

def classes : List (Text × AirspaceClass) := [
  (['A'], .a), (['B'], .b), (['C'], .c), (['D'], .d), (['E'], .e), (['F'], .f), (['G'], .g)]

def activities : List (Text × Activity) := [
  (['W', 'E', 'E', 'K', 'E', 'N', 'D'], .weekend),
  (['W', 'E', 'E', 'K', 'D', 'A', 'Y'], .weekdays),
  (['E', 'V', 'E', 'R', 'Y', 'D', 'A', 'Y'], .everyday)]

/-- The class of a `TYPE=` value in any case. -/
def typeOf (t : Text) : AirspaceClass := (types.lookup (Text.upper t)).getD .other

/-- The class of a `CLASS=` value, whose first letter counts if it is a capital. -/
def classOf (t : Text) : AirspaceClass := (classes.lookup (t.take 1)).getD .other

def activityOf? (t : Text) : Option Activity := activities.lookup (Text.upper t)

/-- The record being read and whether lines are passed over. -/
structure State (α : Type) [Scalar α] where
  record : Record α := .fresh
  ignoring : Bool := false

def radiusHead : Text := ['R', 'A', 'D', 'I', 'U', 'S', '=']

def centreHead : Text := [' ', 'C', 'E', 'N', 'T', 'R', 'E', '=']

def targetHead : Text := [' ', 'T', 'O', '=']

/-- What follows the first space and the head that must start there. -/
def afterSpacedHead? (head t : Text) : Option Text := do
  let rest ← Text.from? ' ' t
  Text.afterHead? rest head

/-- A circle from `RADIUS=17.00 CENTRE=N533813 E0095943`. It closes the record. -/
def circleLine (t line : Text) (r : Record α) : Step α (Record α) :=
  match Text.afterHead? t radiusHead with
  | none => .reject r .missingCircleRadius line
  | some parameter =>
    match Numeral.scan? parameter with
    | none => .reject r .malformedCircleRadius line
    | some (radius, _) =>
      match afterSpacedHead? centreHead parameter with
      | none => .reject r .missingCircleCentre line
      | some parameter =>
        match Position.ofCompact parameter with
        | .error f => .crash r f
        | .ok none => .reject r .malformedCircleCenter line
        | .ok (some center) =>
          let r := { r with radius := LengthUnit.nauticalMiles.store radius, center }
          { state := r.reset, finished := [r.circle] }

/-- What follows the second space, if ` TO=` starts there. -/
def target? (parameter : Text) : Option Text := do
  let rest ← Text.after? ' ' parameter
  afterSpacedHead? targetHead rest

/-- An arc from `RADIUS=34.95 CENTRE=N523333 E0131603 TO=N522052 E0122236`. It starts
at the last point, whatever radius is given. -/
def arcLine (g : Geodesy α) (t line : Text) (r : Record α) : Step α (Record α) :=
  match r.lastPoint? with
  | none => .reject r .arcWithoutPoint line
  | some start =>
    match afterSpacedHead? centreHead t with
    | none => .reject r .missingArcCentre line
    | some parameter =>
      match Position.ofCompact parameter with
      | .error f => .crash r f
      | .ok none => .reject r .malformedArcCenter line
      | .ok (some center) =>
        match target? parameter with
        | none => .reject r .missingArcTarget line
        | some parameter =>
          match Position.ofCompact parameter with
          | .error f => .crash r f
          | .ok none => .reject r .malformedArcEnd line
          | .ok (some stop) =>
            let r := { r with center }
            match Arc.between g center start stop r.rotation with
            | .error f => .crash r f
            | .ok points => .leave (r.addPoints points)

def pointLine (t line : Text) (r : Record α) : Step α (Record α) :=
  match Position.ofCompact t with
  | .error f => .crash r f
  | .ok none => .reject r .malformedPoint line
  | .ok (some point) => .leave (r.addPoints [point])

inductive Keyword where
  | point
  | circle
  | clockwise
  | antiClockwise
  | title
  | type
  | classLetter
  | tops
  | base
  | radio
  | active
  deriving Repr, DecidableEq

/-- The keywords in the order in which they are tried. -/
def keywords : List (Text × Keyword) := [
  (['P', 'O', 'I', 'N', 'T', '='], .point),
  (['C', 'I', 'R', 'C', 'L', 'E', ' '], .circle),
  (['C', 'L', 'O', 'C', 'K', 'W', 'I', 'S', 'E', ' '], .clockwise),
  (['A', 'N', 'T', 'I', '-', 'C', 'L', 'O', 'C', 'K', 'W', 'I', 'S', 'E', ' '], .antiClockwise),
  (['T', 'I', 'T', 'L', 'E', '='], .title),
  (['T', 'Y', 'P', 'E', '='], .type),
  (['C', 'L', 'A', 'S', 'S', '='], .classLetter),
  (['T', 'O', 'P', 'S', '='], .tops),
  (['B', 'A', 'S', 'E', '='], .base),
  (['R', 'A', 'D', 'I', 'O', '='], .radio),
  (['A', 'C', 'T', 'I', 'V', 'E', '='], .active)]

/-- The keyword at the start of a line, and what follows it. -/
def keyword? (line : Text) : Option (Keyword × Text) :=
  keywords.findSome? fun (head, keyword) =>
    (Text.afterHead? line head).map (keyword, ·)

/-- What a line with a keyword does. An arc sets the sense before it is read. -/
def keywordLine (g : Geodesy α) (keyword : Keyword) (value line : Text) (r : Record α) :
    Step α (Record α) :=
  match keyword with
  | .point => pointLine value line r
  | .circle => circleLine value line r
  | .clockwise => arcLine g value line { r with rotation := 1 }
  | .antiClockwise => arcLine g value line { r with rotation := -1 }
  | .title => .leave { r with name := value }
  | .type => { state := r.start (typeOf value), finished := r.pending }
  | .classLetter =>
    if r.airspaceClass = .other then .leave { r with airspaceClass := classOf value }
    else .leave r
  | .tops => .leave { r with top := Altitude.read value }
  | .base => .leave { r with base := Altitude.read value }
  | .radio => .leave { r with radio := value }
  | .active =>
    match activityOf? value with
    | some activity => .leave { r with activity }
    | none => .leave r

def includeHead : Text := ['I', 'N', 'C', 'L', 'U', 'D', 'E', '=']

/-- Are lines passed over after an `INCLUDE=` line with this value? -/
def ignoringAfter (value : Text) (ignoring : Bool) : Bool :=
  let word := Text.upper value
  if word = ['Y', 'E', 'S'] then false
  else if word = ['N', 'O'] then true
  else ignoring

/-- What one line does to the record and the switch. -/
def step (g : Geodesy α) (line : Text) (s : State α) : Step α (State α) :=
  match Text.afterHead? line includeHead with
  | some value => .leave { s with ignoring := ignoringAfter value s.ignoring }
  | none =>
    if s.ignoring then .leave s
    else
      match keyword? line with
      | none => .leave s
      | some (keyword, value) =>
        (keywordLine g keyword value line s.record).map fun r => { s with record := r }

end Airspaces.Tnp
