import Airspaces.Number.Numeral
import Airspaces.Number.Rounding
import Airspaces.Position.Basic
/-! Positions in degrees, minutes and seconds: `53:20:41 N 010:24:41 E`. The writer
rounds to whole seconds. The reader takes decimals in every part, leaves out minutes
and seconds that are not there, and allows one space before each hemisphere letter;
a letter other than S and W counts as north or east. -/
namespace Airspaces.Position

variable {α : Type} [Scalar α]

/-- The whole seconds nearest to a size in degrees, a half going to the even one. -/
def wholeSeconds (degrees : α) : Except (Fault α) Nat :=
  match Scalar.reading (Scalar.abs degrees * 3600.0) with
  | .finite _ num den => .ok (roundEven num den)
  | .infinite _ => .error .overflow
  | .undefined => .error .undefinedRounding

/-- Degrees with a least width, minutes and seconds with two digits each. -/
def sexagesimalText (width seconds : Nat) (hemisphere : Char) : Text :=
  Digits.padded width (seconds / 3600) ++ ':' ::
    (Digits.padded 2 (seconds % 3600 / 60) ++ ':' ::
      (Digits.padded 2 (seconds % 3600 % 60) ++ [' ', hemisphere]))

def latitudeText (degrees : α) : Except (Fault α) Text := do
  let seconds ← wholeSeconds degrees
  .ok (sexagesimalText 2 seconds (if Scalar.ofDecimal 0 0 ≤ degrees then 'N' else 'S'))

def longitudeText (degrees : α) : Except (Fault α) Text := do
  let seconds ← wholeSeconds degrees
  .ok (sexagesimalText 3 seconds (if Scalar.ofDecimal 0 0 ≤ degrees then 'E' else 'W'))

def sexagesimal (p : Position α) : Except (Fault α) (Text × Text) := do
  let latitude ← latitudeText p.latitude
  let longitude ← longitudeText p.longitude
  .ok (latitude, longitude)

/-- A number and the character that follows it; the text must not end there. -/
def part? (t : Text) : Option (α × Char × Text) :=
  match Numeral.scan? t with
  | some (x, c :: rest) => some (x, c, rest)
  | _ => none

/-- Degrees, with minutes and seconds after colons, and the character that follows. -/
def angle? (t : Text) : Option (α × Char × Text) := do
  let (degrees, c, rest) ← part? t
  if c = ':' then
    let (minutes, c, rest) ← part? rest
    let degrees := degrees + minutes / 60.0
    if c = ':' then
      let (seconds, c, rest) ← part? rest
      some (degrees + seconds / 3600.0, c, rest)
    else some (degrees, c, rest)
  else some (degrees, c, rest)

/-- An angle and its hemisphere letter, with at most one space between them. -/
def signedAngle? (negative : Char → Bool) (t : Text) : Option (α × Text) := do
  let (degrees, c, rest) ← angle? t
  match c, rest with
  | ' ', [] => none
  | ' ', letter :: rest => some (if negative letter then -degrees else degrees, rest)
  | letter, rest => some (if negative letter then -degrees else degrees, rest)

def isSouth (c : Char) : Bool := c == 'S' || c == 's'

def isWest (c : Char) : Bool := c == 'W' || c == 'w'

/-- The position at the start of a text; what follows it does not matter. -/
def ofSexagesimal? (t : Text) : Option (Position α) := do
  let (latitude, rest) ← signedAngle? isSouth t
  let (longitude, _) ← signedAngle? isWest rest
  let p ← of? latitude longitude
  some p.normalize

end Airspaces.Position
