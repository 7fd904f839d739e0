import Airspaces.Number.Scalar
/-! Units of length and altitude. Everything is stored in metres, flight levels in
hundreds of feet; a factor takes a stored value to its unit. A setting names the
units in which a pilot wants distances and altitudes shown. -/
namespace Airspaces

inductive LengthUnit where
  | metres
  | feet
  | flightLevel
  | kilometres
  | nauticalMiles
  | statuteMiles
  deriving Repr, DecidableEq

namespace LengthUnit

def symbol : LengthUnit → String
  | metres => "m"
  | feet => "ft"
  | flightLevel => "FL"
  | kilometres => "km"
  | nauticalMiles => "NM"
  | statuteMiles => "mi"

/-- The name by which a unit is chosen and reported. -/
def name : LengthUnit → String
  | metres => "METERS"
  | feet => "FEET"
  | flightLevel => "FLIGHT_LEVEL"
  | kilometres => "KILOMETERS"
  | nauticalMiles => "NAUTICAL_MILES"
  | statuteMiles => "STATUTE_MILES"

def all : List LengthUnit :=
  [metres, feet, flightLevel, kilometres, nauticalMiles, statuteMiles]

def ofName? (name : String) : Option LengthUnit := all.find? (·.name == name)

variable {α : Type} [Scalar α]

/-- How many of the unit make up one stored metre. -/
def factor : LengthUnit → α
  | metres => 1.0
  | feet => 1.0 / 0.3048
  | flightLevel => 1.0 / 30.48
  | kilometres => 0.001
  | nauticalMiles => 1.0 / 1852.0
  | statuteMiles => 1.0 / 1609.344

def store (u : LengthUnit) (x : α) : α := x / u.factor

def display (u : LengthUnit) (x : α) : α := x * u.factor

end LengthUnit

inductive AltitudeUnit where
  | metres
  | feet
  deriving Repr, DecidableEq

def AltitudeUnit.length : AltitudeUnit → LengthUnit
  | metres => .metres
  | feet => .feet

/-- The units in which distances and altitudes are shown. -/
structure UnitSetting where
  distance : LengthUnit := .kilometres
  altitude : AltitudeUnit := .metres
  deriving Repr, DecidableEq

namespace UnitSetting

def presets : List (String × UnitSetting) := [
  ("european", ⟨.kilometres, .metres⟩),
  ("british", ⟨.kilometres, .feet⟩),
  ("american", ⟨.statuteMiles, .feet⟩),
  ("australian", ⟨.nauticalMiles, .feet⟩)]

def presetNames : List String := presets.map (·.1)

end UnitSetting

inductive UnitError where
  | notForAltitudes (u : LengthUnit)
  | unknownPreset (name : String)
  deriving Repr, DecidableEq

def UnitError.message : UnitError → String
  | notForAltitudes u =>
    "Altitudes can only be written in feet or metres, got Unit." ++ u.name
  | unknownPreset name =>
    "Unknown unit preset: " ++ name ++ " (expected one of " ++
      ", ".intercalate UnitSetting.presetNames ++ ")"

/-- The unit for writing altitudes that a unit of length is. -/
def AltitudeUnit.of : LengthUnit → Except UnitError AltitudeUnit
  | .metres => .ok metres
  | .feet => .ok feet
  | u => .error (.notForAltitudes u)

/-- The preset of a name in any case. The names are ASCII, and no letter beyond
ASCII is a capital of one of theirs. -/
def UnitSetting.preset (name : String) : Except UnitError UnitSetting :=
  match presets.lookup (String.ofList (name.toList.map Char.toLower)) with
  | some setting => .ok setting
  | none => .error (.unknownPreset name)

end Airspaces
