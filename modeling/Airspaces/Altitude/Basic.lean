import Airspaces.Number.Fixed
import Airspaces.Units
/-! The base or top of an airspace. Three sizes are kept, and the datum says which of
them counts: metres above mean sea level, a flight level in hundreds of feet, or
metres above the terrain. A negative height above the terrain is the surface itself. -/
namespace Airspaces

/-- What an altitude is measured from. -/
inductive Datum where
  | undefined
  | meanSea
  | standard
  | terrain
  deriving Repr, DecidableEq

def Datum.label : Datum → String
  | undefined => "undefined"
  | meanSea => "MSL"
  | standard => "FL"
  | terrain => "AGL"

structure Altitude (α : Type) where
  metres : α
  level : α
  aboveTerrain : α
  datum : Datum
  deriving BEq

namespace Altitude

variable {α : Type} [Scalar α]

def unset : Altitude α :=
  ⟨Scalar.ofDecimal 0 0, Scalar.ofDecimal 0 0, Scalar.ofDecimal 0 0, .undefined⟩

instance : Inhabited (Altitude α) := ⟨unset⟩

def isSurface (a : Altitude α) : Bool :=
  a.datum == .terrain && decide (a.aboveTerrain < Scalar.ofDecimal 0 0)

/-- Two places at most: zeros at the end go, and a point that is left last. -/
def trimPlaces (t : Text) : Text :=
  let t := Text.trimEndBy (· == '.') (Text.trimEndBy (· == '0') t)
  if t = ['-', '0'] then ['0'] else t

def sizeText (x : α) : Text := trimPlaces (Fixed.text 2 (Scalar.reading x))

/-- A size in its unit with the letters of the unit. -/
def quantityText (u : AltitudeUnit) (x : α) : Text :=
  sizeText (u.length.display x) ++
    match u with
    | .feet => ['f', 't']
    | .metres => ['m']

/-- The altitude as airspace files write it: `FL95`, `1500ft MSL`, `300m AGL`, `SFC`. -/
def text (u : AltitudeUnit) (a : Altitude α) : Text :=
  match a.datum with
  | .standard => 'F' :: 'L' :: sizeText a.level
  | .terrain =>
    if a.isSurface then ['S', 'F', 'C']
    else quantityText u a.aboveTerrain ++ [' ', 'A', 'G', 'L']
  | _ => quantityText u a.metres ++ [' ', 'M', 'S', 'L']

end Altitude
end Airspaces
