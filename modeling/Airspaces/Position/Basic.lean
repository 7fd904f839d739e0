import Airspaces.Fault
import Airspaces.Number.Scalar
/-! Geographic positions in decimal degrees, north and east positive. A position
carries the proof that its latitude lies between the poles; its longitude may be
any number until it is normalized. -/
namespace Airspaces

variable {α : Type} [Scalar α]

/-- Between the south and the north pole, both included. -/
def InLatitudes (latitude : α) : Prop :=
  -(Scalar.ofDecimal 90 0 : α) ≤ latitude ∧ latitude ≤ Scalar.ofDecimal 90 0

instance (latitude : α) : Decidable (InLatitudes latitude) :=
  inferInstanceAs (Decidable (_ ∧ _))

structure Position (α : Type) [Scalar α] where
  latitude : α
  longitude : α
  inLatitudes : InLatitudes latitude

namespace Position

/-- Where the equator meets the prime meridian. -/
def origin : Position α :=
  ⟨Scalar.ofDecimal 0 0, Scalar.ofDecimal 0 0, Scalar.zero_mem⟩

instance : Inhabited (Position α) := ⟨origin⟩

/-- The position of a latitude and a longitude, if the latitude is one. -/
def of? (latitude longitude : α) : Option (Position α) :=
  if h : InLatitudes latitude then some ⟨latitude, longitude, h⟩ else none

def of (latitude longitude : α) : Except (Fault α) (Position α) :=
  match of? latitude longitude with
  | some p => .ok p
  | none => .error (.latitude latitude)

/-- The same place with a longitude from -180 up to 180. -/
def normalize (p : Position α) : Position α :=
  { p with longitude := Scalar.wrap (p.longitude + 180.0) - 180.0 }

/-- Positions are equal when both coordinates compare equal. -/
instance : BEq (Position α) :=
  ⟨fun p q => p.latitude == q.latitude && p.longitude == q.longitude⟩

@[simp] theorem normalize_latitude (p : Position α) : p.normalize.latitude = p.latitude := rfl

end Position
end Airspaces
