import Airspaces.Airspace.Basic
import Airspaces.Error
/-! The airspace that is being read. Lines fill a record one after the other; a line
that opens or closes a record hands out the airspace that is complete. Name, base and
top outlive the record, because some files give them before the line that opens it. -/
namespace Airspaces

variable {α : Type} [Scalar α]

structure Record (α : Type) [Scalar α] where
  name : Text := []
  radio : Text := []
  airspaceClass : AirspaceClass := .other
  base : Altitude α := .unset
  top : Altitude α := .unset
  activity : Activity := .everyday
  points : Array (Position α) := #[]
  center : Position α := .origin
  radius : α := Scalar.ofDecimal 0 0
  /-- Clockwise is 1 and counter-clockwise -1. -/
  rotation : Int := 1
  /-- No line has opened a record since the last one was closed. -/
  waiting : Bool := true

namespace Record

def fresh : Record α := {}

def reset (r : Record α) : Record α := { name := r.name, base := r.base, top := r.top }

def lastPoint? (r : Record α) : Option (Position α) := r.points.back?

def addPoints (r : Record α) (points : List (Position α)) : Record α :=
  { r with points := r.points ++ points }

def airspace (r : Record α) (shape : Shape α) : Airspace α :=
  { name := r.name
    airspaceClass := r.airspaceClass
    base := r.base
    top := r.top
    radio := r.radio
    activity := r.activity
    shape }

def polygon (r : Record α) : List (Airspace α) :=
  if r.points.isEmpty then [] else [r.airspace (.polygon r.points.toList)]

def circle (r : Record α) : Airspace α := r.airspace (.circle r.center r.radius)

/-- What is handed out when a record is closed by the next one or by the end of the
file. -/
def pending (r : Record α) : List (Airspace α) :=
  if r.waiting then [] else r.polygon

/-- The record that a line of the given class opens. -/
def start (r : Record α) (airspaceClass : AirspaceClass) : Record α :=
  { r.reset with airspaceClass, waiting := false }

end Record

/-- Why a line did not come to its end. -/
inductive Stop (α : Type) where
  | line (e : LineError)
  | fault (f : Fault α)

/-- What a line did: the state it left, the airspaces it handed out, and why it
stopped if it did. A line that stops may have changed the state before. -/
structure Step (α σ : Type) [Scalar α] where
  state : σ
  finished : List (Airspace α) := []
  stop : Option (Stop α) := none

namespace Step

variable {σ τ : Type}

/-- A line that does nothing more. -/
def leave (state : σ) : Step α σ := { state }

def reject (state : σ) (cause : LineCause) (line : Text) : Step α σ :=
  { state, stop := some (.line ⟨cause, line⟩) }

def crash (state : σ) (f : Fault α) : Step α σ := { state, stop := some (.fault f) }

def map (f : σ → τ) (s : Step α σ) : Step α τ :=
  { state := f s.state, finished := s.finished, stop := s.stop }

end Step
end Airspaces
