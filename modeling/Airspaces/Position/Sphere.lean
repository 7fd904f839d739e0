import Airspaces.Number.Binary64
import Airspaces.Position.Basic
/-! Great circles. `Geodesy` is what arcs and sectors need of the earth: the point at
a bearing and distance, and the distance and bearing of a point. `sphere` answers
both on a sphere. The functions of angles are not defined at infinity, nor the
inverse sine beyond one, nor the root below zero. -/
namespace Airspaces

/-- Distance in metres and initial bearing in degrees. -/
structure Course (α : Type) where
  distance : α
  bearing : α

structure Geodesy (α : Type) [Scalar α] where
  project : (center : Position α) → (bearing distance : α) → Except (Fault α) (Position α)
  measure : (start stop : Position α) → Except (Fault α) (Course α)

namespace Sphere

abbrev Answer := Except (Fault Float)

def radius : Float := 6371000.0

def pi : Float := 3.141592653589793

def radians (degrees : Float) : Float := degrees * (pi / 180.0)

def degrees (radians : Float) : Float := radians * (180.0 / pi)

def sine (x : Float) : Answer Float :=
  if x.isInf then .error .domain else .ok x.sin

def cosine (x : Float) : Answer Float :=
  if x.isInf then .error .domain else .ok x.cos

def inverseSine (x : Float) : Answer Float :=
  if 1.0 < x.abs then .error .domain else .ok x.asin

def root (x : Float) : Answer Float :=
  if x < 0.0 then .error .domain else .ok x.sqrt

/-- The point at a distance in metres along a bearing in degrees. -/
def project (center : Position Float) (bearing distance : Float) : Answer (Position Float) := do
  let angular := distance / radius
  let lat := radians center.latitude
  let lon := radians center.longitude
  let heading := radians bearing
  let sinLat ← sine lat
  let cosLat ← cosine lat
  let sinAngular ← sine angular
  let cosAngular ← cosine angular
  let sinHeading ← sine heading
  let cosHeading ← cosine heading
  let lat' ← inverseSine (sinLat * cosAngular + cosLat * sinAngular * cosHeading)
  let sinLat' ← sine lat'
  let lon' := lon + Float.atan2 (sinHeading * sinAngular * cosLat) (cosAngular - sinLat * sinLat')
  let p ← Position.of (degrees lat') (degrees lon')
  .ok p.normalize

/-- Distance by the haversine formula, and the bearing in which the way starts. -/
def measure (start stop : Position Float) : Answer (Course Float) := do
  let lat := radians start.latitude
  let lon := radians start.longitude
  let lat' := radians stop.latitude
  let lon' := radians stop.longitude
  let dlat := lat' - lat
  let dlon := lon' - lon
  let sinHalfLat ← sine (dlat / 2.0)
  let cosLat ← cosine lat
  let cosLat' ← cosine lat'
  let sinHalfLon ← sine (dlon / 2.0)
  let a := sinHalfLat.pow 2.0 + cosLat * cosLat' * sinHalfLon.pow 2.0
  let rootA ← root a
  let rootB ← root (1.0 - a)
  let c := 2.0 * Float.atan2 rootA rootB
  let sinLat ← sine lat
  let sinLat' ← sine lat'
  let sinLon ← sine dlon
  let cosLon ← cosine dlon
  let y := sinLon * cosLat'
  let x := cosLat * sinLat' - sinLat * cosLat' * cosLon
  .ok ⟨radius * c, Scalar.wrap (degrees (Float.atan2 y x) + 360.0)⟩

def geodesy : Geodesy Float := ⟨project, measure⟩

end Sphere
end Airspaces
