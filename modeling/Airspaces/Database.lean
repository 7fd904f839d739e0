import Airspaces.Collection.Query
/-! The store of finished airspaces, in the order in which they came. -/
namespace Airspaces

variable {α : Type} [Scalar α]

structure Database (α : Type) [Scalar α] where
  airspaces : List (Airspace α) := []

namespace Database

def insert (a : Airspace α) (d : Database α) : Database α := ⟨d.airspaces ++ [a]⟩

def addAll (inserted : List (Airspace α)) (d : Database α) : Database α :=
  ⟨d.airspaces ++ inserted⟩

def size (d : Database α) : Nat := d.airspaces.length

def collection (d : Database α) : Collection (Airspace α) := .ofList d.airspaces

end Database
end Airspaces
