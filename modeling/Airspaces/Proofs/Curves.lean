import Airspaces.Arc
import Airspaces.Proofs.Position.Compact
import Airspaces.Record
/-! Curves as the dialects ask for them: in one of two senses, and from a geodesy that may
or may not have an answer. -/
namespace Airspaces

/-- The two senses in which a curve turns. -/
inductive Sense where
  | clockwise
  | counterClockwise
  deriving Repr, DecidableEq

/-- The number that stands for a sense in a record. -/
def Sense.rotation : Sense → Int
  | clockwise => 1
  | counterClockwise => -1

/-- Every sector and every arc has its points. -/
structure Geodesy.Tessellates {α : Type} [Scalar α] (g : Geodesy α) : Prop where
  sector (center : Position α) (radius first last : α) (sense : Sense) :
    ∃ points, Arc.sector g center radius first last sense.rotation = .ok points
  between (center start stop : Position α) (sense : Sense) :
    ∃ points, Arc.between g center start stop sense.rotation = .ok points

/-- A sector or an arc has no points, for the given reason. -/
inductive Geodesy.Fails {α : Type} [Scalar α] (g : Geodesy α) (f : Fault α) : Prop where
  | sector (center : Position α) (radius first last : α) (sense : Sense)
      (broken : Arc.sector g center radius first last sense.rotation = .error f)
  | between (center start stop : Position α) (sense : Sense)
      (broken : Arc.between g center start stop sense.rotation = .error f)

theorem Geodesy.Tessellates.not_fails {α : Type} [Scalar α] {g : Geodesy α}
    (tessellates : g.Tessellates) (f : Fault α) : ¬ g.Fails f := by
  intro fails
  cases fails with
  | sector center radius first last sense broken =>
    obtain ⟨points, drawn⟩ := tessellates.sector center radius first last sense
    cases drawn.symm.trans broken
  | between center start stop sense broken =>
    obtain ⟨points, drawn⟩ := tessellates.between center start stop sense
    cases drawn.symm.trans broken

namespace Arc

variable {α : Type} [Scalar α] {g : Geodesy α} {center start stop : Position α} {rotation : Int}
  {points : List (Position α)}

open Position (exists_of_bind_ok)

/-- An arc has both of its ends. -/
theorem between_ends (drawn : between g center start stop rotation = .ok points) :
    ∃ inner, points = start :: inner ++ [stop] := by
  obtain ⟨step, _, drawn⟩ := exists_of_bind_ok drawn
  obtain ⟨first, _, drawn⟩ := exists_of_bind_ok drawn
  obtain ⟨last, _, drawn⟩ := exists_of_bind_ok drawn
  obtain ⟨inner, _, drawn⟩ := exists_of_bind_ok drawn
  cases drawn
  exact ⟨inner, rfl⟩

/-- A sector has its last end at least. -/
theorem sector_last {radius first last : α}
    (drawn : sector g center radius first last rotation = .ok points) :
    ∃ before end_point, points = before ++ [end_point] := by
  obtain ⟨step, _, drawn⟩ := exists_of_bind_ok drawn
  obtain ⟨before, _, drawn⟩ := exists_of_bind_ok drawn
  obtain ⟨end_point, _, drawn⟩ := exists_of_bind_ok drawn
  cases drawn
  exact ⟨before, end_point, rfl⟩

end Arc

/-- The record turns in one of the two senses. -/
def Record.Turns {α : Type} [Scalar α] (r : Record α) : Prop :=
  ∃ sense : Sense, r.rotation = sense.rotation

end Airspaces
