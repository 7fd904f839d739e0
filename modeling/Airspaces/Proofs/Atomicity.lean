import Airspaces.Proofs.OpenAir.Rejection
import Airspaces.Proofs.Tessellation
import Airspaces.Proofs.Tnp.Rejection
/-! A line is done or it is not. One that fails hands out no airspace, and the record that it
met is there for the next line to fill. -/
namespace Airspaces

/-- A geodesy that has no answer to anything. -/
def Geodesy.lost : Geodesy Rat where
  project _ _ _ := .error .domain
  measure _ _ := .error .domain

variable {α : Type} [Scalar α]

/-- Whatever stops an OpenAir line, all is as it was. A TNP line that is in error leaves the sense
of its keyword if it is an arc, and nothing else. -/
theorem failing_line_atomic (g : Geodesy α) (line : Text) :
    (∀ r : Record α, (OpenAir.step g line r).stop ≠ none →
      (OpenAir.step g line r).finished = [] ∧ (OpenAir.step g line r).state = r) ∧
    ∀ (s : Tnp.State α) (e : LineError), (Tnp.step g line s).stop = some (.line e) →
      (Tnp.step g line s).finished = [] ∧
        (Tnp.step g line s).state =
          { s with
            record := { s.record with rotation := Tnp.rotationAfter line s.record.rotation } } := by
  constructor
  · intro r stopped
    exact OpenAir.step_stops stopped
  · intro s e stopped
    exact Tnp.step_rejects (Step.rejects_iff.mpr ⟨e, stopped⟩)

/-- A sector whose points cannot be computed, and an arc that ends at no position. -/
theorem failing_line_atomic_sector_and_arc :
    let sector := "DA 2.5,270,90".toList
    let arc := "ANTI-CLOCKWISE RADIUS=1 CENTRE=N542500 E0105000 TO=N".toList
    let r : Record Rat := { name := "CTR".toList, points := #[.origin], waiting := false }
    ((OpenAir.step .lost sector r).stop ≠ none ∧
      (OpenAir.step .lost sector r).finished = [] ∧ (OpenAir.step .lost sector r).state = r) ∧
    ∃ e, (Tnp.step .still arc ⟨r, false⟩).stop = some (.line e) ∧
      (Tnp.step .still arc ⟨r, false⟩).finished = [] ∧
      (Tnp.step .still arc ⟨r, false⟩).state = ⟨{ r with rotation := -1 }, false⟩ := by
  intro sector arc r
  have undrawn : (OpenAir.step .lost sector r).stop ≠ none := by
    have some : (OpenAir.step .lost sector r).stop.isSome = true := by decide +kernel
    exact Option.isSome_iff_ne_none.mp some
  have bad : (Tnp.step .still arc ⟨r, false⟩).rejects = true := by decide +kernel
  obtain ⟨e, stopped⟩ := Step.rejects_iff.mp bad
  have turned : Tnp.rotationAfter arc 1 = -1 := by decide +kernel
  obtain ⟨nothing, left⟩ := (failing_line_atomic Geodesy.still arc).2 ⟨r, false⟩ e stopped
  refine ⟨⟨undrawn, (failing_line_atomic Geodesy.lost sector).1 r undrawn⟩, e, stopped, nothing, ?_⟩
  rw [left]
  change (⟨{ r with rotation := Tnp.rotationAfter arc 1 }, false⟩ : Tnp.State Rat) = _
  rw [turned]

end Airspaces
