import Airspaces.Position.Sexagesimal
import Airspaces.Proofs.Tessellation
/-! Positions in exact numbers. Only a latitude beyond a pole is refused, and a longitude is
normalized by whole turns. -/
namespace Airspaces.Position

theorem sixty_rat : (Scalar.ofDecimal 600 (-1) : Rat) = 60 := by decide +kernel

theorem hour_rat : (Scalar.ofDecimal 36000 (-1) : Rat) = 3600 := by decide +kernel

theorem inLatitudes_rat (latitude : Rat) : InLatitudes latitude ↔ |latitude| ≤ 90 := by
  have pole : (Scalar.ofDecimal 90 0 : Rat) = 90 := by decide +kernel
  unfold InLatitudes
  rw [pole, abs_le]

/-- In exact numbers a longitude is normalized by whole turns. -/
theorem normalize_longitude (p : Position Rat) :
    (-180 ≤ p.normalize.longitude ∧ p.normalize.longitude < 180) ∧
      ∃ turns : Int, p.normalize.longitude = p.longitude + 360 * turns := by
  have half : (Scalar.ofDecimal 1800 (-1) : Rat) = 180 := by decide +kernel
  have unfolded : p.normalize.longitude =
      Bearing.reduce (p.longitude + Scalar.ofDecimal 1800 (-1)) - Scalar.ofDecimal 1800 (-1) := rfl
  rw [unfolded, half]
  refine ⟨⟨?_, ?_⟩, -⌊(p.longitude + 180) / 360⌋, ?_⟩
  · linarith [Bearing.reduce_nonneg (p.longitude + 180)]
  · linarith [Bearing.reduce_lt (p.longitude + 180)]
  · rw [Bearing.reduce_rat]
    push_cast
    ring

theorem isSouth_iff {c : Char} : isSouth c = true ↔ c ∈ ['S', 's'] := by simp [isSouth]

theorem isWest_iff {c : Char} : isWest c = true ↔ c ∈ ['W', 'w'] := by simp [isWest]

theorem exists_of_inside {north : Rat} (inside : |north| ≤ 90) (east : Rat) :
    ∃ p : Position Rat, (of? north east).map normalize = some p ∧ p.latitude = north ∧
      (-180 ≤ p.longitude ∧ p.longitude < 180) ∧
      ∃ turns : Int, p.longitude = east + 360 * turns := by
  have between_poles : InLatitudes north := (inLatitudes_rat north).mpr inside
  obtain ⟨range, turned⟩ := normalize_longitude ⟨north, east, between_poles⟩
  refine ⟨_, ?_, rfl, range, turned⟩
  rw [of?, dif_pos between_poles]
  rfl

theorem of?_of_outside {north : Rat} (outside : 90 < |north|) (east : Rat) :
    of? north east = none := by
  refine dif_neg fun between_poles => ?_
  exact absurd ((inLatitudes_rat north).mp between_poles) (not_le.mpr outside)

end Airspaces.Position
