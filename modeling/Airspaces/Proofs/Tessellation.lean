import Airspaces.Proofs.Curves
import Mathlib.Data.Rat.Floor
import Mathlib.Tactic.Choose
import Mathlib.Tactic.LinearCombination
/-! In exact numbers every curve has its points. What is left to turn falls by five degrees
a step until the end is near, which is so within a full turn. -/
namespace Airspaces

theorem Scalar.abs_rat (q : Rat) : Scalar.abs q = |q| := by
  have zero : (Scalar.ofDecimal 0 0 : Rat) = 0 := by decide +kernel
  unfold Scalar.abs
  rw [zero]
  split_ifs with negative
  · exact (abs_of_neg negative).symm
  · exact (abs_of_nonneg (not_lt.mp negative)).symm

theorem Sense.abs_rotation_mul (sense : Sense) (q : Rat) : |sense.rotation * q| = |q| := by
  cases sense <;> simp [rotation]

namespace Bearing

theorem reduce_rat (q : Rat) : reduce q = q - 360 * (⌊q / 360⌋ : Int) := rfl

theorem reduce_eq_fract (q : Rat) : reduce q = 360 * Int.fract (q / 360) := by
  rw [reduce_rat, Int.fract]
  ring

theorem reduce_nonneg (q : Rat) : 0 ≤ reduce q := by
  have := Int.fract_nonneg (q / 360)
  rw [reduce_eq_fract]
  linarith

theorem reduce_lt (q : Rat) : reduce q < 360 := by
  have := Int.fract_lt_one (q / 360)
  rw [reduce_eq_fract]
  linarith

/-- Directions that are whole turns apart are the same. -/
theorem reduce_congr {p q : Rat} (turns : Int) (apart : p = q + 360 * turns) :
    reduce p = reduce q := by
  have whole : p / 360 = q / 360 + turns := by
    rw [apart]
    ring
  rw [reduce_eq_fract, reduce_eq_fract, whole, Int.fract_add_intCast]

theorem reduce_of_mem {q : Rat} (nonneg : 0 ≤ q) (bound : q < 360) : reduce q = q := by
  have part : Int.fract (q / 360) = q / 360 :=
    Int.fract_eq_self.mpr ⟨by linarith, by linarith⟩
  rw [reduce_eq_fract, part]
  ring

/-- The shorter way around to a direction and the longer one make a turn. -/
theorem min_reduce {q : Rat} (low : -360 < q) (high : q < 360) :
    min (reduce q) (360 - reduce q) = if 180 < |q| then 360 - |q| else |q| := by
  by_cases nonneg : 0 ≤ q
  · rw [reduce_of_mem nonneg high, abs_of_nonneg nonneg]
    split_ifs
    · exact min_eq_right (by linarith)
    · exact min_eq_left (by linarith)
  · have once : reduce q = q + 360 :=
      (reduce_congr (-1) (by norm_num)).trans (reduce_of_mem (by linarith) (by linarith))
    rw [once, abs_of_neg (by linarith)]
    split_ifs
    · exact (min_eq_left (by linarith)).trans (by ring)
    · exact (min_eq_right (by linarith)).trans (by ring)

theorem difference_rat (a b : Rat) :
    difference a b =
      if 180 < |reduce a - reduce b| then 360 - |reduce a - reduce b|
      else |reduce a - reduce b| := by
  have half : (Scalar.ofDecimal 1800 (-1) : Rat) = 180 := by decide +kernel
  have full : (Scalar.ofDecimal 3600 (-1) : Rat) = 360 := by decide +kernel
  have unfolded : difference a b =
      if (Scalar.ofDecimal 1800 (-1) : Rat) < Scalar.abs (reduce a - reduce b) then
        Scalar.ofDecimal 3600 (-1) - Scalar.abs (reduce a - reduce b)
      else Scalar.abs (reduce a - reduce b) := rfl
  rw [unfolded, half, full, Scalar.abs_rat]

/-- What is left to turn in a sense, from a bearing to the end. -/
def ahead (sense : Sense) (stop bearing : Rat) : Rat :=
  reduce (sense.rotation * (stop - bearing))

/-- The angle between two directions is the same in either sense. -/
theorem difference_eq_min (sense : Sense) (stop bearing : Rat) :
    difference stop bearing = min (ahead sense stop bearing) (360 - ahead sense stop bearing) := by
  have inside : ahead sense stop bearing =
      reduce (sense.rotation * (reduce stop - reduce bearing)) := by
    apply reduce_congr (sense.rotation * (⌊stop / 360⌋ - ⌊bearing / 360⌋))
    rw [reduce_rat stop, reduce_rat bearing]
    push_cast
    ring
  have size : |sense.rotation * (reduce stop - reduce bearing)| < 360 := by
    rw [sense.abs_rotation_mul, abs_lt]
    constructor
    · linarith [reduce_nonneg stop, reduce_lt bearing]
    · linarith [reduce_lt stop, reduce_nonneg bearing]
  obtain ⟨low, high⟩ := abs_lt.mp size
  rw [inside, min_reduce low high, sense.abs_rotation_mul, difference_rat]

/-- Turning on takes as much off what is left, but for whole turns. -/
theorem ahead_moved (sense : Sense) (stop bearing degrees : Rat) :
    ahead sense stop (reduce (bearing + sense.rotation * degrees)) =
      reduce (ahead sense stop bearing - degrees) := by
  have square : (sense.rotation : Rat) * sense.rotation = 1 := by
    cases sense <;> simp [Sense.rotation]
  -- The two reductions leave out whole turns, and so does the one on the right.
  apply reduce_congr (sense.rotation * ⌊(bearing + sense.rotation * degrees) / 360⌋ +
    ⌊sense.rotation * (stop - bearing) / 360⌋)
  rw [ahead, reduce_rat, reduce_rat]
  push_cast
  linear_combination (-degrees) * square

/-- A step takes five degrees off what is left, unless it goes past the end. -/
theorem ahead_step (sense : Sense) (stop bearing : Rat) (far : 5 ≤ ahead sense stop bearing) :
    ahead sense stop (reduce (bearing + sense.rotation * 5)) = ahead sense stop bearing - 5 := by
  have bound : ahead sense stop bearing < 360 := reduce_lt _
  rw [ahead_moved]
  exact reduce_of_mem (by linarith) (by linarith)

end Bearing

namespace Arc

open Bearing

/-- A bearing is near the end if little is left, or if it has just gone past it. -/
theorem near_iff (sense : Sense) (stop bearing : Rat) :
    near stop bearing = true ↔
      ahead sense stop bearing ≤ 15 / 2 ∨ 360 - ahead sense stop bearing ≤ 15 / 2 := by
  have reach : (Scalar.ofDecimal 75 (-1) : Rat) = 15 / 2 := by decide +kernel
  have unfolded : near stop bearing =
      decide (¬ (Scalar.ofDecimal 75 (-1) : Rat) < difference stop bearing) := rfl
  rw [unfolded, reach, decide_eq_true_iff, difference_eq_min sense, not_lt, min_le_iff]

theorem step_rat (sense : Sense) : step sense.rotation = .ok (sense.rotation * 5 : Rat) := by
  have unit : (Scalar.ofDecimal 50 (-1) : Rat) = 5 := by decide +kernel
  have unfolded : step sense.rotation =
      .ok (sense.rotation * Scalar.ofDecimal 50 (-1) : Rat) := by cases sense <;> rfl
  rw [unfolded, unit]

/-- Stepping comes near the end within the steps that what is left takes. -/
theorem walk_ends (sense : Sense) (stop : Rat) (fuel : Nat) (bearing : Rat)
    (enough : ahead sense stop bearing ≤ 5 * fuel + 15 / 2) :
    (walk (sense.rotation * 5 : Rat) stop fuel bearing).2 = true := by
  induction fuel generalizing bearing with
  | zero =>
    rw [walk, near_iff sense]
    left
    simpa using enough
  | succ fuel ih =>
    rw [walk]
    split_ifs with arrived
    · rfl
    · -- Far from the end there are more than five degrees left, so no step goes past it.
      have far : ¬ ahead sense stop bearing ≤ 15 / 2 := fun close =>
        arrived ((near_iff sense stop bearing).mpr (.inl close))
      apply ih
      rw [ahead_step sense stop bearing (by linarith)]
      push_cast at enough
      linarith

theorem walk_orbit_ends (sense : Sense) (stop bearing : Rat) :
    (walk (sense.rotation * 5 : Rat) stop orbit bearing).2 = true := by
  have bound : ahead sense stop bearing < 360 := reduce_lt _
  apply walk_ends
  norm_num [orbit]
  linarith

end Arc

/-- A geodesy with an answer for every point. -/
structure Geodesy.Total {α : Type} [Scalar α] (g : Geodesy α) : Prop where
  project (center : Position α) (bearing distance : α) :
    ∃ point, g.project center bearing distance = .ok point
  measure (start stop : Position α) : ∃ course, g.measure start stop = .ok course

namespace Arc

variable {α : Type} [Scalar α] {g : Geodesy α}

/-- Points are projected one by one. -/
theorem pointsOf_eq {center : Position α} {radius : α} {P : α → Position α}
    (projects : ∀ b, g.project center b radius = .ok (P b)) (bearings : List α) :
    pointsOf g center radius bearings true = .ok (bearings.map P) := by
  have traced : (bearings.mapM fun b => g.project center b radius) = .ok (bearings.map P) := by
    simp only [projects]
    exact List.mapM_pure
  rw [pointsOf, traced]
  rfl

theorem pointsOf_ok (total : g.Total) (center : Position α) (radius : α) (bearings : List α) :
    ∃ points, pointsOf g center radius bearings true = .ok points := by
  choose point projects using total.project
  exact ⟨_, pointsOf_eq (fun b => projects center b radius) bearings⟩

theorem sector_ok {g : Geodesy Rat} (total : g.Total) (center : Position Rat)
    (radius first last : Rat) (sense : Sense) :
    ∃ points, sector g center radius first last sense.rotation = .ok points := by
  have ended := walk_orbit_ends sense (Bearing.reduce last) (Bearing.reduce first)
  obtain ⟨points, traced⟩ := pointsOf_ok total center radius
    (if near (Bearing.reduce last) (Bearing.reduce first) then
      (walk (sense.rotation * 5 : Rat) (Bearing.reduce last) orbit (Bearing.reduce first)).1
    else Bearing.reduce first ::
      (walk (sense.rotation * 5 : Rat) (Bearing.reduce last) orbit (Bearing.reduce first)).1)
  obtain ⟨end_point, projected⟩ := total.project center (Bearing.reduce last) radius
  refine ⟨points ++ [end_point], ?_⟩
  simp only [sector, step_rat, bind, Except.bind, ended, traced, projected]

theorem between_ok {g : Geodesy Rat} (total : g.Total) (center start stop : Position Rat)
    (sense : Sense) : ∃ points, between g center start stop sense.rotation = .ok points := by
  obtain ⟨first, measured_first⟩ := total.measure center start
  obtain ⟨last, measured_last⟩ := total.measure center stop
  have ended := walk_orbit_ends sense last.bearing first.bearing
  obtain ⟨points, traced⟩ := pointsOf_ok total center first.distance
    (walk (sense.rotation * 5 : Rat) last.bearing orbit first.bearing).1
  refine ⟨start :: points ++ [stop], ?_⟩
  simp only [between, step_rat, measured_first, measured_last, bind, Except.bind, ended, traced]

end Arc

/-- In exact numbers a geodesy with an answer for every point has points for every curve. -/
theorem Geodesy.Total.tessellates {g : Geodesy Rat} (total : g.Total) : g.Tessellates where
  sector := Arc.sector_ok total
  between := Arc.between_ok total

/-- The earth as a single point, where every way ends as it starts. -/
def Geodesy.still : Geodesy Rat where
  project center _ _ := .ok center
  measure _ _ := .ok ⟨0, 0⟩

theorem Geodesy.still_total : still.Total := ⟨fun center _ _ => ⟨center, rfl⟩, fun _ _ => ⟨_, rfl⟩⟩

end Airspaces
