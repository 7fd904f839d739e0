import Airspaces.Proofs.OpenAir.Faults
import Airspaces.Proofs.Tessellation
import Airspaces.Proofs.Tnp.Faults
/-! The points of a curve, told from the bearings of its ends. In exact numbers stepping passes
every fifth degree from the start on, leaves the last few degrees to the end itself and never
goes past it; a curve that starts next to its end has no points in between. -/
namespace Airspaces

open Bearing

namespace Arc

/-- The bearing after some steps of five degrees. -/
def passed (sense : Sense) (start : Rat) (steps : Nat) : Rat :=
  reduce (start + sense.rotation * (5 * steps))

theorem passed_zero (sense : Sense) (start : Rat) : passed sense start 0 = reduce start := by
  simp [passed]

/-- Whole turns do not show in the bearings that are passed. -/
theorem passed_reduce (sense : Sense) (start : Rat) :
    passed sense (reduce start) = passed sense start := by
  funext steps
  apply reduce_congr (-⌊start / 360⌋)
  rw [reduce_rat]
  push_cast
  ring

/-- Nor do they show in what is left. -/
theorem ahead_reduce (sense : Sense) (stop start : Rat) :
    ahead sense (reduce stop) (reduce start) = ahead sense stop start := by
  apply reduce_congr (sense.rotation * (⌊start / 360⌋ - ⌊stop / 360⌋))
  rw [reduce_rat, reduce_rat]
  push_cast
  ring

theorem passed_step (sense : Sense) (start : Rat) (steps : Nat) :
    passed sense (reduce (start + sense.rotation * 5)) steps = passed sense start (steps + 1) := by
  rw [passed_reduce, passed, passed]
  push_cast
  ring_nf

/-- What is left falls by five degrees a step, as long as the end is not passed. -/
theorem ahead_passed (sense : Sense) (stop start : Rat) (steps : Nat)
    (room : 5 * steps ≤ ahead sense stop start) :
    ahead sense stop (passed sense start steps) = ahead sense stop start - 5 * steps := by
  have bound : ahead sense stop start < 360 := reduce_lt _
  have nonneg : (0 : Rat) ≤ steps := steps.cast_nonneg
  rw [passed, ahead_moved]
  exact reduce_of_mem (by linarith) (by linarith)

/-- Each bearing is one step ahead of the one before. -/
theorem ahead_next (sense : Sense) (start : Rat) (steps : Nat) :
    ahead sense (passed sense start (steps + 1)) (passed sense start steps) = 5 := by
  have square : (sense.rotation : Rat) * sense.rotation = 1 := by
    cases sense <;> simp [Sense.rotation]
  have apart : ahead sense (passed sense start (steps + 1)) (passed sense start steps) =
      reduce 5 := by
    apply reduce_congr (sense.rotation *
      (⌊(start + sense.rotation * (5 * steps)) / 360⌋ -
        ⌊(start + sense.rotation * (5 * (steps + 1))) / 360⌋))
    rw [passed, passed, reduce_rat, reduce_rat]
    push_cast
    linear_combination (5 : Rat) * square
  rw [apart]
  exact reduce_of_mem (by norm_num) (by norm_num)

/-- A bearing is next to the end if little is left, or nearly a whole turn. -/
theorem near_iff_ahead (sense : Sense) (stop bearing : Rat) :
    near stop bearing = true ↔
      ahead sense stop bearing ≤ 15 / 2 ∨ 705 / 2 ≤ ahead sense stop bearing := by
  rw [near_iff sense]
  constructor
  · exact Or.imp_right fun behind => by linarith
  · exact Or.imp_right fun much => by linarith

theorem not_near {sense : Sense} {stop bearing : Rat} (far : 15 / 2 < ahead sense stop bearing)
    (below : ahead sense stop bearing < 705 / 2) : ¬ near stop bearing = true := by
  rw [near_iff_ahead sense]
  rintro (few | many)
  · linarith
  · linarith

/-- Next to the end no bearing is passed. -/
theorem walk_near (sense : Sense) (stop : Rat) (fuel : Nat) {bearing : Rat}
    (arrived : ahead sense stop bearing ≤ 15 / 2 ∨ 705 / 2 ≤ ahead sense stop bearing) :
    walk (sense.rotation * 5 : Rat) stop fuel bearing = ([], true) := by
  have close : near stop bearing = true := (near_iff_ahead sense stop bearing).mpr arrived
  cases fuel <;> simp [walk, close]

/-- Stepping passes every fifth degree until little is left. -/
theorem walk_eq (sense : Sense) (stop : Rat) {steps fuel : Nat} {bearing : Rat}
    (enough : steps ≤ fuel) (below : ahead sense stop bearing < 705 / 2)
    (gap : 5 / 2 < ahead sense stop bearing - 5 * steps)
    (close : ahead sense stop bearing - 5 * steps ≤ 15 / 2) :
    walk (sense.rotation * 5 : Rat) stop fuel bearing =
      ((List.range steps).map fun i => passed sense bearing (i + 1), true) := by
  induction steps generalizing bearing fuel with
  | zero => exact walk_near sense stop fuel (.inl (by simpa using close))
  | succ steps ih =>
    obtain ⟨fuel, rfl⟩ := Nat.exists_eq_add_of_lt enough
    have nonneg : (0 : Rat) ≤ steps := steps.cast_nonneg
    push_cast at gap close
    have far : ¬ near stop bearing = true := not_near (by linarith) below
    have stepped := ahead_step sense stop bearing (by linarith)
    have later : walk (sense.rotation * 5 : Rat) stop (steps + fuel)
        (reduce (bearing + sense.rotation * 5)) = _ :=
      ih (by omega) (by linarith) (by linarith) (by linarith)
    have first : reduce (bearing + sense.rotation * 5) = passed sense bearing (0 + 1) := by
      rw [← passed_step, passed_reduce, passed_zero]
    rw [walk, if_neg far]
    dsimp only
    rw [later, List.range_succ_eq_map, List.map_cons, List.map_map, ← first]
    simp only [passed_step, Function.comp_def]

/-- The number of steps from where something is left until the end is near. -/
def stepsTo (left : Rat) : Nat := ⌈(left - 15 / 2) / 5⌉₊

theorem stepsTo_spec {left : Rat} (far : 15 / 2 < left) :
    5 / 2 < left - 5 * stepsTo left ∧ left - 5 * stepsTo left ≤ 15 / 2 := by
  have above := Nat.le_ceil ((left - 15 / 2) / 5)
  have below := Nat.ceil_lt_add_one (a := (left - 15 / 2) / 5) (by linarith)
  rw [← stepsTo] at above below
  constructor
  · linarith
  · linarith

theorem stepsTo_le {left : Rat} (below : left < 705 / 2) : stepsTo left ≤ 69 := by
  apply Nat.ceil_le.mpr
  push_cast
  linarith

variable {g : Geodesy Rat} {center : Position Rat} {radius : Rat} {P : Rat → Position Rat}

/-- A sector is what stepping passes, with its start unless that is next to the end, and the end. -/
theorem sector_of_walk (projects : ∀ b, g.project center b radius = .ok (P b)) (sense : Sense)
    {start stop : Rat} {later : List Rat}
    (walked : walk (sense.rotation * 5 : Rat) (reduce stop) orbit (reduce start) = (later, true)) :
    sector g center radius start stop sense.rotation =
      .ok ((if near (reduce stop) (reduce start) then later else reduce start :: later).map P ++
        [P (reduce stop)]) := by
  simp only [sector, step_rat, bind, Except.bind, walked, pointsOf_eq projects, projects]

/-- An arc is what stepping passes between its two ends. -/
theorem between_of_walk (projects : ∀ b, g.project center b radius = .ok (P b)) (sense : Sense)
    {start stop width : Rat} {first last : Position Rat} {later : List Rat}
    (leaves : g.measure center first = .ok ⟨radius, start⟩)
    (arrives : g.measure center last = .ok ⟨width, stop⟩)
    (walked : walk (sense.rotation * 5 : Rat) stop orbit start = (later, true)) :
    between g center first last sense.rotation = .ok (first :: later.map P ++ [last]) := by
  simp only [between, step_rat, leaves, arrives, bind, Except.bind, walked, pointsOf_eq projects]

theorem walk_far (sense : Sense) (stop start : Rat) (far : 15 / 2 < ahead sense stop start)
    (below : ahead sense stop start < 705 / 2) :
    walk (sense.rotation * 5 : Rat) stop orbit start =
      ((List.range (stepsTo (ahead sense stop start))).map fun i => passed sense start (i + 1),
        true) := by
  obtain ⟨gap, close⟩ := stepsTo_spec far
  have few := stepsTo_le below
  exact walk_eq sense stop (few.trans (by decide)) below gap close

theorem sector_far (projects : ∀ b, g.project center b radius = .ok (P b)) (sense : Sense)
    {start stop : Rat} (far : 15 / 2 < ahead sense stop start)
    (below : ahead sense stop start < 705 / 2) :
    sector g center radius start stop sense.rotation =
      .ok ((List.range (stepsTo (ahead sense stop start) + 1)).map
        (fun i => P (passed sense start i)) ++ [P (reduce stop)]) := by
  have walked := walk_far sense (reduce stop) (reduce start) (by rwa [ahead_reduce])
    (by rwa [ahead_reduce])
  have apart : ¬ near (reduce stop) (reduce start) = true :=
    @not_near sense _ _ (by rwa [ahead_reduce]) (by rwa [ahead_reduce])
  rw [sector_of_walk projects sense walked, if_neg apart, ahead_reduce, passed_reduce,
    List.range_succ_eq_map, ← passed_zero sense]
  simp only [List.map_cons, List.map_map, Function.comp_def]

/-- A sector that starts next to its end is its end alone. -/
theorem sector_near (projects : ∀ b, g.project center b radius = .ok (P b)) (sense : Sense)
    {start stop : Rat}
    (arrived : ahead sense stop start ≤ 15 / 2 ∨ 705 / 2 ≤ ahead sense stop start) :
    sector g center radius start stop sense.rotation = .ok [P (reduce stop)] := by
  rw [← ahead_reduce] at arrived
  have close : near (reduce stop) (reduce start) = true := (near_iff_ahead sense _ _).mpr arrived
  rw [sector_of_walk projects sense (walk_near sense _ _ arrived), if_pos close]
  rfl

/-- In exact numbers a curve has every fifth degree from its start on, and then its end. The last
gap is between two and a half and seven and a half degrees wide, so that no bearing is past the
end; a curve that starts next to its end has nothing in between. Whatever lines a record has met,
it turns in one of the two senses. -/
theorem points_by_steps {g : Geodesy Rat} {center : Position Rat} {radius : Rat}
    {P : Rat → Position Rat} (projects : ∀ b, g.project center b radius = .ok (P b))
    (sense : Sense) (start stop : Rat) :
    let left := reduce (sense.rotation * (stop - start))
    let k := ⌈(left - 15 / 2) / 5⌉₊
    let passed := fun i : Nat => reduce (start + sense.rotation * (5 * i))
    let Ends := fun first last : Position Rat => g.measure center first = .ok ⟨radius, start⟩ ∧
      ∃ width, g.measure center last = .ok ⟨width, stop⟩
    (15 / 2 < left → left < 705 / 2 →
      sector g center radius start stop sense.rotation =
        .ok ((List.range (k + 1)).map (fun i => P (passed i)) ++ [P (reduce stop)]) ∧
      (∀ first last, Ends first last → between g center first last sense.rotation =
        .ok (first :: (List.range k).map (fun i => P (passed (i + 1))) ++ [last])) ∧
      (∀ i, reduce (sense.rotation * (passed (i + 1) - passed i)) = 5) ∧
      (∀ i ≤ k, reduce (sense.rotation * (stop - passed i)) = left - 5 * i) ∧
      5 / 2 < left - 5 * k ∧ left - 5 * k ≤ 15 / 2 ∧ k ≤ 69) ∧
    (left ≤ 15 / 2 ∨ 705 / 2 ≤ left →
      sector g center radius start stop sense.rotation = .ok [P (reduce stop)] ∧
      ∀ first last, Ends first last →
        between g center first last sense.rotation = .ok [first, last]) ∧
    (∀ (α : Type) [Scalar α] (h : Geodesy α) (lines : List Text) (out : List (Airspace α)),
      (∀ r, feed (OpenAir.step h) .fresh lines = .ok (r, out) → r.Turns) ∧
      ∀ s, feed (Tnp.step h) {} lines = .ok (s, out) → s.record.Turns) := by
  intro left k passed Ends
  refine ⟨?_, ?_, ?_⟩
  · intro far below
    have gap : 5 / 2 < left - 5 * k ∧ left - 5 * k ≤ 15 / 2 := stepsTo_spec far
    refine ⟨sector_far projects sense far below, ?_, ahead_next sense start, ?_, gap.1, gap.2,
      stepsTo_le below⟩
    · rintro first last ⟨leaves, width, arrives⟩
      rw [between_of_walk projects sense leaves arrives (walk_far sense stop start far below),
        List.map_map]
      rfl
    · intro i few
      have fewer : (i : Rat) ≤ k := by exact_mod_cast few
      have room : 5 * i ≤ left := by linarith
      exact ahead_passed sense stop start i room
  · intro arrived
    refine ⟨sector_near projects sense arrived, ?_⟩
    rintro first last ⟨leaves, width, arrives⟩
    exact between_of_walk projects sense leaves arrives (walk_near sense stop orbit arrived)
  · intro α _ h lines out
    constructor
    · intro r fed
      exact feed_keeps (fun line _ => OpenAir.step_turns h line) ⟨.clockwise, rfl⟩ fed
    · intro s fed
      exact feed_keeps (P := fun s => s.record.Turns) (fun line _ => Tnp.step_turns h line)
        ⟨.clockwise, rfl⟩ fed

end Arc

/-- An earth on which the longitude of a point is its bearing from everywhere. -/
def Geodesy.dial : Geodesy Rat where
  project _ bearing _ := .ok ⟨0, bearing, by decide +kernel⟩
  measure _ stop := .ok ⟨1, stop.longitude⟩

/-- The point at a bearing on the dial. -/
def Position.onDial (bearing : Rat) : Position Rat := ⟨0, bearing, by decide +kernel⟩

theorem Arc.points_by_steps_across_north :
    (∀ b, Geodesy.dial.project .origin b 1 = .ok (Position.onDial b)) ∧
      sector .dial .origin 1 350 20 1 =
        .ok ([350, 355, 0, 5, 10, 15, 20].map Position.onDial) ∧
      between .dial .origin (.onDial 350) (.onDial 20) 1 =
        .ok ([350, 355, 0, 5, 10, 15, 20].map Position.onDial) := by
  have projects : ∀ b, Geodesy.dial.project .origin b 1 = .ok (Position.onDial b) := fun _ => rfl
  have left : reduce (Sense.clockwise.rotation * (20 - 350) : Rat) = 30 := by decide +kernel
  have steps : ⌈(reduce (Sense.clockwise.rotation * (20 - 350) : Rat) - 15 / 2) / 5⌉₊ = 5 := by
    rw [left]
    decide +kernel
  have passed : (List.range 6).map (fun i : Nat =>
      reduce (350 + Sense.clockwise.rotation * (5 * i) : Rat)) = [350, 355, 0, 5, 10, 15] := by
    decide +kernel
  have north : reduce (20 : Rat) = 20 := by decide +kernel
  obtain ⟨sector, between, -⟩ := (points_by_steps projects .clockwise 350 20).1
    (by rw [left]; norm_num) (by rw [left]; norm_num)
  have joined := between (.onDial 350) (.onDial 20) ⟨rfl, 1, rfl⟩
  rw [steps] at sector joined
  rw [north] at sector
  refine ⟨projects, sector.trans ?_, joined.trans ?_⟩
  · exact congrArg
      (fun bs => Except.ok (bs.map Position.onDial ++ [Position.onDial 20])) passed
  · exact congrArg (fun bs =>
      Except.ok (Position.onDial 350 :: bs.tail.map Position.onDial ++ [Position.onDial 20])) passed

end Airspaces
