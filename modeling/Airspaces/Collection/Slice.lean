/-! Parts of a list by position. Positions below zero count from the end, and bounds
beyond the list stand for its ends. -/
namespace Airspaces.Slice

/-- A bound as a position between `low` and `high`. -/
def clamp (length low high bound : Int) : Int :=
  if bound < 0 then max (bound + length) low else min bound high

/-- How many steps of the given size lead from `start` and stay before `stop`. -/
def stepCount (start stop step : Int) : Nat :=
  if 0 < step then ((stop - start + step - 1) / step).toNat
  else ((start - stop - step - 1) / -step).toNat

/-- The positions that a slice takes; a missing bound stands for the end that the step
comes from or goes to. The step is not zero. -/
def positions (length : Nat) (start stop : Option Int) (step : Int) : List Nat :=
  let size : Int := length
  let (low, high) := if 0 < step then (0, size) else (-1, size - 1)
  let (first, last) := if 0 < step then (low, high) else (high, low)
  let start := (start.map (clamp size low high)).getD first
  let stop := (stop.map (clamp size low high)).getD last
  (List.range (stepCount start stop step)).map fun (k : Nat) => (start + step * (k : Int)).toNat

/-- The elements at the positions of a slice. -/
def take {β : Type} (items : List β) (start stop : Option Int) (step : Int) : List β :=
  let places := items.toArray
  (positions items.length start stop step).filterMap fun i => places[i]?

/-- The element at a position, if there is one. -/
def at? {β : Type} (items : List β) (i : Int) : Option β :=
  if i < 0 then
    if i + items.length < 0 then none else items[(i + items.length).toNat]?
  else items[i.toNat]?

end Airspaces.Slice
