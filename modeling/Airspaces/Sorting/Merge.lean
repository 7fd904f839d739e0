import Airspaces.Sorting.Run
/-! Two neighbouring runs merged into one. The elements are put in place from the side of
the shorter run, one by one at first. Once a run gives several in a row, the next stretch
of it is found by leaps of growing width; how many it takes to change to leaps is a limit
that falls while leaps are worth it and rises when they are not. The limit is handed on
from one merge to the next. -/
namespace Airspaces.Sorting

variable {β : Type}

/-- Leaps of doubled width from `last`, which holds: the last place that was found to hold,
and the next one that was not. -/
def bracket (holds : Nat → Bool) (count last next : Nat) : Nat × Nat :=
  if next < count then
    if holds next then bracket holds count next (2 * next + 1) else (last, next)
  else (last, count)
termination_by count - next

/-- How many elements at the start of a list hold. A list that lies backwards is halved
with the middle on the other side. -/
def leading (isBackward : Bool) (p : β → Bool) (elements : List β) : Nat :=
  let places := elements.toArray
  let count := places.size
  let holds := fun i => places[i]?.any p
  if holds 0 then
    let (last, next) := bracket holds count 0 1
    if isBackward then
      count - boundary (fun i => !holds (count - 1 - i)) (count - next) (count - 1 - last)
    else boundary holds (last + 1) next
  else 0

/-- Two runs on their way into one. -/
structure Merge (β : Type) where
  /-- What is in place, the last element first. -/
  placed : List β := []
  short : List β
  long : List β

namespace Merge

def elements (m : Merge β) : List β := m.placed ++ (m.short ++ m.long)

def size (m : Merge β) : Nat := m.short.length + m.long.length

/-- The merge is over when the long run is used up, or when the short one has only the
element left that stands behind all of the long run. -/
def isOver (m : Merge β) : Bool :=
  match m.short, m.long with
  | _ :: _ :: _, _ :: _ => false
  | _, _ => true

/-- The whole run once the merge is over. -/
def result (m : Merge β) : List β := m.placed.reverse ++ (m.long ++ m.short)

def moveShort (count : Nat) (m : Merge β) : Merge β :=
  if m.isOver then m
  else ⟨(m.short.take count).reverse ++ m.placed, m.short.drop count, m.long⟩

def moveLong (count : Nat) (m : Merge β) : Merge β :=
  if m.isOver then m
  else ⟨(m.long.take count).reverse ++ m.placed, m.short, m.long.drop count⟩

/-- How far the short run leads before the next element of the long one. -/
def shortLead (isBackward : Bool) (precedes : β → β → Bool) (m : Merge β) : Nat :=
  match m.long with
  | x :: _ => if m.isOver then 0 else leading isBackward (fun y => !precedes x y) m.short
  | [] => 0

/-- How far the long run leads before the next element of the short one. -/
def longLead (isBackward : Bool) (precedes : β → β → Bool) (m : Merge β) : Nat :=
  match m.short with
  | y :: _ => if m.isOver then 0 else leading isBackward (fun x => precedes x y) m.long
  | [] => 0

/-- One by one, until one of the runs has given `limit` elements in a row. -/
def alternate (precedes : β → β → Bool) (limit fromShort fromLong : Nat) (m : Merge β) :
    Merge β :=
  match m with
  | ⟨placed, y :: y' :: short, x :: long⟩ =>
    if precedes x y then
      let m := ⟨x :: placed, y :: y' :: short, long⟩
      if limit ≤ fromLong + 1 then m else alternate precedes limit 0 (fromLong + 1) m
    else
      let m := ⟨y :: placed, y' :: short, x :: long⟩
      if limit ≤ fromShort + 1 then m else alternate precedes limit (fromShort + 1) 0 m
  | m => m
termination_by m.short.length + m.long.length

/-- A leap of each run, with one element of the other run behind it, and the wider of the
two leaps. The run that lies on the left leaps first. -/
def leap (isBackward : Bool) (precedes : β → β → Bool) (m : Merge β) : Nat × Merge β :=
  if isBackward then
    let first := m.longLead isBackward precedes
    let m := (m.moveLong first).moveShort 1
    let second := m.shortLead isBackward precedes
    (max first second, (m.moveShort second).moveLong 1)
  else
    let first := m.shortLead isBackward precedes
    let m := (m.moveShort first).moveLong 1
    let second := m.longLead isBackward precedes
    (max first second, (m.moveLong second).moveShort 1)

theorem size_moveShort (count : Nat) (m : Merge β) : (m.moveShort count).size ≤ m.size := by
  unfold moveShort
  split
  · exact Nat.le_refl _
  · simp only [size, List.length_drop]
    omega

theorem size_moveLong (count : Nat) (m : Merge β) : (m.moveLong count).size ≤ m.size := by
  unfold moveLong
  split
  · exact Nat.le_refl _
  · simp only [size, List.length_drop]
    omega

/-- Both runs have elements until the merge is over. -/
theorem length_pos_of_isOver {m : Merge β} (h : m.isOver = false) :
    0 < m.short.length ∧ 0 < m.long.length := by
  unfold isOver at h
  split at h
  · simp_all
  · cases h

/-- A move of nothing at all does not end a merge. -/
theorem size_moveShort_of_isOver {count : Nat} {m : Merge β} (h : m.isOver = false)
    (ended : (m.moveShort count).isOver = true) : (m.moveShort count).size < m.size := by
  have some_left := length_pos_of_isOver h
  cases count with
  | zero => simp_all [moveShort, isOver]
  | succ count =>
    simp only [moveShort, h, size, List.length_drop, Bool.false_eq_true, ↓reduceIte]
    omega

theorem size_moveLong_of_isOver {count : Nat} {m : Merge β} (h : m.isOver = false)
    (ended : (m.moveLong count).isOver = true) : (m.moveLong count).size < m.size := by
  have some_left := length_pos_of_isOver h
  cases count with
  | zero => simp_all [moveLong, isOver]
  | succ count =>
    simp only [moveLong, h, size, List.length_drop, Bool.false_eq_true, ↓reduceIte]
    omega

theorem size_moveShort_one {m : Merge β} (h : m.isOver = false) :
    (m.moveShort 1).size < m.size := by
  have some_left := length_pos_of_isOver h
  simp only [moveShort, h, size, List.length_drop, Bool.false_eq_true, ↓reduceIte]
  omega

theorem size_moveLong_one {m : Merge β} (h : m.isOver = false) :
    (m.moveLong 1).size < m.size := by
  have some_left := length_pos_of_isOver h
  simp only [moveLong, h, size, List.length_drop, Bool.false_eq_true, ↓reduceIte]
  omega

theorem size_leap (isBackward : Bool) (precedes : β → β → Bool) {m : Merge β}
    (h : m.isOver = false) : (m.leap isBackward precedes).2.size < m.size := by
  have first_long (n : Nat) : ((m.moveLong n).moveShort 1).size < m.size := by
    cases ended : (m.moveLong n).isOver
    · exact Nat.lt_of_lt_of_le (size_moveShort_one ended) (size_moveLong n m)
    · exact Nat.lt_of_le_of_lt (size_moveShort 1 _) (size_moveLong_of_isOver h ended)
  have first_short (n : Nat) : ((m.moveShort n).moveLong 1).size < m.size := by
    cases ended : (m.moveShort n).isOver
    · exact Nat.lt_of_lt_of_le (size_moveLong_one ended) (size_moveShort n m)
    · exact Nat.lt_of_le_of_lt (size_moveLong 1 _) (size_moveShort_of_isOver h ended)
  unfold leap
  split
  · exact Nat.lt_of_le_of_lt (Nat.le_trans (size_moveLong ..) (size_moveShort ..)) (first_long _)
  · exact Nat.lt_of_le_of_lt (Nat.le_trans (size_moveShort ..) (size_moveLong ..)) (first_short _)

/-- Leaps as long as the wider one of each pair is wide enough, the limit falling with each
pair and rising at the end. -/
def leaps (isBackward : Bool) (precedes : β → β → Bool) (limit : Nat) (m : Merge β) :
    Nat × Merge β :=
  if ended : m.isOver then (limit, m)
  else
    let lower := max 1 (limit - 1)
    let next := m.leap isBackward precedes
    if next.2.isOver || 7 ≤ next.1 then leaps isBackward precedes lower next.2
    else (lower + 1, next.2)
termination_by m.size
decreasing_by exact size_leap isBackward precedes (Bool.not_eq_true _ ▸ ended)

theorem size_leaps (isBackward : Bool) (precedes : β → β → Bool) (limit : Nat) (m : Merge β) :
    (m.leaps isBackward precedes limit).2.size ≤ m.size := by
  fun_induction leaps isBackward precedes limit m with
  | case1 => exact Nat.le_refl _
  | case2 limit m ended lower next _ ih =>
    exact Nat.le_trans ih (Nat.le_of_lt (size_leap _ _ (Bool.not_eq_true _ ▸ ended)))
  | case3 limit m ended lower next =>
    exact Nat.le_of_lt (size_leap _ _ (Bool.not_eq_true _ ▸ ended))

theorem size_leaps_lt (isBackward : Bool) (precedes : β → β → Bool) (limit : Nat) {m : Merge β}
    (h : m.isOver = false) : (m.leaps isBackward precedes limit).2.size < m.size := by
  unfold leaps
  simp only [h, Bool.false_eq_true, ↓reduceDIte]
  split
  · exact Nat.lt_of_le_of_lt (size_leaps ..) (size_leap _ _ h)
  · exact size_leap _ _ h

theorem size_alternate (precedes : β → β → Bool) (limit fromShort fromLong : Nat)
    (m : Merge β) : (m.alternate precedes limit fromShort fromLong).size ≤ m.size := by
  fun_induction alternate precedes limit fromShort fromLong m with
  | case1 | case3 =>
    simp +zetaDelta only [size, List.length_cons]
    omega
  | case2 | case4 =>
    rename_i ih
    refine Nat.le_trans ih ?_
    simp +zetaDelta only [size, List.length_cons]
    omega
  | case5 => exact Nat.le_refl _

/-- The end of the merge, and the limit for the next one. -/
def finish (isBackward : Bool) (precedes : β → β → Bool) (limit : Nat) (m : Merge β) :
    Nat × Merge β :=
  let stepped := m.alternate precedes limit 0 0
  if ended : stepped.isOver then (limit, stepped)
  else
    let leapt := stepped.leaps isBackward precedes (limit + 1)
    finish isBackward precedes leapt.1 leapt.2
termination_by m.size
decreasing_by
  exact Nat.lt_of_lt_of_le (size_leaps_lt _ _ _ (Bool.not_eq_true _ ▸ ended)) (size_alternate ..)

theorem moveShort_perm (count : Nat) (m : Merge β) :
    (m.moveShort count).elements.Perm m.elements := by
  unfold moveShort
  split
  · exact .refl _
  · have turned := ((List.reverse_perm (m.short.take count)).append_right m.placed).trans
      List.perm_append_comm
    refine (turned.append_right _).trans (.of_eq ?_)
    rw [List.append_assoc, ← List.append_assoc (m.short.take count), List.take_append_drop,
      elements]

theorem moveLong_perm (count : Nat) (m : Merge β) :
    (m.moveLong count).elements.Perm m.elements := by
  unfold moveLong
  split
  · exact .refl _
  · have turned := ((List.reverse_perm (m.long.take count)).append_right m.placed).trans
      List.perm_append_comm
    refine (turned.append_right _).trans ?_
    rw [List.append_assoc]
    refine (List.Perm.append_left _ (List.perm_append_comm_assoc ..)).trans (.of_eq ?_)
    rw [List.take_append_drop, elements]

theorem alternate_perm (precedes : β → β → Bool) (limit fromShort fromLong : Nat)
    (m : Merge β) :
    (m.alternate precedes limit fromShort fromLong).elements.Perm m.elements := by
  have of_long (placed short long : List β) (x : β) :
      (elements ⟨x :: placed, short, long⟩).Perm (elements ⟨placed, short, x :: long⟩) := by
    simp only [elements, ← List.append_assoc]
    exact List.perm_middle.symm
  have of_short (placed short long : List β) (y : β) :
      (elements ⟨y :: placed, short, long⟩).Perm (elements ⟨placed, y :: short, long⟩) :=
    List.perm_middle.symm
  fun_induction alternate precedes limit fromShort fromLong m with
  | case1 => exact of_long ..
  | case2 fromShort fromLong placed y y' short x long _ m _ ih =>
    exact ih.trans (of_long ..)
  | case3 => exact of_short ..
  | case4 fromShort fromLong placed y y' short x long _ m _ ih =>
    exact ih.trans (of_short ..)
  | case5 => exact .refl _

theorem leap_perm (isBackward : Bool) (precedes : β → β → Bool) (m : Merge β) :
    (m.leap isBackward precedes).2.elements.Perm m.elements := by
  unfold leap
  split
  · exact (moveLong_perm ..).trans ((moveShort_perm ..).trans
      ((moveShort_perm ..).trans (moveLong_perm ..)))
  · exact (moveShort_perm ..).trans ((moveLong_perm ..).trans
      ((moveLong_perm ..).trans (moveShort_perm ..)))

theorem leaps_perm (isBackward : Bool) (precedes : β → β → Bool) (limit : Nat) (m : Merge β) :
    (m.leaps isBackward precedes limit).2.elements.Perm m.elements := by
  fun_induction leaps isBackward precedes limit m with
  | case1 => exact .refl _
  | case2 limit m ended lower next _ ih => exact ih.trans (leap_perm ..)
  | case3 => exact leap_perm ..

theorem finish_perm (isBackward : Bool) (precedes : β → β → Bool) (limit : Nat) (m : Merge β) :
    (m.finish isBackward precedes limit).2.elements.Perm m.elements := by
  fun_induction finish isBackward precedes limit m with
  | case1 => exact alternate_perm ..
  | case2 limit m stepped ended leapt ih =>
    exact ih.trans ((leaps_perm ..).trans (alternate_perm ..))

theorem result_perm (m : Merge β) : m.result.Perm m.elements :=
  (List.reverse_perm _).append List.perm_append_comm

end Merge

/-- Two runs in one, built up from the side of the shorter one. The first element of the
right run comes before the whole left one, and the last element of the left run behind the
whole right one. -/
def weave (before : β → β → Bool) (limit : Nat) (left right : List β) : Nat × List β :=
  match right, left.reverse with
  | first :: more, last :: others =>
    if others.length ≤ more.length then
      let m := Merge.finish false before limit ⟨[first], left, more⟩
      (m.1, m.2.result)
    else
      let m := Merge.finish true (fun a b => before b a) limit ⟨[last], right.reverse, others⟩
      (m.1, m.2.result.reverse)
  | _, _ => (limit, left ++ right)

/-- A run and the run on its right in one, and the limit for the next merge. What stands
before the right run or behind the left one already is not moved. -/
def merge (before : β → β → Bool) (limit : Nat) (left right : List β) : Nat × List β :=
  let ahead :=
    match right with
    | [] => left.length
    | first :: _ => leading false (fun x => !before first x) left
  let behind :=
    match (left.drop ahead).reverse with
    | [] => 0
    | last :: _ => right.length - leading true (fun x => !before x last) right.reverse
  let middle := weave before limit (left.drop ahead) (right.take behind)
  (middle.1, left.take ahead ++ (middle.2 ++ right.drop behind))

theorem weave_perm (before : β → β → Bool) (limit : Nat) (left right : List β) :
    (weave before limit left right).2.Perm (left ++ right) := by
  unfold weave
  split
  · rename_i first more last others same
    split
    · refine (Merge.result_perm _).trans ((Merge.finish_perm ..).trans ?_)
      simp only [Merge.elements, List.singleton_append]
      exact List.perm_middle.symm
    · refine (List.reverse_perm _).trans ((Merge.result_perm _).trans ?_)
      refine (Merge.finish_perm ..).trans ?_
      have left_perm : (last :: others).Perm left := same ▸ List.reverse_perm left
      have right_perm := List.reverse_perm (first :: more)
      simp only [Merge.elements, List.singleton_append]
      exact List.perm_middle.symm.trans (List.perm_append_comm.trans (left_perm.append right_perm))
  · exact .refl _

theorem merge_perm (before : β → β → Bool) (limit : Nat) (left right : List β) :
    (merge before limit left right).2.Perm (left ++ right) := by
  simp only [merge]
  generalize (match right with
    | [] => left.length
    | first :: _ => leading false (fun x => !before first x) left) = ahead
  generalize (match (left.drop ahead).reverse with
    | [] => 0
    | last :: _ => right.length - leading true (fun x => !before x last) right.reverse) = behind
  refine (((weave_perm ..).append_right _).append_left _).trans (.of_eq ?_)
  rw [List.append_assoc, List.take_append_drop, ← List.append_assoc, List.take_append_drop]

end Airspaces.Sorting
