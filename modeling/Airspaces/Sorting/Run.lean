/-! Runs of a list: stretches that rise from element to element. A run that falls all the
way is turned round, and one that is too short is made longer by inserting what follows it.
Only "comes before" is ever asked, so that lists have one order even where some elements
cannot be compared. -/
namespace Airspaces.Sorting

variable {β : Type}

/-- The elements from `x` on as long as each one follows from the one before, and the
rest. -/
def run (follows : β → β → Bool) (x : β) : List β → List β × List β
  | [] => ([x], [])
  | y :: rest =>
    if follows x y then
      let (more, rest) := run follows y rest
      (x :: more, rest)
    else ([x], y :: rest)

/-- The first run in rising order, and the rest. -/
def firstRun (before : β → β → Bool) (x : β) : List β → List β × List β
  | [] => ([x], [])
  | y :: rest =>
    if before y x then
      let (falling, rest) := run (fun a b => before b a) x (y :: rest)
      (falling.reverse, rest)
    else run (fun a b => !before b a) x (y :: rest)

/-- Where the places from `low` up to `high` stop being on the left, by halving. -/
def boundary (isLeft : Nat → Bool) (low high : Nat) : Nat :=
  if low < high then
    let middle := (low + high) / 2
    if isLeft middle then boundary isLeft (middle + 1) high else boundary isLeft low middle
  else low
termination_by high - low

/-- `x` put in its place, behind its equals. -/
def insert (before : β → β → Bool) (sorted : Array β) (x : β) : Array β :=
  let isLeft := fun i => !sorted[i]?.any (before x)
  sorted.insertIdxIfInBounds (boundary isLeft 0 sorted.size) x

/-- The first run with what follows it put in place up to a least length, and the rest. -/
def longRun (before : β → β → Bool) (least : Nat) (x : β) (elements : List β) :
    List β × List β :=
  let (first, rest) := firstRun before x elements
  let more := least - first.length
  (((rest.take more).foldl (insert before) first.toArray).toList, rest.drop more)

theorem run_append (follows : β → β → Bool) (x : β) (elements : List β) :
    (run follows x elements).1 ++ (run follows x elements).2 = x :: elements := by
  induction elements generalizing x with
  | nil => rfl
  | cons y rest ih =>
    unfold run
    split
    · simp [ih y]
    · rfl

theorem run_length (follows : β → β → Bool) (x : β) (elements : List β) :
    (run follows x elements).2.length ≤ elements.length := by
  induction elements generalizing x with
  | nil => exact Nat.le_refl _
  | cons y rest ih =>
    unfold run
    split
    · exact Nat.le_succ_of_le (ih y)
    · exact Nat.le_refl _

theorem firstRun_perm (before : β → β → Bool) (x : β) (elements : List β) :
    ((firstRun before x elements).1 ++ (firstRun before x elements).2).Perm (x :: elements) := by
  cases elements with
  | nil => exact .refl _
  | cons y rest =>
    simp only [firstRun]
    split
    · have whole := run_append (fun a b => before b a) x (y :: rest)
      rw [← whole]
      exact (List.reverse_perm _).append_right _
    · rw [run_append]

theorem longRun_length (before : β → β → Bool) (least : Nat) (x : β) (elements : List β) :
    (longRun before least x elements).2.length ≤ elements.length := by
  simp only [longRun, List.length_drop]
  refine Nat.le_trans (Nat.sub_le ..) ?_
  cases elements with
  | nil => exact Nat.le_refl _
  | cons y rest =>
    simp only [firstRun]
    split <;> exact run_length ..

theorem boundary_le (isLeft : Nat → Bool) {low high : Nat} (h : low ≤ high) :
    boundary isLeft low high ≤ high := by
  fun_induction boundary isLeft low high with
  | case1 low high _ middle _ ih => exact ih (by omega)
  | case2 low high _ middle _ ih => exact Nat.le_trans (ih (by omega)) (by omega)
  | case3 => exact h

theorem insert_perm (before : β → β → Bool) (sorted : Array β) (x : β) :
    (insert before sorted x).toList.Perm (x :: sorted.toList) := by
  have inside := boundary_le (fun i => !sorted[i]?.any (before x)) (Nat.zero_le sorted.size)
  simp only [insert, Array.insertIdxIfInBounds, inside, ↓reduceDIte, Array.toList_insertIdx]
  exact List.perm_insertIdx _ _ (by simpa using inside)

theorem foldl_insert_perm (before : β → β → Bool) (elements : List β) (sorted : Array β) :
    (elements.foldl (insert before) sorted).toList.Perm (sorted.toList ++ elements) := by
  induction elements generalizing sorted with
  | nil => simp
  | cons x rest ih =>
    exact ((ih _).trans ((insert_perm before sorted x).append_right rest)).trans
      List.perm_middle.symm

theorem longRun_perm (before : β → β → Bool) (least : Nat) (x : β) (elements : List β) :
    ((longRun before least x elements).1 ++ (longRun before least x elements).2).Perm
      (x :: elements) := by
  simp only [longRun]
  refine ((foldl_insert_perm before _ _).append_right _).trans ?_
  rw [List.append_assoc, List.take_append_drop]
  exact firstRun_perm before x elements

end Airspaces.Sorting
