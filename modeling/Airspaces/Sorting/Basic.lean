import Airspaces.Sorting.Merge
/-! Sorting by merging the runs that a list has from the start. Where many runs wait, they
are merged so that the work stays balanced: each border between two of them lies at some
depth of the halving of the whole list, and deeper borders go first. -/
namespace Airspaces.Sorting

variable {β : Type}

/-- The least length of runs for a list of `size` elements. It is at most 64, and the number
of runs is then a power of two or a little less. -/
def leastRun (size : Nat) : Nat :=
  let part := Nat.pow 2 (size.log2 - 5)
  (size + part - 1) / part

/-- A run that waits to be merged, and the depth of its border with the run on its left. -/
structure Waiting (β : Type) where
  run : List β
  depth : Nat

/-- How often the whole list has to be halved until the middles of two neighbouring runs lie
in different parts. The left one starts at `start`. -/
def borderDepth (size start left right : Nat) : Nat :=
  let part := fun middle depth => middle * Nat.pow 2 depth / (2 * size)
  let middle := 2 * start + left
  ((List.range (size.log2 + 3)).find? fun depth =>
    part middle depth != part (middle + left + right) depth).getD 0

/-- Merges the waiting runs, the last one first, whose border is deeper than a new one. -/
def settle (before : β → β → Bool) (limit depth : Nat) (waiting : List (Waiting β)) :
    Nat × List (Waiting β) :=
  match waiting with
  | top :: below :: rest =>
    if depth < top.depth then
      let (limit, run) := merge before limit below.run top.run
      settle before limit depth (⟨run, below.depth⟩ :: rest)
    else (limit, waiting)
  | _ => (limit, waiting)
termination_by waiting.length

/-- Merges all waiting runs, the last one first. -/
def settleAll (before : β → β → Bool) (limit : Nat) (runs : List (List β)) : List β :=
  match runs with
  | [] => []
  | [run] => run
  | [top, below] => (merge before limit below top).2
  | top :: middle :: low :: rest =>
    if low.length < top.length then
      let (limit, run) := merge before limit low middle
      settleAll before limit (top :: run :: rest)
    else
      let (limit, run) := merge before limit middle top
      settleAll before limit (run :: low :: rest)
termination_by runs.length

/-- The depth of the border between the last waiting run and a new one that starts at
`start`. -/
def newDepth (size start length : Nat) (waiting : List (Waiting β)) : Nat :=
  match waiting with
  | [] => 0
  | top :: _ => borderDepth size (start - top.run.length) top.run.length length

/-- Cuts the elements into runs, merges some as they come and the others at the end. -/
def sortFrom (before : β → β → Bool) (size limit : Nat) (waiting : List (Waiting β))
    (elements : List β) : List β :=
  match elements with
  | [] => settleAll before limit (waiting.map (·.run))
  | x :: rest =>
    let next := longRun before (leastRun size) x rest
    let depth := newDepth size (size - elements.length) next.1.length waiting
    let settled := settle before limit depth waiting
    sortFrom before size settled.1 (⟨next.1, depth⟩ :: settled.2) next.2
termination_by elements.length
decreasing_by exact Nat.lt_succ_of_le (longRun_length ..)

/-- The elements in rising order; equals keep theirs. -/
def sort (before : β → β → Bool) (elements : List β) : List β :=
  sortFrom before elements.length 7 [] elements

/-- The elements in falling order; equals keep theirs. -/
def sortDown (before : β → β → Bool) (elements : List β) : List β :=
  (sort before elements.reverse).reverse

theorem settleAll_perm (before : β → β → Bool) (limit : Nat) (runs : List (List β)) :
    (settleAll before limit runs).Perm runs.reverse.flatten := by
  fun_induction settleAll before limit runs with
  | case1 => exact .refl _
  | case2 => simp
  | case3 limit top below => simpa using merge_perm before limit below top
  | case4 limit top middle low rest _ limit' run same ih =>
    have merged := same ▸ merge_perm before limit low middle
    refine ih.trans ?_
    simp only [List.reverse_cons, List.flatten_append, List.flatten_singleton]
    refine ((merged.append_left _).append_right _).trans (.of_eq ?_)
    simp
  | case5 limit top middle low rest _ limit' run same ih =>
    have merged := same ▸ merge_perm before limit middle top
    refine ih.trans ?_
    simp only [List.reverse_cons, List.flatten_append, List.flatten_singleton]
    refine (merged.append_left _).trans (.of_eq ?_)
    simp

/-- The elements of waiting runs from left to right. -/
def inWaiting (waiting : List (Waiting β)) : List β :=
  (waiting.map (·.run)).reverse.flatten

theorem inWaiting_cons (top : Waiting β) (waiting : List (Waiting β)) :
    inWaiting (top :: waiting) = inWaiting waiting ++ top.run := by
  simp [inWaiting]

theorem settle_perm (before : β → β → Bool) (limit depth : Nat) (waiting : List (Waiting β)) :
    (inWaiting (settle before limit depth waiting).2).Perm (inWaiting waiting) := by
  fun_induction settle before limit depth waiting with
  | case1 limit top below rest _ limit' run same ih =>
    have merged := same ▸ merge_perm before limit below.run top.run
    refine ih.trans ?_
    simp only [inWaiting_cons, List.append_assoc]
    exact merged.append_left _
  | case2 => exact .refl _
  | case3 => exact .refl _

theorem sortFrom_perm (before : β → β → Bool) (size limit : Nat) (waiting : List (Waiting β))
    (elements : List β) :
    (sortFrom before size limit waiting elements).Perm (inWaiting waiting ++ elements) := by
  fun_induction sortFrom before size limit waiting elements with
  | case1 limit waiting => simpa [inWaiting] using settleAll_perm ..
  | case2 limit waiting x rest next depth settled ih =>
    refine ih.trans ?_
    rw [inWaiting_cons, List.append_assoc]
    exact (settle_perm ..).append (longRun_perm ..)

theorem sort_perm (before : β → β → Bool) (elements : List β) :
    (sort before elements).Perm elements :=
  sortFrom_perm ..

theorem sortDown_perm (before : β → β → Bool) (elements : List β) :
    (sortDown before elements).Perm elements :=
  (List.reverse_perm _).trans ((sort_perm ..).trans (List.reverse_perm _))

end Airspaces.Sorting
