import Mathlib.Data.List.DropRight
import Mathlib.Data.List.Induction
/-! What a history of events tells: the latest value of a kind, the events since the last
one of a kind, and what each event adds in the light of those before it. Each reading has
an equation for one more event at the end, and inductions over runs go by these. -/
namespace Airspaces.History

variable {β γ : Type}

/-- The latest value that `f` finds in an event. -/
def latest? (f : β → Option γ) (history : List β) : Option γ := (history.filterMap f).getLast?

/-- The events after the last one that satisfies `p`. -/
def since (p : β → Bool) (history : List β) : List β := history.rtakeWhile (!p ·)

/-- What all events add, each in the light of those before it. -/
def accumulate (f : List β → β → List γ) (history : List β) : List γ :=
  history.zipIdx.flatMap fun (event, i) => f (history.take i) event

/-- The first value that `f` finds in an event in the light of those before it. -/
def first? (f : List β → β → Option γ) (history : List β) : Option γ :=
  (accumulate (fun before event => (f before event).toList) history).head?

@[simp] theorem latest?_nil (f : β → Option γ) : latest? f [] = none := rfl

@[simp] theorem latest?_concat (f : β → Option γ) (history : List β) (event : β) :
    latest? f (history ++ [event]) = (f event).or (latest? f history) := by
  unfold latest?
  cases found : f event <;> simp [List.filterMap_append, found]

@[simp] theorem since_nil (p : β → Bool) : since p [] = [] := rfl

@[simp] theorem since_concat (p : β → Bool) (history : List β) (event : β) :
    since p (history ++ [event]) = if p event then [] else since p history ++ [event] := by
  unfold since
  rw [List.rtakeWhile_concat]
  cases p event <;> rfl

@[simp] theorem accumulate_nil (f : List β → β → List γ) : accumulate f [] = [] := rfl

@[simp] theorem accumulate_concat (f : List β → β → List γ) (history : List β) (event : β) :
    accumulate f (history ++ [event]) = accumulate f history ++ f history event := by
  have earlier : ∀ pair ∈ history.zipIdx,
      f ((history ++ [event]).take pair.2) pair.1 = f (history.take pair.2) pair.1 := by
    intro pair member
    have bound : pair.2 < history.length := by simpa using List.snd_lt_add_of_mem_zipIdx member
    rw [List.take_append_of_le_length (Nat.le_of_lt bound)]
  unfold accumulate
  rw [List.zipIdx_append, List.flatMap_append]
  congr 1
  · exact List.flatMap_congr earlier
  · simp

@[simp] theorem first?_nil (f : List β → β → Option γ) : first? f [] = none := rfl

@[simp] theorem first?_concat (f : List β → β → Option γ) (history : List β) (event : β) :
    first? f (history ++ [event]) = (first? f history).or (f history event) := by
  unfold first?
  rw [accumulate_concat, List.head?_append]
  cases f history event <;> simp

theorem first?_eq_none {f : List β → β → Option γ} {history : List β}
    (none_found : ∀ before, ∀ event ∈ history, f before event = none) :
    first? f history = none := by
  induction history using List.reverseRecOn with
  | nil => rfl
  | append_singleton history event ih =>
    rw [first?_concat, ih fun before earlier member =>
      none_found before earlier (List.mem_append_left _ member)]
    exact none_found history event (by simp)

section
variable (boundary? : β → Option (Option γ)) (history : List β) (event : β)

/-- The events since the last boundary. -/
def window : List β := since (fun e => (boundary? e).isSome) history

/-- What the last boundary opened, if it opened anything. -/
def opened? : Option γ := (latest? boundary? history).join

@[simp] theorem window_nil : window boundary? [] = [] := rfl

@[simp] theorem window_concat :
    window boundary? (history ++ [event]) =
      if (boundary? event).isSome then [] else window boundary? history ++ [event] :=
  since_concat _ history event

@[simp] theorem opened?_concat :
    opened? boundary? (history ++ [event]) =
      ((boundary? event).or (latest? boundary? history)).join := by
  rw [opened?, latest?_concat]

variable {boundary? event}

theorem opened?_inner (inner : boundary? event = none) :
    opened? boundary? (history ++ [event]) = opened? boundary? history := by
  rw [opened?_concat, inner, Option.none_or, opened?]

end

end Airspaces.History
