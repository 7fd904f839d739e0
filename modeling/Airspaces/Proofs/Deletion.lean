import Airspaces.Proofs.Feed
/-! Lines left out of a run. Where such a line hands out nothing, and leaves a state that
later lines cannot tell from the one it met, the other lines do what they did before. -/
namespace Airspaces

variable {α : Type} [Scalar α] {σ : Type}

/-- The lines of a run with the states that they meet. -/
def encounters (step : Text → σ → Step α σ) : σ → List Text → List (σ × Text)
  | _, [] => []
  | s, line :: rest => (s, line) :: encounters step (step line s).state rest

/-- The lines that are left where those that meet a state with `drops` are left out. -/
def keep (step : Text → σ → Step α σ) (drops : σ × Text → Bool) (s : σ) (lines : List Text) :
    List Text :=
  ((encounters step s lines).filter (!drops ·)).map (·.2)

/-- Leaving out what `drops` tells cannot be noticed in related states. -/
structure Unnoticed (step : Text → σ → Step α σ) (drops : σ × Text → Bool) (R : σ → σ → Prop) :
    Prop where
  quiet {s t : σ} {line : Text} : R s t → drops (s, line) = true →
    (step line s).finished = [] ∧ R (step line s).state t
  alike {s t : σ} {line : Text} : R s t → drops (s, line) = false →
    (step line t).stop = (step line s).stop ∧ (step line t).finished = (step line s).finished ∧
      R (step line s).state (step line t).state

/-- What every line of a run keeps holds of every state that a line meets. -/
theorem encounters_keep {step : Text → σ → Step α σ} {P : σ → Prop} {s : σ} {lines : List Text}
    (start : P s) (keeps : ∀ t, ∀ line ∈ lines, P t → P (step line t).state) :
    ∀ met ∈ encounters step s lines, P met.1 ∧ met.2 ∈ lines := by
  induction lines generalizing s with
  | nil =>
    intro met member
    cases member
  | cons line rest ih =>
    intro met member
    obtain rfl | later := List.mem_cons.mp member
    · exact ⟨start, List.mem_cons_self⟩
    · obtain ⟨kept, listed⟩ := ih (keeps s line List.mem_cons_self start)
        (fun t line member => keeps t line (List.mem_cons_of_mem _ member)) met later
      exact ⟨kept, List.mem_cons_of_mem _ listed⟩

theorem encounters_texts (step : Text → σ → Step α σ) (s : σ) (lines : List Text) :
    (encounters step s lines).map (·.2) = lines := by
  induction lines generalizing s with
  | nil => rfl
  | cons line rest ih => rw [encounters, List.map_cons, ih]

/-- Lines can be left out by their numbers. -/
theorem keep_eq_filter {step : Text → σ → Step α σ} {drops : σ × Text → Bool} {s : σ}
    {lines : List Text} {first : Nat} {numbers : List Nat}
    (listed : ∀ pair number, (pair, number) ∈ (encounters step s lines).zipIdx first →
      (number ∈ numbers ↔ drops pair = true)) :
    ((lines.zipIdx first).filter fun (_, number) => number ∉ numbers).map (·.1) =
      keep step drops s lines := by
  have same : ∀ pair ∈ (encounters step s lines).zipIdx first,
      decide (pair.2 ∉ numbers) = !drops pair.1 := by
    intro pair member
    have told := listed pair.1 pair.2 member
    cases dropped : drops pair.1 <;> simp [told, dropped]
  have numbered : lines.zipIdx first =
      ((encounters step s lines).zipIdx first).map (Prod.map (·.2) id) := by
    rw [← List.zipIdx_map, encounters_texts]
  have unnumbered : (encounters step s lines).filter (!drops ·) =
      (((encounters step s lines).zipIdx first).filter (!drops ·.1)).map (·.1) := by
    conv_lhs => rw [← List.zipIdx_map_fst first (encounters step s lines), List.filter_map]
    rfl
  rw [keep, unnumbered, numbered, List.filter_map, List.map_map, List.map_map,
    ← List.filter_congr same]
  rfl

namespace Unnoticed

variable {step : Text → σ → Step α σ} {drops : σ × Text → Bool} {R : σ → σ → Prop}

/-- The run without the lines hands out the same airspaces. -/
theorem feed_keep (unnoticed : Unnoticed step drops R) {s t last : σ} {lines : List Text}
    {out : List (Airspace α)} (related : R s t) (fed : feed step s lines = .ok (last, out)) :
    ∃ last', R last last' ∧ feed step t (keep step drops s lines) = .ok (last', out) := by
  induction lines generalizing s t out with
  | nil =>
    cases fed
    exact ⟨t, related, rfl⟩
  | cons line rest ih =>
    obtain ⟨sound, later, fed_rest, rfl⟩ := feed_cons_eq_ok.mp fed
    -- A line that is dropped moves the first run alone, any other line moves both.
    cases dropped : drops (s, line) with
    | true =>
      obtain ⟨nothing, related⟩ := unnoticed.quiet related dropped
      obtain ⟨last', alike, fed⟩ := ih related fed_rest
      refine ⟨last', alike, ?_⟩
      simpa [keep, encounters, dropped, nothing] using fed
    | false =>
      obtain ⟨stop, finished, related⟩ := unnoticed.alike related dropped
      obtain ⟨last', alike, fed⟩ := ih related fed_rest
      have sound : (step line t).fault? = none := by rwa [Step.fault?, stop]
      refine ⟨last', alike, ?_⟩
      have kept : keep step drops s (line :: rest) =
          line :: keep step drops (step line s).state rest := by
        simp [keep, encounters, dropped]
      rw [kept, feed_cons_eq_ok]
      exact ⟨sound, later, fed, by rw [finished]⟩

/-- The lines that are kept stop as they did before. -/
theorem stops_keep (unnoticed : Unnoticed step drops R) {s t : σ} (related : R s t)
    (lines : List Text) :
    (encounters step t (keep step drops s lines)).map (fun (t, line) => (step line t).stop) =
      ((encounters step s lines).filter (!drops ·)).map fun (s, line) => (step line s).stop := by
  induction lines generalizing s t with
  | nil => rfl
  | cons line rest ih =>
    cases dropped : drops (s, line) with
    | true =>
      have later := unnoticed.quiet related dropped
      simpa [keep, encounters, dropped] using ih later.2
    | false =>
      have later := unnoticed.alike related dropped
      simpa [keep, encounters, dropped, later.1] using ih later.2.2

end Unnoticed
end Airspaces
