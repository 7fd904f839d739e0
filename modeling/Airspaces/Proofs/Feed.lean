import Airspaces.Proofs.History
import Airspaces.Record
/-! Lines fed one after the other to what reads one line. A run can be told from the
history of its lines alone once every single line does what its history says. -/
namespace Airspaces

variable {α : Type} [Scalar α] {δ σ τ : Type}

namespace Step

/-- The fault that a line ran into. A line error is none. -/
def fault? (done : Step α σ) : Option (Fault α) :=
  match done.stop with
  | some (.fault f) => some f
  | _ => none

/-- Is the line skipped over for an error? -/
def rejects (done : Step α σ) : Bool :=
  match done.stop with
  | some (.line _) => true
  | _ => false

theorem rejects_iff {done : Step α σ} :
    done.rejects = true ↔ ∃ e, done.stop = some (.line e) := by
  unfold rejects
  split
  · rename_i e stop
    exact iff_of_true rfl ⟨e, stop⟩
  · rename_i other
    exact iff_of_false Bool.false_ne_true fun ⟨e, stop⟩ => other e stop

/-- A line error is no fault. -/
theorem fault?_of_rejects {done : Step α σ} (rejected : done.rejects = true) :
    done.fault? = none := by
  unfold rejects at rejected
  unfold fault?
  split at rejected
  · rename_i e stop
    rw [stop]
  · cases rejected

@[simp] theorem leave_fault? (s : σ) : (leave s : Step α σ).fault? = none := rfl

@[simp] theorem reject_fault? (s : σ) (cause : LineCause) (line : Text) :
    (reject s cause line : Step α σ).fault? = none := rfl

@[simp] theorem crash_fault? (s : σ) (f : Fault α) : (crash s f).fault? = some f := rfl

@[simp] theorem map_fault? (f : σ → τ) (done : Step α σ) : (done.map f).fault? = done.fault? := rfl

@[simp] theorem leave_rejects (s : σ) : (leave s : Step α σ).rejects = false := rfl

@[simp] theorem map_rejects (f : σ → τ) (done : Step α σ) :
    (done.map f).rejects = done.rejects := rfl

@[simp] theorem map_state (f : σ → τ) (done : Step α σ) : (done.map f).state = f done.state := rfl

@[simp] theorem map_finished (f : σ → τ) (done : Step α σ) :
    (done.map f).finished = done.finished := rfl

/-- Why a line stopped, whatever the line in its error looks like. -/
def reason? (done : Step α σ) : Option (LineCause ⊕ Fault α) :=
  done.stop.map fun
    | .line e => .inl e.cause
    | .fault f => .inr f

/-- Two lines do the same, and if they stop they do so for the same reason. -/
structure Like (done done' : Step α σ) : Prop where
  state : done.state = done'.state
  finished : done.finished = done'.finished
  reason : done.reason? = done'.reason?

theorem Like.refl (done : Step α σ) : done.Like done := ⟨rfl, rfl, rfl⟩

theorem Like.map {done done' : Step α σ} (like : done.Like done') (f : σ → τ) :
    (done.map f).Like (done'.map f) :=
  ⟨congrArg f like.state, like.finished, like.reason⟩

theorem reject_like (s : σ) (cause : LineCause) (line line' : Text) :
    (reject s cause line : Step α σ).Like (reject s cause line') := ⟨rfl, rfl, rfl⟩

end Step

/-- The state after lines and the airspaces that they handed out. A line with an error is
skipped over, a fault breaks the run off. -/
def feed (step : Text → σ → Step α σ) : σ → List Text → Except (Fault α) (σ × List (Airspace α))
  | s, [] => .ok (s, [])
  | s, line :: rest =>
    match (step line s).fault? with
    | some f => .error f
    | none =>
      (feed step (step line s).state rest).map fun (last, later) =>
        (last, (step line s).finished ++ later)

theorem feed_cons_eq_ok {step : Text → σ → Step α σ} {s last : σ} {line : Text} {rest : List Text}
    {out : List (Airspace α)} :
    feed step s (line :: rest) = .ok (last, out) ↔
      (step line s).fault? = none ∧ ∃ later,
        feed step (step line s).state rest = .ok (last, later) ∧
          out = (step line s).finished ++ later := by
  rw [feed]
  cases (step line s).fault? with
  | some f => simp
  | none =>
    cases feed step (step line s).state rest with
    | error f => simp [Except.map]
    | ok result =>
      obtain ⟨t, later⟩ := result
      simp [Except.map, eq_comm, and_assoc]

/-- A line that only leaves another state. -/
theorem feed_leave {step : Text → σ → Step α σ} {s t : σ} {line : Text}
    (leaves : step line s = .leave t) (rest : List Text) :
    feed step s (line :: rest) = feed step t rest := by
  have goes : (Step.leave t : Step α σ).state = t := rfl
  have nothing : (Step.leave t : Step α σ).finished = [] := rfl
  rw [feed, leaves, Step.leave_fault?, goes, nothing]
  cases feed step t rest <;> rfl

theorem feed_append {step : Text → σ → Step α σ} {s t : σ} {before : List Text}
    {out : List (Airspace α)} (fed : feed step s before = .ok (t, out)) (after : List Text) :
    feed step s (before ++ after) =
      (feed step t after).map fun (last, later) => (last, out ++ later) := by
  induction before generalizing s out with
  | nil =>
    cases fed
    rw [List.nil_append]
    cases feed step t after <;> rfl
  | cons line rest ih =>
    obtain ⟨sound, later, fed_rest, rfl⟩ := feed_cons_eq_ok.mp fed
    rw [List.cons_append, feed, sound]
    dsimp only
    rw [ih fed_rest]
    cases feed step t after <;> simp [Except.map]

theorem feed_concat (step : Text → σ → Step α σ) (s : σ) (lines : List Text) (line : Text) :
    feed step s (lines ++ [line]) =
      match feed step s lines with
      | .error f => .error f
      | .ok (t, out) =>
        match (step line t).fault? with
        | some f => .error f
        | none => .ok ((step line t).state, out ++ (step line t).finished) := by
  induction lines generalizing s with
  | nil =>
    simp only [List.nil_append, feed]
    cases (step line s).fault? <;> simp [Except.map]
  | cons first rest ih =>
    simp only [List.cons_append, feed, ih]
    cases (step first s).fault? with
    | some f => rfl
    | none =>
      cases feed step (step first s).state rest with
      | error f => rfl
      | ok result =>
        obtain ⟨t, out⟩ := result
        cases last : (step line t).fault? <;> simp [Except.map, last]

/-- What every line keeps holds after a run. -/
theorem feed_keeps {step : Text → σ → Step α σ} {P : σ → Prop}
    (keeps : ∀ line s, P s → P (step line s).state) {s last : σ} {lines : List Text}
    {out : List (Airspace α)} (holds : P s) (fed : feed step s lines = .ok (last, out)) : P last := by
  induction lines generalizing s out with
  | nil =>
    cases fed
    exact holds
  | cons line rest ih =>
    obtain ⟨-, later, fed_rest, -⟩ := feed_cons_eq_ok.mp fed
    exact ih (keeps line s holds) fed_rest

/-- Two ways to read lines agree on every run if one is the other on an image of its
states. -/
theorem feed_map (step : Text → σ → Step α σ) (step' : Text → τ → Step α τ) (f : σ → τ)
    (same : ∀ line s, step' line (f s) = (step line s).map f) (s : σ) (lines : List Text) :
    feed step' (f s) lines = (feed step s lines).map fun (t, out) => (f t, out) := by
  induction lines generalizing s with
  | nil => rfl
  | cons line rest ih =>
    simp only [feed, same, Step.map_fault?, Step.map_state, Step.map_finished, ih]
    cases (step line s).fault? with
    | some f => rfl
    | none => cases feed step (step line s).state rest <;> rfl

/-- The fault in place of a result. -/
def Fault.of? {β : Type} : Except (Fault α) β → Option (Fault α)
  | .ok _ => none
  | .error f => some f

/-- What a history of events tells of a run: the fault that an event is, the airspaces that
it hands out, and which states agree with the history. -/
structure Account (α σ δ : Type) [Scalar α] where
  fault? : List δ → δ → Option (Fault α)
  handed : List δ → δ → List (Airspace α)
  Agrees : List δ → σ → Prop

namespace Account

/-- A line does what the account says of its event after a history. -/
structure Covers (a : Account α σ δ) (history : List δ) (event : δ) (done : Step α σ) : Prop where
  fault : done.fault? = a.fault? history event
  finished : a.fault? history event = none → done.finished = a.handed history event
  agrees : a.fault? history event = none → a.Agrees (history ++ [event]) done.state

section
variable {a : Account α σ δ} {history : List δ} {event : δ} {done : Step α σ}

theorem covers_of_sound (sound : a.fault? history event = none) (unbroken : done.fault? = none)
    (finished : done.finished = a.handed history event)
    (agrees : a.Agrees (history ++ [event]) done.state) : a.Covers history event done where
  fault := unbroken.trans sound.symm
  finished _ := finished
  agrees _ := agrees

theorem covers_fault {f : Fault α} (broken : a.fault? history event = some f)
    (stopped : done.fault? = some f) : a.Covers history event done where
  fault := stopped.trans broken.symm
  finished sound := by cases broken.symm.trans sound
  agrees sound := by cases broken.symm.trans sound

end

/-- The account of single lines extends to runs. -/
theorem feed_eq (a : Account α σ δ) (read : Text → δ) (step : Text → σ → Step α σ)
    (lines : List Text) {s : σ} (start : a.Agrees [] s)
    (covers : ∀ line ∈ lines, ∀ history t, a.Agrees history t →
      a.Covers history (read line) (step line t)) :
    match History.first? a.fault? (lines.map read) with
    | some f => feed step s lines = .error f
    | none => ∃ t, a.Agrees (lines.map read) t ∧
        feed step s lines = .ok (t, History.accumulate a.handed (lines.map read)) := by
  -- A history grows at its end, so it is the last line that is taken off.
  induction lines using List.reverseRecOn with
  | nil => exact ⟨s, start, rfl⟩
  | append_singleton lines line ih =>
    have before := ih fun earlier member => covers earlier (List.mem_append_left _ member)
    simp only [List.map_append, List.map_cons, List.map_nil, History.first?_concat]
    cases found : History.first? a.fault? (lines.map read) with
    | some f =>
      simp only [found] at before
      simp only [Option.some_or, feed_concat, before]
    | none =>
      simp only [found] at before
      obtain ⟨t, agrees, fed⟩ := before
      have covered := covers line (by simp) _ t agrees
      simp only [Option.none_or, feed_concat, fed, covered.fault]
      cases last : a.fault? (lines.map read) (read line) with
      | some f => rfl
      | none =>
        refine ⟨_, covered.agrees last, ?_⟩
        simp only [covered.finished last, History.accumulate_concat]

/-- A run and what its end hands out, if the history tells that as well. -/
theorem feed_closed (a : Account α σ δ) (read : Text → δ) (step : Text → σ → Step α σ)
    (lines : List Text) {s : σ} (last : σ → List (Airspace α)) (closing : List δ → List (Airspace α))
    (closes : ∀ history t, a.Agrees history t → last t = closing history) (start : a.Agrees [] s)
    (covers : ∀ line ∈ lines, ∀ history t, a.Agrees history t →
      a.Covers history (read line) (step line t)) :
    ((feed step s lines).map fun (t, out) => out ++ last t) =
      match History.first? a.fault? (lines.map read) with
      | some f => .error f
      | none => .ok (History.accumulate a.handed (lines.map read) ++ closing (lines.map read)) := by
  have fed := a.feed_eq read step lines start covers
  cases found : History.first? a.fault? (lines.map read) with
  | some f =>
    simp only [found] at fed
    simp only [fed, Except.map]
  | none =>
    simp only [found] at fed
    obtain ⟨t, agrees, fed⟩ := fed
    simp only [fed, Except.map, closes _ t agrees]

end Account
end Airspaces
