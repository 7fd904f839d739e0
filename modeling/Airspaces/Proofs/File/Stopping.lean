import Airspaces.Proofs.File.Cursor
/-! Runs that an operation may stop at a bad line. Up to the line at which it stops, a run is
the one that skips over all bad lines. -/
namespace Airspaces

variable {α : Type} [Scalar α]

namespace Ledger

/-- The ledger of a run that has been stopped. -/
def abort (l : Ledger α) : Ledger α := { l with halt := some .aborted }

/-- The answer to a warning has a say in nothing but whether the run goes on. -/
theorem dispatch_skips (g : Geodesy α) (skips : Int → Bool) (line : Text) (l : Ledger α) :
    l.dispatch g skips line =
      if (stepOf g l.kind line l.state).rejects = true ∧ skips l.linesRead = false then
        (l.dispatch g (fun _ => true) line).abort
      else l.dispatch g (fun _ => true) line := by
  unfold dispatch
  generalize stepOf g l.kind line l.state = done
  obtain ⟨state, finished, stop⟩ := done
  match stop with
  | none => rfl
  | some (.fault f) => rfl
  | some (.line e) =>
    dsimp only [Step.rejects]
    cases answer : skips l.linesRead <;> rfl

theorem take_skips (g : Geodesy α) (size tell : Nat) (skips : Int → Bool) (l : Ledger α)
    (raw : Text) :
    l.take g size skips raw tell =
      if (Cursor.take g raw l.cursor).rejects = true ∧ skips ((l.linesRead + 1 : Nat) : Int) = false
      then (l.take g size (fun _ => true) raw tell).abort
      else l.take g size (fun _ => true) raw tell := by
  obtain ⟨notices, counted, _⟩ := count_eq size tell l
  unfold Cursor.take take
  simp only [counted]
  by_cases blank : (stripComment raw).isEmpty
  · simp [blank]
  · simp only [blank, Bool.false_eq_true, if_false]
    exact dispatch_skips g skips (stripComment raw)
      { l with
        kind := Cursor.kindAfter (stripComment raw) l.kind
        linesRead := l.linesRead + 1
        notices }

/-- What a run makes of lines under an operation that may stop it. -/
inductive Reads (g : Geodesy α) (skips : Int → Bool) (l : Ledger α) (raws : List Text) :
    Ledger α → Prop where
  /-- A fault breaks the run off. -/
  | broken {l' : Ledger α} {f : Fault α} (halt : l'.halt = some (.fault f)) : Reads g skips l raws l'
  /-- All lines are read, and every bad line is skipped over. -/
  | finished {l' : Ledger α} {c : Cursor α} {out : List (Airspace α)}
      (ran : l.Ran g raws c out l')
      (passed : ∀ entry ∈ l.cursor.badLines g (l.linesRead + 1) raws, skips entry.1 = true) :
      Reads g skips l raws l'
  /-- The run ends with a bad line at which the operation stops, the first one of that kind. -/
  | stopped {l' : Ledger α} {c : Cursor α} {out : List (Airspace α)} {before after : List Text}
      {raw : Text} {early : List (Nat × Text)} (lines : raws = before ++ raw :: after)
      (ran : l.Ran g (before ++ [raw]) c out l')
      (bad : l.cursor.badLines g (l.linesRead + 1) (before ++ [raw]) =
        early ++ [(l'.linesRead, stripComment raw)])
      (passed : ∀ entry ∈ early, skips entry.1 = true) (refused : skips l'.linesRead = false) :
      Reads g skips l raws l'.abort

/-- One line more at the start of a run, if the run goes on after it. -/
theorem Did.reads {g : Geodesy α} {skips : Int → Bool} {l l₁ l₂ : Ledger α} {raw : Text}
    {rest : List Text}
    (did : l.Did (l.linesRead + 1) (stripComment raw) (Cursor.take g raw l.cursor) l₁)
    (goes : (Cursor.take g raw l.cursor).rejects = true → skips ((l.linesRead + 1 : Nat) : Int) = true)
    (reads : l₁.Reads g skips rest l₂) : l.Reads g skips (raw :: rest) l₂ := by
  have first : ∀ entry ∈ (if (Cursor.take g raw l.cursor).rejects = true then
      [(l.linesRead + 1, stripComment raw)] else []), skips entry.1 = true := by
    intro entry member
    split_ifs at member with rejected
    · rw [List.mem_singleton] at member
      rw [member]
      exact goes rejected
    · cases member
  have split : ∀ raws, l.cursor.badLines g (l.linesRead + 1) (raw :: raws) =
      (if (Cursor.take g raw l.cursor).rejects = true then
        [(l.linesRead + 1, stripComment raw)] else []) ++
        l₁.cursor.badLines g (l₁.linesRead + 1) raws := by
    intro raws
    rw [Cursor.badLines_cons, did.cursor, did.linesRead]
  cases reads with
  | broken halt => exact .broken halt
  | finished ran passed =>
    refine .finished (did.ran ran) ?_
    intro entry member
    rw [split] at member
    obtain now | later := List.mem_append.mp member
    · exact first entry now
    · exact passed entry later
  | stopped lines ran bad passed refused =>
    rename_i before after stop early
    have later : raw :: rest = (raw :: before) ++ stop :: after := by
      rw [lines]
      rfl
    have listed := (split (before ++ [stop])).trans
      ((congrArg _ bad).trans (List.append_assoc ..).symm)
    refine .stopped later (did.ran ran) listed ?_ refused
    intro entry member
    obtain now | later := List.mem_append.mp member
    · exact first entry now
    · exact passed entry later

theorem run_reads (g : Geodesy α) (size : Nat) (skips : Int → Bool) (l : Ledger α)
    (lines : List (Text × Nat)) (running : l.halt = none) :
    l.Reads g skips (lines.map (·.1)) (l.run g size skips lines) := by
  induction lines generalizing l with
  | nil => exact .finished (.nil g running) (by simp [Cursor.badLines, encounters])
  | cons first rest ih =>
    obtain ⟨raw, tell⟩ := first
    have did := take_did g size tell l raw running
    unfold run
    simp only [List.map_cons, take_skips g size tell skips]
    by_cases stops : (Cursor.take g raw l.cursor).rejects = true ∧
        skips ((l.linesRead + 1 : Nat) : Int) = false
    · obtain ⟨rejected, refused⟩ := stops
      simp only [rejected, refused, and_self, if_true]
      have goes := did.running (Step.fault?_of_rejects rejected)
      have alone : (l.take g size (fun _ => true) raw tell).linesRead = l.linesRead + 1 :=
        did.linesRead
      have listed : l.cursor.badLines g (l.linesRead + 1) ([] ++ [raw]) =
          [] ++ [((l.take g size (fun _ => true) raw tell).linesRead, stripComment raw)] := by
        rw [List.nil_append, Cursor.badLines_cons, if_pos rejected, alone]
        simp [Cursor.badLines, encounters]
      refine .stopped rfl (did.ran (.nil g goes)) listed (by simp) ?_
      rw [alone]
      exact refused
    · rw [if_neg stops]
      have goes : (Cursor.take g raw l.cursor).rejects = true →
          skips ((l.linesRead + 1 : Nat) : Int) = true := by
        intro rejected
        by_contra refused
        exact stops ⟨rejected, Bool.eq_false_iff.mpr refused⟩
      cases broken : (Cursor.take g raw l.cursor).fault? with
      | some f =>
        have halted := did.halted broken
        rw [halted]
        exact .broken halted
      | none =>
        have running₁ := did.running broken
        rw [running₁]
        exact did.reads goes (ih _ running₁)

/-- Without bad lines there is nothing for an operation to answer. -/
theorem run_skips {g : Geodesy α} {size : Nat} (skips : Int → Bool) {l : Ledger α}
    {lines : List (Text × Nat)} (running : l.halt = none)
    (clean : l.cursor.badLines g (l.linesRead + 1) (lines.map (·.1)) = []) :
    l.run g size skips lines = l.run g size (fun _ => true) lines := by
  induction lines generalizing l with
  | nil => rfl
  | cons first rest ih =>
    obtain ⟨raw, tell⟩ := first
    have did := take_did g size tell l raw running
    rw [List.map_cons, Cursor.badLines_cons, List.append_eq_nil_iff] at clean
    obtain ⟨now, later⟩ := clean
    have accepted : (Cursor.take g raw l.cursor).rejects ≠ true := by
      intro rejected
      rw [if_pos rejected] at now
      cases now
    have same : l.take g size skips raw tell = l.take g size (fun _ => true) raw tell := by
      rw [take_skips, if_neg fun both => accepted both.1]
    unfold run
    dsimp only
    rw [same]
    cases halted : (l.take g size (fun _ => true) raw tell).halt with
    | some reason => rfl
    | none =>
      rw [← did.cursor, ← did.linesRead] at later
      exact ih halted later

end Ledger

theorem parse_skips {g : Geodesy α} {source : Source} (skips : Int → Bool)
    (clean : ({} : Cursor α).badLines g 1 source.texts = []) :
    parse g skips source = parse g (fun _ => true) source := by
  unfold parse
  rw [Ledger.run_skips skips rfl clean]

end Airspaces
