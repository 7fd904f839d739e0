import Airspaces.Proofs.File.Cursor
/-! What a run inserts, whatever its end is. The lines up to the first fault decide about it, and
only a regular end hands out the record that is open. -/
namespace Airspaces

variable {α : Type} [Scalar α] {σ : Type}

/-- The airspaces that lines hand out. A line with a fault is the last one. -/
def handedOut (step : Text → σ → Step α σ) : σ → List Text → List (Airspace α)
  | _, [] => []
  | s, line :: rest =>
    (step line s).finished ++
      match (step line s).fault? with
      | some _ => []
      | none => handedOut step (step line s).state rest

/-- More lines hand out more, unless a fault comes before them. -/
theorem handedOut_append (step : Text → σ → Step α σ) (s : σ) (before after : List Text) :
    handedOut step s (before ++ after) =
      handedOut step s before ++
        match feed step s before with
        | .error _ => []
        | .ok (t, _) => handedOut step t after := by
  induction before generalizing s with
  | nil => rfl
  | cons line rest ih =>
    rw [List.cons_append, handedOut, handedOut, feed]
    cases (step line s).fault? with
    | some f => simp
    | none =>
      dsimp only
      rw [ih, List.append_assoc]
      cases feed step (step line s).state rest <;> rfl

/-- What the end of a run hands out. -/
def Cursor.last (c : Cursor α) (ending : Source.Ending) : List (Airspace α) :=
  match c.finish ending with
  | .error _ => []
  | .ok (_, last) => last

namespace Ledger

theorem run_inserted (g : Geodesy α) (size : Nat) (l : Ledger α) (lines : List (Text × Nat))
    (running : l.halt = none) :
    (l.run g size (fun _ => true) lines).inserted.toList =
      l.inserted.toList ++ handedOut (Cursor.take g) l.cursor (lines.map (·.1)) := by
  induction lines generalizing l with
  | nil => exact (List.append_nil _).symm
  | cons first rest ih =>
    obtain ⟨raw, tell⟩ := first
    have did := take_did g size tell l raw running
    rw [run, List.map_cons, handedOut]
    cases broken : (Cursor.take g raw l.cursor).fault? with
    | some f =>
      simp only [did.halted broken, Option.isNone_some, Bool.false_eq_true, if_false,
        List.append_nil]
      exact did.inserted
    | none =>
      have goes := did.running broken
      simp only [goes, Option.isNone_none, if_true]
      rw [ih _ goes, did.inserted, did.cursor, List.append_assoc]

theorem close_inserted (l : Ledger α) (ending : Source.Ending) :
    (l.close ending).inserted =
      l.inserted.toList ++ if l.halt.isNone then l.cursor.last ending else [] := by
  unfold close
  cases l.halt with
  | some reason => cases reason <;> exact (List.append_nil _).symm
  | none =>
    cases ending with
    | stopped cause | failed message => exact (List.append_nil _).symm
    | finished =>
      by_cases unknown : l.kind = .unknown
      · simp [unknown, Cursor.last, Cursor.finish, cursor, fail, leave]
      · simp [unknown, Cursor.last, Cursor.finish, cursor, leave]

end Ledger

/-- A run that skips over line errors inserts what its lines hand out and what its end hands out. -/
theorem parse_inserted (g : Geodesy α) (source : Source) :
    (parse g (fun _ => true) source).inserted =
      handedOut (Cursor.take g) {} source.texts ++
        match feed (Cursor.take g) {} source.texts with
        | .error _ => []
        | .ok (c, _) => c.last source.ending := by
  have ran : match feed (Cursor.take g) {} source.texts with
      | .error f => (Ledger.start.run g source.size (fun _ => true) source.lines).halt =
          some (.fault f)
      | .ok (c, out) => Ledger.start.Ran g source.texts c out
          (Ledger.start.run g source.size (fun _ => true) source.lines) :=
    Ledger.run_ran g source.size .start source.lines rfl
  have inserted : (Ledger.start.run g source.size (fun _ => true) source.lines).inserted.toList =
      handedOut (Cursor.take g) {} source.texts :=
    Ledger.run_inserted g source.size .start source.lines rfl
  rw [parse, Ledger.close_inserted, inserted]
  cases fed : feed (Cursor.take g) {} source.texts with
  | error f =>
    simp only [fed] at ran
    simp only [ran, Option.isNone_some, Bool.false_eq_true, if_false]
  | ok result =>
    obtain ⟨c, out⟩ := result
    simp only [fed] at ran
    simp only [ran.halt, ran.cursor, Option.isNone_none, if_true]

end Airspaces
