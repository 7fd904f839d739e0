import Airspaces.File.Parse
import Airspaces.Proofs.Deletion
/-! What one line of a file leaves for the next: the kind of the file and the state of its
dialect. All else that a ledger keeps only grows, so a run that skips over line errors is
its lines fed to cursors. -/
namespace Airspaces

variable {α : Type} [Scalar α]

/-- What later lines see of a ledger. -/
structure Cursor (α : Type) [Scalar α] where
  kind : FileKind := .unknown
  state : Tnp.State α := {}

namespace Cursor

/-- The kind of a file after a line, which only a file of unknown kind learns from it. -/
def kindAfter (line : Text) (kind : FileKind) : FileKind :=
  if kind = .unknown then FileKind.detect line else kind

/-- What a line does that has no comment. -/
def read (g : Geodesy α) (line : Text) (c : Cursor α) : Step α (Cursor α) :=
  (Ledger.stepOf g (kindAfter line c.kind) line c.state).map (mk (kindAfter line c.kind))

/-- What a line does that the source hands out. -/
def take (g : Geodesy α) (raw : Text) (c : Cursor α) : Step α (Cursor α) :=
  if (stripComment raw).isEmpty then .leave c else read g (stripComment raw) c

/-- The bad lines of a run and their numbers, the first line having the given number. -/
def badLines (g : Geodesy α) (c : Cursor α) (first : Nat) (raws : List Text) :
    List (Nat × Text) :=
  ((encounters (take g) c raws).zipIdx first).filterMap fun ((c, raw), number) =>
    if (take g raw c).rejects then some (number, stripComment raw) else none

theorem badLines_cons (g : Geodesy α) (c : Cursor α) (first : Nat) (raw : Text)
    (rest : List Text) :
    c.badLines g first (raw :: rest) =
      (if (take g raw c).rejects then [(first, stripComment raw)] else []) ++
        (take g raw c).state.badLines g (first + 1) rest := by
  simp only [badLines, encounters, List.zipIdx_cons, List.filterMap_cons]
  cases (take g raw c).rejects <;> rfl

end Cursor

/-- The number and the text of a warning. -/
def Notice.warning? : Notice → Option (Int × Text)
  | warning number line => some (number, line)
  | _ => none

namespace Ledger

def cursor (l : Ledger α) : Cursor α := ⟨l.kind, l.state⟩

/-- The warnings that have been given are those about the bad lines. -/
def Warned (skipped : List (Nat × Text)) (notices : List Notice) : Prop :=
  notices.filterMap Notice.warning? = skipped.map fun (number, line) => ((number : Int), line)

/-- Counting a line changes nothing else, but progress may be told. -/
theorem count_eq (size tell : Nat) (l : Ledger α) :
    ∃ notices, l.count size tell = { l with linesRead := l.linesRead + 1, notices } ∧
      notices.toList.filterMap Notice.warning? = l.notices.toList.filterMap Notice.warning? := by
  unfold count
  dsimp only
  split_ifs
  · exact ⟨_, rfl, by simp [Notice.warning?]⟩
  · exact ⟨_, rfl, rfl⟩

/-- A line of a number did `done` to a ledger, where line errors are skipped over. -/
structure Did (l : Ledger α) (number : Nat) (line : Text) (done : Step α (Cursor α))
    (l' : Ledger α) : Prop where
  cursor : l'.cursor = done.state
  linesRead : l'.linesRead = number
  inserted : l'.inserted.toList = l.inserted.toList ++ done.finished
  skipped : l'.skipped.toList = l.skipped.toList ++ if done.rejects then [(number, line)] else []
  warned : Warned l.skipped.toList l.notices.toList → Warned l'.skipped.toList l'.notices.toList
  halt : l'.halt = done.fault?.map .fault

/-- Without a fault the run goes on. -/
theorem Did.running {l l' : Ledger α} {number : Nat} {line : Text} {done : Step α (Cursor α)}
    (did : l.Did number line done l') (sound : done.fault? = none) : l'.halt = none := by
  rw [did.halt, sound]
  rfl

theorem Did.halted {l l' : Ledger α} {number : Nat} {line : Text} {done : Step α (Cursor α)}
    {f : Fault α} (did : l.Did number line done l') (broken : done.fault? = some f) :
    l'.halt = some (.fault f) := by
  rw [did.halt, broken]
  rfl

theorem dispatch_did (g : Geodesy α) (l : Ledger α) (line : Text) (running : l.halt = none) :
    l.Did l.linesRead line ((stepOf g l.kind line l.state).map (Cursor.mk l.kind))
      (l.dispatch g (fun _ => true) line) := by
  unfold dispatch
  generalize stepOf g l.kind line l.state = done
  obtain ⟨state, finished, stop⟩ := done
  match stop with
  | none =>
    exact ⟨rfl, rfl, by simp, by simp [Step.rejects, Step.map], fun told => told, running⟩
  | some (.fault f) =>
    exact ⟨rfl, rfl, by simp, by simp [Step.rejects, Step.map], fun told => told, rfl⟩
  | some (.line e) =>
    refine ⟨rfl, rfl, by simp, by simp [Step.rejects, Step.map], ?_, rfl⟩
    intro told
    simpa [Warned, Notice.warning?] using told

theorem take_did (g : Geodesy α) (size tell : Nat) (l : Ledger α) (raw : Text)
    (running : l.halt = none) :
    l.Did (l.linesRead + 1) (stripComment raw) (Cursor.take g raw l.cursor)
      (l.take g size (fun _ => true) raw tell) := by
  obtain ⟨notices, counted, unwarned⟩ := count_eq size tell l
  unfold Cursor.take take
  simp only [counted]
  by_cases blank : (stripComment raw).isEmpty
  · simp only [blank, if_true]
    exact ⟨rfl, rfl, by simp [Step.leave], by simp [Step.leave, Step.rejects],
      fun told => unwarned.trans told, running⟩
  · simp only [blank]
    have did := dispatch_did g
      { l with
        kind := Cursor.kindAfter (stripComment raw) l.kind
        linesRead := l.linesRead + 1
        notices } (stripComment raw) running
    exact { did with warned := fun told => did.warned (unwarned.trans told) }

/-- Lines led from one ledger to another that handed out `out`, and the run goes on. -/
structure Ran (g : Geodesy α) (l : Ledger α) (raws : List Text) (c : Cursor α)
    (out : List (Airspace α)) (l' : Ledger α) : Prop where
  cursor : l'.cursor = c
  linesRead : l'.linesRead = l.linesRead + raws.length
  inserted : l'.inserted.toList = l.inserted.toList ++ out
  skipped : l'.skipped.toList = l.skipped.toList ++ l.cursor.badLines g (l.linesRead + 1) raws
  warned : Warned l.skipped.toList l.notices.toList → Warned l'.skipped.toList l'.notices.toList
  halt : l'.halt = none

theorem Ran.nil (g : Geodesy α) {l : Ledger α} (running : l.halt = none) :
    l.Ran g [] l.cursor [] l where
  cursor := rfl
  linesRead := rfl
  inserted := (List.append_nil _).symm
  skipped := by simp [Cursor.badLines, encounters]
  warned := id
  halt := running

/-- One line more at the start of a run. -/
theorem Did.ran {g : Geodesy α} {l l₁ l₂ : Ledger α} {raw : Text} {rest : List Text} {c : Cursor α}
    {out : List (Airspace α)}
    (did : l.Did (l.linesRead + 1) (stripComment raw) (Cursor.take g raw l.cursor) l₁)
    (ran : l₁.Ran g rest c out l₂) :
    l.Ran g (raw :: rest) c ((Cursor.take g raw l.cursor).finished ++ out) l₂ where
  cursor := ran.cursor
  linesRead := by
    rw [ran.linesRead, did.linesRead, List.length_cons]
    omega
  inserted := by rw [ran.inserted, did.inserted, List.append_assoc]
  skipped := by
    rw [ran.skipped, did.skipped, did.cursor, did.linesRead, Cursor.badLines_cons,
      List.append_assoc]
  warned told := ran.warned (did.warned told)
  halt := ran.halt

/-- A run that skips over line errors takes its lines as `feed` does. -/
theorem run_ran (g : Geodesy α) (size : Nat) (l : Ledger α) (lines : List (Text × Nat))
    (running : l.halt = none) :
    match feed (Cursor.take g) l.cursor (lines.map (·.1)) with
    | .error f => (l.run g size (fun _ => true) lines).halt = some (.fault f)
    | .ok (c, out) => l.Ran g (lines.map (·.1)) c out (l.run g size (fun _ => true) lines) := by
  induction lines generalizing l with
  | nil => exact .nil g running
  | cons first rest ih =>
    obtain ⟨raw, tell⟩ := first
    have did := take_did g size tell l raw running
    unfold run
    simp only [List.map_cons, feed]
    -- The first line decides whether there is a rest of the run to speak of.
    cases broken : (Cursor.take g raw l.cursor).fault? with
    | some f =>
      have halted := did.halted broken
      simp [halted]
    | none =>
      have goes := did.running broken
      have later := ih _ goes
      rw [did.cursor] at later
      simp only [goes, Option.isNone_none, if_true]
      cases fed : feed (Cursor.take g) (Cursor.take g raw l.cursor).state (rest.map (·.1)) with
      | error f => simpa [fed, Except.map] using later
      | ok result =>
        obtain ⟨c, out⟩ := result
        simp only [fed] at later
        exact did.ran later

end Ledger

/-- The failure with which a run ends, and the airspaces that its end hands out. -/
def Cursor.finish (c : Cursor α) :
    Source.Ending → Except (Fault α) (Option (FailureReason × Text) × List (Airspace α))
  | .stopped cause => .error (.reading cause)
  | .failed message => .ok (some (.source, message), [])
  | .finished =>
    if c.kind = .unknown then .ok (some (.unknownFileType, Ledger.unknownMessage), [])
    else .ok (none, c.state.record.pending)

def Source.texts (source : Source) : List Text := source.lines.map (·.1)

/-- What is left of a run that skipped over all line errors and came to its end. -/
structure Outcome.Ends (o : Outcome α) (kind : FileKind) (failure : Option (FailureReason × Text))
    (airspaces : List (Airspace α)) (linesRead : Nat) (skipped : List (Nat × Text)) : Prop where
  result : o.result = .ok { kind, failure, count := airspaces.length, linesRead, skipped }
  inserted : o.inserted = airspaces
  warned : Ledger.Warned skipped o.notices

theorem Ledger.close_ends (l : Ledger α) (running : l.halt = none)
    (told : Warned l.skipped.toList l.notices.toList) (ending : Source.Ending) :
    match l.cursor.finish ending with
    | .error f => (l.close ending).result = .error f
    | .ok (failure, last) =>
      (l.close ending).Ends l.kind failure (l.inserted.toList ++ last) l.linesRead
        l.skipped.toList := by
  unfold close
  rw [running]
  cases ending with
  | stopped cause => rfl
  | failed message =>
    exact ⟨by simp [fail, leave, result], by simp [fail, leave],
      by simpa [fail, leave, Warned, Notice.warning?, List.filterMap_cons] using told⟩
  | finished =>
    by_cases unknown : l.kind = .unknown
    · simp only [Cursor.finish, cursor, unknown, if_true]
      exact ⟨by simp [fail, leave, result, unknown], by simp [fail, leave],
        by simpa [fail, leave, Warned, Notice.warning?, List.filterMap_cons] using told⟩
    · simp only [Cursor.finish, cursor, unknown, if_false]
      exact ⟨by simp [leave, result, ← Array.length_toList], by simp [leave], told⟩

/-- A file that is read without regard to line errors is its lines, fed one after the other,
and its end. -/
theorem parse_skipping (g : Geodesy α) (source : Source) :
    match feed (Cursor.take g) {} source.texts with
    | .error f => (parse g (fun _ => true) source).result = .error f
    | .ok (c, out) =>
      match c.finish source.ending with
      | .error f => (parse g (fun _ => true) source).result = .error f
      | .ok (failure, last) =>
        (parse g (fun _ => true) source).Ends c.kind failure (out ++ last) source.texts.length
          (({} : Cursor α).badLines g 1 source.texts) := by
  have ran : match feed (Cursor.take g) {} source.texts with
      | .error f => (Ledger.start.run g source.size (fun _ => true) source.lines).halt =
          some (.fault f)
      | .ok (c, out) => Ledger.start.Ran g source.texts c out
          (Ledger.start.run g source.size (fun _ => true) source.lines) :=
    Ledger.run_ran g source.size .start source.lines rfl
  unfold parse
  generalize Ledger.start.run g source.size (fun _ => true) source.lines = l at ran ⊢
  cases fed : feed (Cursor.take g) {} source.texts with
  | error f =>
    simp only [fed] at ran
    simp only [Ledger.close, ran, Ledger.leave]
  | ok result =>
    obtain ⟨c, out⟩ := result
    simp only [fed] at ran
    have kind : l.kind = c.kind := by rw [← ran.cursor, Ledger.cursor]
    have inserted : l.inserted.toList = out := by simpa [Ledger.start] using ran.inserted
    have linesRead : l.linesRead = source.texts.length := by
      simpa [Ledger.start] using ran.linesRead
    have skipped : l.skipped.toList = ({} : Cursor α).badLines g 1 source.texts := by
      simpa [Ledger.start, Ledger.cursor] using ran.skipped
    have told : Ledger.Warned l.skipped.toList l.notices.toList := ran.warned rfl
    simpa only [ran.cursor, kind, inserted, linesRead, skipped] using
      l.close_ends ran.halt told source.ending

end Airspaces
