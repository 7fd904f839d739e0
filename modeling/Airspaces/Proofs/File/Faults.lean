import Airspaces.Proofs.File.Stopping
import Airspaces.Proofs.OpenAir.Faults
import Airspaces.Proofs.Tnp.Faults
/-! Runs that have no result. What breaks a run off is a curve without points, or in a TNP file
a digit group without a value. -/
namespace Airspaces

variable {α : Type} [Scalar α] {g : Geodesy α}

/-- The fault that breaks a run off is that of one of its lines, met in a state that the lines
before it left. -/
theorem Ledger.run_fault {skips : Int → Bool} {P : Cursor α → Prop} {f : Fault α} (size : Nat)
    (l : Ledger α) (lines : List (Text × Nat)) (running : l.halt = none) (start : P l.cursor)
    (keeps : ∀ c, ∀ raw ∈ lines.map (·.1), P c → P (Cursor.take g raw c).state)
    (halted : (l.run g size skips lines).halt = some (.fault f)) :
    ∃ c, P c ∧ ∃ raw ∈ lines.map (·.1), (Cursor.take g raw c).fault? = some f := by
  induction lines generalizing l with
  | nil => cases running.symm.trans halted
  | cons first rest ih =>
    obtain ⟨raw, tell⟩ := first
    have did := take_did g size tell l raw running
    have here : raw ∈ ((raw, tell) :: rest).map (·.1) := List.mem_cons_self
    unfold run at halted
    simp only [take_skips g size tell skips] at halted
    by_cases refused : (Cursor.take g raw l.cursor).rejects = true ∧
        skips ((l.linesRead + 1 : Nat) : Int) = false
    · -- A run that is stopped is not broken off.
      rw [if_pos refused] at halted
      cases halted
    · rw [if_neg refused] at halted
      cases broken : (Cursor.take g raw l.cursor).fault? with
      | some h =>
        have stopped := did.halted broken
        rw [stopped] at halted
        cases stopped.symm.trans halted
        exact ⟨l.cursor, start, raw, here, broken⟩
      | none =>
        have goes := did.running broken
        have later : P (l.take g size (fun _ => true) raw tell).cursor := by
          rw [did.cursor]
          exact keeps _ raw here start
        rw [goes] at halted
        obtain ⟨c, kept, line, member, found⟩ := ih _ goes later
          (fun c line member => keeps c line (List.mem_cons_of_mem _ member)) halted
        exact ⟨c, kept, line, List.mem_cons_of_mem _ member, found⟩

/-- A run without a result has met a fault, or its source has stopped. -/
theorem Ledger.close_error {l : Ledger α} {ending : Source.Ending} {f : Fault α}
    (broken : (l.close ending).result = .error f) :
    l.halt = some (.fault f) ∨ ∃ cause, ending = .stopped cause := by
  unfold close at broken
  split at broken
  · rename_i halted
    cases broken
    exact .inl halted
  · cases broken
  · cases ending with
    | stopped cause => exact .inr ⟨cause, rfl⟩
    | failed message => cases broken
    | finished =>
      dsimp only at broken
      split_ifs at broken
      · cases broken
      · cases broken

theorem Ledger.stepOf_turns (g : Geodesy α) (kind : FileKind) (line : Text) {s : Tnp.State α}
    (turns : s.record.Turns) : (stepOf g kind line s).state.record.Turns := by
  cases kind with
  | unknown => exact turns
  | openAir => exact OpenAir.step_turns g line turns
  | tnp => exact Tnp.step_turns g line turns

namespace Cursor

/-- What holds of every cursor of a run over lines. -/
structure Sound (raws : List Text) (c : Cursor α) : Prop where
  turns : c.state.record.Turns
  told : c.kind = .tnp → ∃ raw ∈ raws, FileKind.detect (stripComment raw) = .tnp

theorem sound_start (raws : List Text) : Sound raws ({} : Cursor α) where
  turns := ⟨.clockwise, rfl⟩
  told known := by cases known

/-- A file is TNP after a line only if that line or an earlier one has told so. -/
theorem Sound.kindAfter {raws : List Text} {c : Cursor α} {raw : Text} (sound : Sound raws c)
    (member : raw ∈ raws) (known : Cursor.kindAfter (stripComment raw) c.kind = .tnp) :
    ∃ raw ∈ raws, FileKind.detect (stripComment raw) = .tnp := by
  unfold Cursor.kindAfter at known
  split_ifs at known
  · exact ⟨raw, member, known⟩
  · exact sound.told known

theorem Sound.take {raws : List Text} {c : Cursor α} {raw : Text} (sound : Sound raws c)
    (member : raw ∈ raws) : Sound raws (take g raw c).state := by
  unfold Cursor.take
  split_ifs
  · exact sound
  · constructor
    · exact Ledger.stepOf_turns g _ _ sound.turns
    · exact sound.kindAfter member

theorem Sound.take_fault {raws : List Text} {c : Cursor α} {raw : Text} {f : Fault α}
    (sound : Sound raws c) (member : raw ∈ raws) (broken : (Cursor.take g raw c).fault? = some f) :
    g.Fails f ∨
      (∃ raw ∈ raws, FileKind.detect (stripComment raw) = .tnp) ∧ Position.GroupFault raw f := by
  unfold Cursor.take at broken
  split_ifs at broken with blank
  · cases broken
  · have step : (Ledger.stepOf g (Cursor.kindAfter (stripComment raw) c.kind) (stripComment raw)
        c.state).fault? = some f := broken
    cases known : Cursor.kindAfter (stripComment raw) c.kind with
    | unknown =>
      rw [known] at step
      cases step
    | openAir =>
      rw [known] at step
      have filled : stripComment raw ≠ [] := by simpa using blank
      exact .inl (OpenAir.step_fault sound.turns filled step)
    | tnp =>
      rw [known] at step
      obtain number | fails := Tnp.step_fault step
      · exact .inr ⟨sound.kindAfter member known,
          number.mono (stripComment_part raw)⟩
      · exact .inl fails

end Cursor

/-- A run whose source comes to an end has a result, or what broke it off is a curve without
points, or in a TNP file a digit group without a value. With points for every curve, and no group
of digits that is too long or out of range, there is a result whatever the lines are and whatever
the operation answers. -/
theorem parse_returns (g : Geodesy α) (skips : Int → Bool) (source : Source)
    (whole : ∀ cause, source.ending ≠ .stopped cause) :
    ((∃ r, (parse g skips source).result = .ok r) ∨
      ∃ f, (parse g skips source).result = .error f ∧
        (g.Fails f ∨
          (∃ raw ∈ source.texts, FileKind.detect (stripComment raw) = .tnp) ∧
            ∃ raw ∈ source.texts, Position.GroupFault raw f)) ∧
    (g.Tessellates →
      (∀ raw ∈ source.texts, ∀ digits, digits <:+: raw → (∀ c ∈ digits, c.isDigit = true) →
        digits.length ≤ Position.groupLimit ∧
          (Scalar.ofNat? (Digits.value digits / 10000) : Option α).isSome) →
      ∃ r, (parse g skips source).result = .ok r) := by
  have outcome : (∃ r, (parse g skips source).result = .ok r) ∨
      ∃ f, (parse g skips source).result = .error f ∧
        (g.Fails f ∨
          (∃ raw ∈ source.texts, FileKind.detect (stripComment raw) = .tnp) ∧
            ∃ raw ∈ source.texts, Position.GroupFault raw f) := by
    cases read : (parse g skips source).result with
    | ok r => exact .inl ⟨r, rfl⟩
    | error f =>
      obtain halted | ⟨cause, stopped⟩ := Ledger.close_error read
      · obtain ⟨c, sound, raw, member, broken⟩ :=
          Ledger.run_fault source.size .start source.lines rfl (Cursor.sound_start source.texts)
            (fun c raw member sound => sound.take member) halted
        obtain fails | ⟨told, number⟩ := sound.take_fault member broken
        · exact .inr ⟨f, rfl, .inl fails⟩
        · exact .inr ⟨f, rfl, .inr ⟨told, raw, member, number⟩⟩
      · exact absurd stopped (whole cause)
  refine ⟨outcome, ?_⟩
  intro tessellates readable
  obtain returned | ⟨f, _, fails | ⟨_, raw, member, digits, within, all_digits, broken⟩⟩ := outcome
  · exact returned
  · exact absurd fails (tessellates.not_fails f)
  · obtain ⟨short, inRange⟩ := readable raw member digits within all_digits
    obtain ⟨degrees, valued⟩ := Position.ofGroup_readable short inRange
    cases valued.symm.trans broken

theorem parse_returns_of_garbage :
    let source : Source := {
      size := 0
      lines := [
        ("TYPE=R".toList, 1),
        ("POINT=N533813 E0095943".toList, 2),
        ("CLOCKWISE RADIUS=5 CENTRE=N533813 E0095943 TO=N523333 E0131603".toList, 3),
        ("POINT=S999999999999999999999999 E0095943".toList, 4),
        ("CIRCLE RADIUS=".toList, 5)]
      ending := .failed "read failed".toList }
    (∀ cause, source.ending ≠ .stopped cause) ∧ Geodesy.still.Tessellates ∧
      ∃ r, (parse .still (· ≠ 5) source).result = .ok r := by
  intro source
  have whole : ∀ cause, source.ending ≠ .stopped cause := by
    intro cause
    nofun
  have short : ∀ raw ∈ source.texts, raw.length ≤ Position.groupLimit := by decide +kernel
  refine ⟨whole, Geodesy.still_total.tessellates, ?_⟩
  apply (parse_returns .still (· ≠ 5) source whole).2 Geodesy.still_total.tessellates
  intro raw member digits within _
  exact ⟨within.length_le.trans (short raw member), rfl⟩

/-- A TNP file with a circle around a place whose degrees are beyond the largest number. -/
def Source.outOfRange : Source where
  size := 0
  lines := [
    ("TYPE=R".toList, 1),
    ("CIRCLE RADIUS=17.00 CENTRE=N".toList ++ List.replicate 400 '9' ++ " E0095943".toList, 2)]
  ending := .finished

/-- An OpenAir file with a sector whose radius is beyond the largest number. -/
def Source.boundless : Source where
  size := 0
  lines := [
    ("AC R".toList, 1),
    ("DA ".toList ++ List.replicate 400 '9' ++ ",0,90".toList, 2)]
  ending := .finished

/-- On the sphere a number on a line can break a run off in either dialect. -/
theorem parse_breaks_off :
    Source.outOfRange.ending = .finished ∧ Source.boundless.ending = .finished ∧
      (¬ ∃ r, (parse Sphere.geodesy (fun _ => true) .outOfRange).result = .ok r) ∧
      ¬ ∃ r, (parse Sphere.geodesy (fun _ => true) .boundless).result = .ok r := by
  have none_read : ∀ source ∈ [Source.outOfRange, Source.boundless],
      (parse Sphere.geodesy (fun _ => true) source).result.toOption.isNone := by decide +kernel
  have broken : ∀ source ∈ [Source.outOfRange, Source.boundless],
      ¬ ∃ r, (parse Sphere.geodesy (fun _ => true) source).result = .ok r := by
    rintro source member ⟨r, read⟩
    have none_here := none_read source member
    rw [read] at none_here
    cases none_here
  exact ⟨rfl, rfl, broken .outOfRange (by simp), broken .boundless (by simp)⟩

end Airspaces
