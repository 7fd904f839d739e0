import Airspaces.Proofs.File.Inserted
import Airspaces.Proofs.File.Result
/-! Runs that are cut short. A failing source or an operation that stops leaves the airspaces of
the lines that were read, all of them complete: the record that is open is lost. -/
namespace Airspaces

variable {α : Type} [Scalar α]

/-- A record is closed as one polygon at most. -/
theorem Record.pending_polygon (r : Record α) :
    r.pending.length ≤ 1 ∧
      ∀ airspace ∈ r.pending, ∃ points, airspace.shape = .polygon points := by
  unfold pending polygon
  split_ifs
  · simp
  · simp
  · refine ⟨Nat.le_refl _, ?_⟩
    intro airspace member
    rw [List.mem_singleton] at member
    exact ⟨r.points.toList, by rw [member]; rfl⟩

theorem Cursor.last_polygon (c : Cursor α) (ending : Source.Ending) :
    (c.last ending).length ≤ 1 ∧
      ∀ airspace ∈ c.last ending, ∃ points, airspace.shape = .polygon points := by
  cases ending with
  | stopped cause | failed message => exact ⟨Nat.zero_le _, by nofun⟩
  | finished =>
    unfold last finish
    by_cases unknown : c.kind = .unknown
    · simp [unknown]
    · simpa [unknown] using c.state.record.pending_polygon

/-- Nothing is handed out at the end of a source that fails. -/
theorem parse_failed_inserted (g : Geodesy α) {source : Source} {message : Text}
    (failed : source.ending = .failed message) :
    (parse g (fun _ => true) source).inserted = handedOut (Cursor.take g) {} source.texts := by
  rw [parse_inserted, failed]
  cases feed (Cursor.take g) {} source.texts <;> exact List.append_nil _

/-- A run that an operation stops is one over the lines that were read, which skips over all line
errors. -/
theorem Ledger.run_stopped {g : Geodesy α} {size : Nat} {skips : Int → Bool} {l : Ledger α}
    {lines : List (Text × Nat)} (running : l.halt = none)
    (halted : (l.run g size skips lines).halt = some .aborted) :
    ∃ n, (l.run g size skips lines).linesRead = l.linesRead + n ∧
      l.run g size skips lines = (l.run g size (fun _ => true) (lines.take n)).abort := by
  induction lines generalizing l with
  | nil => cases running.symm.trans halted
  | cons first rest ih =>
    obtain ⟨raw, tell⟩ := first
    have did := take_did g size tell l raw running
    simp only [run, take_skips g size tell skips] at halted ⊢
    by_cases refused : (Cursor.take g raw l.cursor).rejects = true ∧
        skips ((l.linesRead + 1 : Nat) : Int) = false
    · have goes := did.running (Step.fault?_of_rejects refused.1)
      rw [if_pos refused]
      exact ⟨1, did.linesRead, by simp [abort, goes, run]⟩
    · rw [if_neg refused] at halted ⊢
      cases broken : (Cursor.take g raw l.cursor).fault? with
      | some f =>
        have stopped := did.halted broken
        rw [stopped] at halted
        cases stopped.symm.trans halted
      | none =>
        have goes := did.running broken
        simp only [goes, Option.isNone_none, if_true] at halted ⊢
        obtain ⟨n, read, same⟩ := ih goes halted
        refine ⟨n + 1, ?_, ?_⟩
        · rw [read, did.linesRead]
          omega
        · simpa only [List.take_succ_cons, run, goes, Option.isNone_none, if_true] using same

/-- A warning that is answered by stopping is about the line that is read last. -/
theorem Ledger.Reads.stops {g : Geodesy α} {skips : Int → Bool} {source : Source} {l : Ledger α}
    {r : ParseResult} {k : Nat} {line : Text} (reads : start.Reads g skips source.texts l)
    (read : (l.close source.ending).result = .ok r)
    (warned : .warning k line ∈ (l.close source.ending).notices) (refused : skips k = false) :
    l.halt = some .aborted ∧ l.linesRead = k := by
  have told : ((k : Int), line) ∈ l.notices.toList.filterMap Notice.warning? := by
    rw [← close_warnings l source.ending]
    exact List.mem_filterMap.mpr ⟨_, warned, rfl⟩
  have listed : Warned l.skipped.toList l.notices.toList →
      ∃ entry ∈ l.skipped.toList, entry.1 = k := by
    intro same
    rw [same] at told
    obtain ⟨⟨number, text⟩, member, pair⟩ := List.mem_map.mp told
    exact ⟨(number, text), member, by simpa using congrArg Prod.fst pair⟩
  cases reads with
  | broken halt =>
    unfold close at read
    rw [halt] at read
    cases read
  | finished ran passed =>
    obtain ⟨_, skipped, same⟩ := ran.of_start
    obtain ⟨entry, member, rfl⟩ := listed same
    rw [skipped] at member
    cases refused.symm.trans (passed entry member)
  | stopped lines ran bad passed _ =>
    obtain ⟨_, skipped, same⟩ := ran.of_start
    obtain ⟨entry, member, rfl⟩ := listed same
    have member := (skipped.trans bad) ▸ member
    obtain early | last := List.mem_append.mp member
    · cases refused.symm.trans (passed entry early)
    · exact ⟨rfl, congrArg Prod.fst (List.mem_singleton.mp last).symm⟩

/-- A source that fails leaves the first airspaces of every run over more lines, and all but the
last polygon of a run over the same lines. An operation that stops at a line leaves those of the
lines up to this one. -/
theorem parse_interrupted (g : Geodesy α) (source : Source) (message : Text) :
    let interrupted := parse g (fun _ => true) { source with ending := .failed message }
    (∀ longer : Source, source.texts <+: longer.texts →
      interrupted.inserted <+: (parse g (fun _ => true) longer).inserted) ∧
    (∃ last,
      (parse g (fun _ => true) { source with ending := .finished }).inserted =
        interrupted.inserted ++ last ∧
      last.length ≤ 1 ∧ ∀ airspace ∈ last, ∃ points, airspace.shape = .polygon points) ∧
    ∀ skips r (k : Nat) line, (parse g skips source).result = .ok r →
      .warning k line ∈ (parse g skips source).notices → skips k = false →
        r.linesRead = k ∧
          (parse g skips source).inserted =
            (parse g (fun _ => true) { source.cut k with ending := .failed message }).inserted := by
  intro interrupted
  have alone : interrupted.inserted = handedOut (Cursor.take g) {} source.texts :=
    parse_failed_inserted g rfl
  refine ⟨?_, ?_, ?_⟩
  · rintro longer ⟨more, texts⟩
    rw [alone, parse_inserted, ← texts, handedOut_append, List.append_assoc]
    exact List.prefix_append _ _
  · refine ⟨_, (parse_inserted g _).trans (congrArg (· ++ _) alone.symm), ?_⟩
    cases feed (Cursor.take g) {} ({ source with ending := .finished } : Source).texts with
    | error f => simp
    | ok result => exact result.1.last_polygon .finished
  · intro skips r k line read warned refused
    have reads : Ledger.start.Reads g skips source.texts
        (Ledger.start.run g source.size skips source.lines) :=
      Ledger.run_reads g source.size skips .start source.lines rfl
    obtain ⟨halted, last⟩ := reads.stops read warned refused
    obtain ⟨n, counted, same⟩ := Ledger.run_stopped rfl halted
    have number : n = k := by
      rw [← last, counted]
      exact (Nat.zero_add n).symm
    obtain ⟨linesRead, _⟩ := Ledger.close_ok read
    refine ⟨linesRead.trans last, ?_⟩
    have cut : (source.lines.take k).map (·.1) = source.texts.take k := List.map_take
    rw [parse_failed_inserted g rfl, parse, Ledger.close_inserted, halted, same, number]
    exact (List.append_nil _).trans
      (Ledger.run_inserted g source.size .start (source.lines.take k) rfl)

theorem parse_interrupted_at_bad_circle :
    let source : Source := {
      size := 0
      lines := [
        ("TYPE=R".toList, 1),
        ("POINT=N533813 E0095943".toList, 2),
        ("TYPE=D".toList, 3),
        ("POINT=N523333 E0131603".toList, 4),
        ("CIRCLE RADIUS=".toList, 5)]
      ending := .finished }
    let longer : Source := {
      size := 160
      lines := source.lines ++ [("POINT=garbage".toList, 6), ("TYPE=C".toList, 7)]
      ending := .finished }
    let interrupted := parse .still (fun _ => true) { source with ending := .failed [] }
    interrupted.inserted.length = 1 ∧
      interrupted.inserted <+: (parse .still (fun _ => true) longer).inserted ∧
      (parse .still (· ≠ 5) source).inserted =
        (parse .still (fun _ => true) { source.cut 5 with ending := .failed [] }).inserted := by
  intro source longer interrupted
  have warned : .warning (5 : Nat) "CIRCLE RADIUS=".toList ∈
      (parse .still (· ≠ 5) source).notices := by decide +kernel
  have returns : (parse .still (· ≠ 5) source).result.toOption.isSome := by decide +kernel
  obtain ⟨first, _, stopped⟩ := parse_interrupted .still source []
  refine ⟨by decide +kernel, first longer ⟨_, List.map_append.symm⟩, ?_⟩
  cases read : (parse .still (· ≠ 5) source).result with
  | error f =>
    rw [read] at returns
    cases returns
  | ok r => exact (stopped _ r 5 _ read warned rfl).2

end Airspaces
