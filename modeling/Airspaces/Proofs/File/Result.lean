import Airspaces.Database
import Airspaces.Proofs.File.Stopping
import Airspaces.Proofs.Tessellation
/-! The result of a run is an exact account of it: of the lines that were read, of the bad ones
among them and of the answers they got, of the airspaces that were handed out, and of the way in
which the run ended. -/
namespace Airspaces

variable {α : Type} [Scalar α]

/-- The message of an error. -/
def Notice.error? : Notice → Option Text
  | error message => some message
  | _ => none

/-- The source of the first lines only. -/
def Source.cut (source : Source) (n : Nat) : Source :=
  { source with lines := source.lines.take n }

namespace Ledger

section
variable (g : Geodesy α) (size : Nat) (skips : Int → Bool)

theorem dispatch_linesRead (line : Text) (l : Ledger α) :
    (l.dispatch g skips line).linesRead = l.linesRead := by
  unfold dispatch
  dsimp only
  split <;> rfl

/-- No line is told as an error. -/
theorem dispatch_errors (line : Text) (l : Ledger α) :
    (l.dispatch g skips line).notices.toList.filterMap Notice.error? =
      l.notices.toList.filterMap Notice.error? := by
  unfold dispatch
  dsimp only
  split
  · rfl
  · rfl
  · simp [Notice.error?]

theorem count_errors (tell : Nat) (l : Ledger α) :
    (l.count size tell).notices.toList.filterMap Notice.error? =
      l.notices.toList.filterMap Notice.error? := by
  unfold count
  dsimp only
  split_ifs
  · simp [Notice.error?]
  · rfl

theorem take_linesRead (l : Ledger α) (raw : Text) (tell : Nat) :
    (l.take g size skips raw tell).linesRead = l.linesRead + 1 := by
  obtain ⟨notices, counted, _⟩ := count_eq size tell l
  have counts : (l.count size tell).linesRead = l.linesRead + 1 := by rw [counted]
  unfold take
  dsimp only
  by_cases blank : (stripComment raw).isEmpty
  · rw [if_pos blank, counts]
  · rw [if_neg blank, dispatch_linesRead, counts]

theorem take_errors (l : Ledger α) (raw : Text) (tell : Nat) :
    (l.take g size skips raw tell).notices.toList.filterMap Notice.error? =
      l.notices.toList.filterMap Notice.error? := by
  unfold take
  dsimp only
  by_cases blank : (stripComment raw).isEmpty
  · rw [if_pos blank, count_errors]
  · rw [if_neg blank, dispatch_errors, count_errors]

theorem run_errors (l : Ledger α) (lines : List (Text × Nat)) :
    (l.run g size skips lines).notices.toList.filterMap Notice.error? =
      l.notices.toList.filterMap Notice.error? := by
  induction lines generalizing l with
  | nil => rfl
  | cons first rest ih =>
    obtain ⟨raw, tell⟩ := first
    unfold run
    dsimp only
    split_ifs
    · rw [ih, take_errors]
    · exact take_errors g size skips l raw tell

/-- A run counts the lines that it reads, and does not depend on others. -/
theorem run_take (l : Ledger α) (lines : List (Text × Nat)) :
    ∃ n ≤ lines.length, (l.run g size skips lines).linesRead = l.linesRead + n ∧
      l.run g size skips (lines.take n) = l.run g size skips lines := by
  induction lines generalizing l with
  | nil => exact ⟨0, Nat.le_refl _, rfl, rfl⟩
  | cons first rest ih =>
    obtain ⟨raw, tell⟩ := first
    have counted := take_linesRead g size skips l raw tell
    cases halted : (l.take g size skips raw tell).halt with
    | none =>
      obtain ⟨n, bound, read, same⟩ := ih (l.take g size skips raw tell)
      refine ⟨n + 1, Nat.succ_le_succ bound, ?_, ?_⟩
      · simp only [run, halted, Option.isNone_none, if_true]
        omega
      · simpa only [List.take_succ_cons, run, halted, Option.isNone_none, if_true] using same
    | some reason =>
      refine ⟨1, Nat.succ_le_succ (Nat.zero_le _), ?_, ?_⟩
      · simpa only [run, halted, Option.isNone_some, Bool.false_eq_true, if_false] using counted
      · simp only [List.take_succ_cons, List.take_zero, run, halted, Option.isNone_some,
          Bool.false_eq_true, if_false]
end

/-- Whatever the ending, a result is that of the ledger. -/
theorem close_ok {l : Ledger α} {ending : Source.Ending} {r : ParseResult}
    (read : (l.close ending).result = .ok r) :
    r.linesRead = l.linesRead ∧ r.skipped = l.skipped.toList ∧
      r.count = (l.close ending).inserted.length := by
  unfold close at read ⊢
  split at read
  · cases read
  · cases read
    simp [leave, result]
  · cases ending with
    | stopped cause => cases read
    | failed message =>
      cases read
      simp [fail, leave, result]
    | finished =>
      dsimp only at read ⊢
      split_ifs at read ⊢
      · cases read
        simp [fail, leave, result]
      · cases read
        simp [leave, result, ← Array.length_toList]

/-- The end of a run gives no warning. -/
theorem close_warnings (l : Ledger α) (ending : Source.Ending) :
    (l.close ending).notices.filterMap Notice.warning? =
      l.notices.toList.filterMap Notice.warning? := by
  unfold close
  split
  · rfl
  · rfl
  · cases ending with
    | stopped cause => rfl
    | failed message => simp [fail, leave, Notice.warning?]
    | finished =>
      dsimp only
      split_ifs
      · simp [fail, leave, Notice.warning?]
      · rfl

/-- What a run from the start keeps of its lines. -/
theorem Ran.of_start {g : Geodesy α} {raws : List Text} {c : Cursor α} {out : List (Airspace α)}
    {l : Ledger α} (ran : start.Ran g raws c out l) :
    l.linesRead = raws.length ∧ l.skipped.toList = ({} : Cursor α).badLines g 1 raws ∧
      Warned l.skipped.toList l.notices.toList := by
  refine ⟨?_, ?_, ran.warned rfl⟩
  · simpa [start] using ran.linesRead
  · simpa [start, Ledger.cursor] using ran.skipped

end Ledger

namespace ParseResult

/-- The answers to the warnings of a run, the last of which stopped it if there is a `last`. -/
def Answered (skips : Int → Bool) (r : ParseResult) (last : Option (Nat × Text)) : Prop :=
  ∃ early, r.skipped = early ++ last.toList ∧ (∀ entry ∈ early, skips entry.1 = true) ∧
    ∀ entry ∈ last, skips entry.1 = false

/-- What a result says of the way in which its run ended, when `errors` have been told. -/
def Ending (skips : Int → Bool) (source : Source) (errors : List Text) (r : ParseResult) : Prop :=
  match r.failure with
  | none =>
    source.ending = .finished ∧ r.kind ≠ .unknown ∧ r.linesRead = source.lines.length ∧
      r.Answered skips none ∧ errors = [] ∧ r.toExcept = .ok r
  | some (.unknownFileType, message) =>
    source.ending = .finished ∧ r.kind = .unknown ∧ r.linesRead = source.lines.length ∧
      r.Answered skips none ∧ errors = [message] ∧
      r.toExcept = .error (.parse ⟨.unknownFileType, message, .nothing⟩)
  | some (.source, message) =>
    source.ending = .failed message ∧ r.linesRead = source.lines.length ∧
      r.Answered skips none ∧ errors = [message] ∧ r.toExcept = .error (.source message)
  | some (.aborted, message) =>
    errors = [] ∧ ∃ line, r.Answered skips (some (r.linesRead, line)) ∧
      r.toExcept = .error (.parse (.aborted message r.linesRead line))

end ParseResult

namespace Ledger

/-- A run that went to the end of its lines. -/
theorem close_finished {skips : Int → Bool} {source : Source} {l : Ledger α} {r : ParseResult}
    (read : (l.close source.ending).result = .ok r) (running : l.halt = none)
    (lines : l.linesRead = source.lines.length)
    (passed : ∀ entry ∈ l.skipped.toList, skips entry.1 = true)
    (quiet : l.notices.toList.filterMap Notice.error? = []) :
    r.Ending skips source ((l.close source.ending).notices.filterMap Notice.error?) := by
  have answered : ∀ r : ParseResult, r.skipped = l.skipped.toList → r.Answered skips none := by
    intro r same
    exact ⟨l.skipped.toList, by simpa using same, passed, by simp⟩
  unfold close at read ⊢
  rw [running] at read ⊢
  dsimp only at read ⊢
  cases ended : source.ending with
  | stopped cause =>
    rw [ended] at read
    cases read
  | failed message =>
    rw [ended] at read
    cases read
    exact ⟨ended, lines, answered _ rfl, by simp [fail, leave, quiet, Notice.error?], rfl⟩
  | finished =>
    rw [ended] at read
    dsimp only at read ⊢
    split_ifs at read ⊢ with unknown
    · cases read
      exact ⟨ended, unknown, lines, answered _ rfl, by simp [fail, leave, quiet, Notice.error?], rfl⟩
    · cases read
      exact ⟨ended, unknown, lines, answered _ rfl, quiet, rfl⟩

/-- A run that was stopped at a bad line. -/
theorem close_abort {skips : Int → Bool} {source : Source} {l : Ledger α} {r : ParseResult}
    {early : List (Nat × Text)} {line : Text}
    (read : (l.abort.close source.ending).result = .ok r)
    (bad : l.skipped.toList = early ++ [(l.linesRead, line)])
    (passed : ∀ entry ∈ early, skips entry.1 = true) (refused : skips l.linesRead = false)
    (quiet : l.notices.toList.filterMap Notice.error? = []) :
    r.Ending skips source ((l.abort.close source.ending).notices.filterMap Notice.error?) := by
  cases read
  refine ⟨quiet, line, ⟨early, bad, passed, ?_⟩, ?_⟩
  · intro entry member
    cases member
    exact refused
  · have last : l.skipped.toList.getLast? = some (l.linesRead, line) := by
      rw [bad, List.getLast?_concat]
    simp only [ParseResult.toExcept, result, abort, last, Option.getD_some]

end Ledger

/-- The bad lines of a run stand under the numbers of their lines. -/
theorem Cursor.badLines_numbered (g : Geodesy α) (c : Cursor α) (first : Nat) (raws : List Text) :
    ∀ entry ∈ c.badLines g first raws, first ≤ entry.1 ∧
      ∃ raw, raws[entry.1 - first]? = some raw ∧ entry.2 = stripComment raw := by
  intro entry member
  obtain ⟨⟨⟨c', raw⟩, number⟩, met, told⟩ := List.mem_filterMap.mp member
  dsimp only at told
  split_ifs at told
  cases told
  obtain ⟨bound, place⟩ := List.mem_zipIdx_iff_le_and_getElem?_sub.mp met
  refine ⟨bound, raw, ?_, rfl⟩
  rw [← encounters_texts (take g) c raws, List.getElem?_map, place]
  rfl

/-- They stand in the order of the lines, each line once. -/
theorem Cursor.badLines_increasing (g : Geodesy α) (c : Cursor α) (first : Nat)
    (raws : List Text) : ((c.badLines g first raws).map (·.1)).Pairwise (· < ·) := by
  induction raws generalizing c first with
  | nil => exact List.Pairwise.nil
  | cons raw rest ih =>
    rw [badLines_cons]
    split_ifs
    · rw [List.singleton_append, List.map_cons, List.pairwise_cons]
      refine ⟨?_, ih _ _⟩
      intro number later
      obtain ⟨entry, member, rfl⟩ := List.mem_map.mp later
      exact (badLines_numbered g _ _ rest entry member).1
    · exact ih _ _

/-- What a run leaves behind in full: its lines, its bad lines and its airspaces, counted and
listed in the result as they were. -/
structure Outcome.Accounts (g : Geodesy α) (skips : Int → Bool) (source : Source) (o : Outcome α)
    (r : ParseResult) : Prop where
  /-- No line beyond those that are counted has been read. -/
  cut : r.linesRead ≤ source.lines.length ∧ parse g skips (source.cut r.linesRead) = o
  skipped : r.skipped = ({} : Cursor α).badLines g 1 (source.texts.take r.linesRead)
  numbered : ∀ entry ∈ r.skipped, 1 ≤ entry.1 ∧
    ∃ raw, source.texts[entry.1 - 1]? = some raw ∧ entry.2 = stripComment raw
  increasing : (r.skipped.map (·.1)).Pairwise (· < ·)
  warned : Ledger.Warned r.skipped o.notices
  /-- The store grows by the airspaces that are counted, at its end. -/
  stored : ∀ d : Database α, (d.addAll o.inserted).size = d.size + r.count ∧
    (d.addAll o.inserted).airspaces.take d.size = d.airspaces
  success : r.success = true ↔ r.failure = none
  ending : r.Ending skips source (o.notices.filterMap Notice.error?)

/-- What a run from the start makes of the lines of a source, once it has a result. -/
theorem Ledger.Reads.accounts {g : Geodesy α} {skips : Int → Bool} {source : Source}
    {l : Ledger α} {r : ParseResult} (reads : start.Reads g skips source.texts l)
    (quiet : l.notices.toList.filterMap Notice.error? = [])
    (read : (l.close source.ending).result = .ok r) :
    l.skipped.toList = ({} : Cursor α).badLines g 1 (source.texts.take l.linesRead) ∧
      Warned l.skipped.toList l.notices.toList ∧
      r.Ending skips source ((l.close source.ending).notices.filterMap Notice.error?) := by
  cases reads with
  | broken halt =>
    unfold close at read
    rw [halt] at read
    cases read
  | finished ran passed =>
    obtain ⟨linesRead, skipped, warned⟩ := ran.of_start
    have lines : l.linesRead = source.lines.length := by simpa [Source.texts] using linesRead
    have passed : ∀ entry ∈ l.skipped.toList, skips entry.1 = true := by
      rw [skipped]
      exact passed
    refine ⟨?_, warned, close_finished read ran.halt lines passed quiet⟩
    rw [skipped, linesRead, List.take_length]
  | stopped lines ran bad passed refused =>
    rename_i l' c out before after raw early
    obtain ⟨linesRead, skipped, warned⟩ := ran.of_start
    have listed : l'.skipped.toList = early ++ [(l'.linesRead, stripComment raw)] :=
      skipped.trans bad
    refine ⟨?_, warned, close_abort read listed passed refused quiet⟩
    have reached : source.texts.take l'.linesRead = before ++ [raw] := by
      rw [lines, linesRead, List.append_cons before raw after, List.take_left]
    change l'.skipped.toList = Cursor.badLines g {} 1 (source.texts.take l'.linesRead)
    rw [skipped, reached]

/-- The result of a run accounts for it. -/
theorem parse_accounts (g : Geodesy α) (skips : Int → Bool) (source : Source) (r : ParseResult)
    (read : (parse g skips source).result = .ok r) :
    (parse g skips source).Accounts g skips source r := by
  obtain ⟨n, bound, counted, same⟩ :=
    Ledger.run_take g source.size skips .start source.lines
  have reads : Ledger.start.Reads g skips source.texts
      (Ledger.start.run g source.size skips source.lines) :=
    Ledger.run_reads g source.size skips .start source.lines rfl
  have quiet := Ledger.run_errors g source.size skips .start source.lines
  obtain ⟨skipped, warned, ending⟩ := reads.accounts quiet read
  obtain ⟨linesRead, listed, count⟩ := Ledger.close_ok read
  have number : r.linesRead = n := by
    rw [linesRead, counted]
    exact Nat.zero_add n
  have bad : r.skipped = ({} : Cursor α).badLines g 1 (source.texts.take r.linesRead) := by
    rw [listed, linesRead]
    exact skipped
  refine {
    cut := ⟨number ▸ bound, ?_⟩
    skipped := bad
    numbered := ?_
    increasing := ?_
    warned := ?_
    stored := ?_
    success := Option.isNone_iff_eq_none
    ending := ending }
  · rw [number]
    unfold parse Source.cut
    rw [same]
  · intro entry member
    rw [bad] at member
    obtain ⟨positive, raw, place, text⟩ := Cursor.badLines_numbered g {} 1 _ entry member
    rw [List.getElem?_take] at place
    split_ifs at place
    exact ⟨positive, raw, place, text⟩
  · rw [bad]
    exact Cursor.badLines_increasing g {} 1 _
  · rw [listed]
    exact (Ledger.close_warnings _ source.ending).trans warned
  · intro d
    constructor
    · rw [count]
      exact List.length_append
    · exact List.take_left

theorem parse_accounts_of_stopped_run :
    let source : Source := {
      size := 0
      lines := [
        ("* Restricted areas".toList, 1),
        ("TYPE=R".toList, 2),
        ("POINT=garbage".toList, 3),
        ("POINT=N533813 E0095943".toList, 4),
        ("TYPE=D".toList, 5),
        ("CIRCLE RADIUS= * unknown".toList, 6),
        ("POINT=N523333 E0131603".toList, 7)]
      ending := .finished }
    ∃ r, (parse .still (· ≠ 6) source).result = .ok r ∧ r.linesRead = 6 ∧ r.count = 1 ∧
      r.skipped = [(3, "POINT=garbage".toList), (6, "CIRCLE RADIUS=".toList)] ∧
      (parse .still (· ≠ 6) source).Accounts .still (· ≠ 6) source r := by
  intro source
  have numbers : (parse .still (· ≠ 6) source).result.toOption.map
      (fun r => (r.linesRead, r.count, r.skipped)) =
        some (6, 1, [(3, "POINT=garbage".toList), (6, "CIRCLE RADIUS=".toList)]) := by
    decide +kernel
  cases read : (parse .still (· ≠ 6) source).result with
  | error f =>
    rw [read] at numbers
    cases numbers
  | ok r =>
    rw [read] at numbers
    obtain ⟨lines, count, skipped⟩ : r.linesRead = 6 ∧ r.count = 1 ∧ r.skipped = _ := by
      simpa using Option.some.inj numbers
    exact ⟨r, rfl, lines, count, skipped, parse_accounts .still (· ≠ 6) source r read⟩

end Airspaces
