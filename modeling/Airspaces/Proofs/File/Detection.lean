import Airspaces.Proofs.File.Titles
import Airspaces.Proofs.File.Waiting
import Airspaces.Proofs.OpenAir.Spacing
/-! The line that tells the kind of a file. It is a line that opens a record in its dialect, and
only such a line, but for the switch of TNP files. No record is lost that starts with it. -/
namespace Airspaces

variable {α : Type} [Scalar α]

/-- A record that is waited for is opened by an opening line only. -/
theorem Record.Moves.opener {r : Record α} {boundary : Option (Option Text)}
    {done : Step α (Record α)} (moves : r.Moves boundary done) (waits : r.waiting = true)
    (opened : done.state.waiting = false) : boundary.join.isSome = true := by
  cases moves with
  | inner quiet kept => cases (kept.trans waits).symm.trans opened
  | opens opener closed opened => exact opener
  | circle round alone closed => cases closed.symm.trans opened

/-- No character is spelled like the class directive. -/
theorem Text.capital_ne_class (c : Char) : capital c ≠ ['A', 'C'] := by
  have table : ∀ entry ∈ capitalSpellings, entry.2.map Char.ofNat ≠ ['A', 'C'] := by
    decide +kernel
  rcases capital_cases c with ⟨d, one⟩ | ⟨entry, member, spelled⟩
  · rw [one]
    nofun
  · rw [spelled]
    exact table entry member

namespace OpenAir

theorem Directive.ofLine_opens_iff {line value : Text} :
    (ofLine line : Directive α) = opens value ↔ ∃ rest,
      Text.afterHead? line ['A', 'C'] = some rest ∧ value? rest = some value := by
  constructor
  · intro opened
    rcases line with _ | ⟨c, _ | ⟨d, rest⟩⟩
    · cases opened
    · cases opened
    · have told := ofLine_tells (α := α) c d rest
      rw [opened] at told
      cases told with
      | opens head found => exact ⟨rest, Text.afterHead?_eq_some.mpr ⟨head, rfl⟩, found⟩
      | measured measured => cases measured
  · rintro ⟨rest, starts, spaced⟩
    obtain ⟨head, rfl⟩ := Text.afterHead?_eq_some.mp starts
    -- The dialect asks each character for its own capital, the kind of a file both together.
    rcases line with _ | ⟨c, _ | ⟨d, rest⟩⟩
    · cases head
    · exact absurd ((List.append_nil _).symm.trans head) (Text.capital_ne_class c)
    · have told : (ofLine (c :: d :: rest) : Directive α) = ofValue opens rest := if_pos head
      rw [told, ofValue_eq, show value? rest = some value from spaced]
      rfl

/-- A line opens records exactly if it tells that the file is an OpenAir file. -/
theorem step_opens_iff (g : Geodesy α) (line : Text) {r : Record α} (waits : r.waiting = true) :
    (step g line r).state.waiting = false ↔ FileKind.detect line = .openAir := by
  rw [FileKind.detect_openAir_iff, exists_comm]
  simp only [← Directive.ofLine_opens_iff (α := α), ← Directive.perform_ofLine]
  constructor
  · intro opened
    have opener := (Directive.perform_moves g line r (.ofLine line)).opener waits opened
    cases told : (Directive.ofLine line : Directive α) with
    | opens value => exact ⟨value, rfl⟩
    | _ =>
      rw [told] at opener
      cases opener
  · rintro ⟨value, opens⟩
    rw [opens]
    rfl

end OpenAir

namespace Tnp

theorem Directive.keyword_of_opens {line value : Text}
    (opened : (ofLine line : Directive α) = opens value) :
    keyword? line = some (.type, value) := by
  rw [ofLine_eq] at opened
  split at opened
  · cases opened
  split at opened
  · cases opened
  rename_i keyword value' found
  rw [found]
  cases keyword with
  | type =>
    cases opened
    rfl
  | point | circle =>
    simp only [ofKeyword, ofPoint, ofCircle] at opened
    repeat' split at opened
    all_goals cases opened
  | active =>
    rw [ofKeyword, ofActive_eq] at opened
    cases days : activityOf? value' with
    | none | some activity =>
      rw [days] at opened
      cases opened
  | _ => cases opened

/-- A line that does not set the switch opens records exactly if it tells that the file is a TNP
file. -/
theorem step_opens_iff (g : Geodesy α) {line : Text}
    (plain : Text.afterHead? line includeHead = none) {s : State α} (heard : s.ignoring = false)
    (waits : s.record.waiting = true) :
    (step g line s).state.record.waiting = false ↔ FileKind.detect line = .tnp := by
  constructor
  · intro opened
    have opener := (step_moves g line s).opener waits opened
    cases told : (Directive.ofLine line : Directive α) with
    | opens value => exact detect_of_type (Directive.keyword_of_opens told)
    | _ =>
      rw [told] at opener
      cases opener
  · intro detected
    obtain ⟨value, typed⟩ := (FileKind.detect_tnp_iff.mp detected).resolve_left (by simp [plain])
    have told : (Directive.ofLine line : Directive α) = .opens value :=
      Directive.ofLine_of_head (by simp [Directive.heads]) typed
    rw [← Directive.perform_ofLine, Directive.perform_of_ne_switch g line
      (Directive.ofLine_ne_switch plain), told, heard]
    rfl

end Tnp

/-- Where lines are heard and a record is waited for, the line that tells the kind of the file opens
one or sets the switch. -/
theorem Ledger.stepOf_opens (g : Geodesy α) {line : Text} {s : Tnp.State α}
    (heard : s.ignoring = false) (waits : s.record.waiting = true)
    (told : FileKind.detect line ≠ .unknown) :
    (stepOf g (FileKind.detect line) line s).state.record.waiting = false ∨
      ∃ value, Text.afterHead? line Tnp.includeHead = some value := by
  cases detected : FileKind.detect line with
  | unknown => exact absurd detected told
  | openAir => exact .inl ((OpenAir.step_opens_iff g line waits).mpr detected)
  | tnp =>
    cases switch : Text.afterHead? line Tnp.includeHead with
    | some value => exact .inr ⟨value, rfl⟩
    | none => exact .inl ((Tnp.step_opens_iff g switch heard waits).mpr detected)

/-- A file of unknown kind has the kind that its next line tells. -/
theorem Cursor.take_unknown (g : Geodesy α) (raw : Text) (s : Tnp.State α) :
    take g raw ⟨.unknown, s⟩ =
      (Ledger.stepOf g (FileKind.detect (stripComment raw)) (stripComment raw) s).map
        (mk (FileKind.detect (stripComment raw))) := by
  unfold take
  split_ifs with blank
  · rw [List.isEmpty_iff.mp blank]
    rfl
  · rfl

namespace Ledger

variable (g : Geodesy α) (size : Nat) (skips : Int → Bool)

theorem take_cursor {l : Ledger α} (running : l.halt = none) (raw : Text) (tell : Nat) :
    (l.take g size skips raw tell).cursor = (Cursor.take g raw l.cursor).state := by
  have did := take_did g size tell l raw running
  rw [take_skips]
  split_ifs
  · exact did.cursor
  · exact did.cursor

/-- As long as nothing has told the kind of the file, the run goes on from where it started. -/
def Untold (l : Ledger α) : Prop := l.kind = .unknown → l.cursor = {} ∧ l.halt = none

theorem Untold.take {l : Ledger α} (untold : l.Untold) (running : l.halt = none) (raw : Text)
    (tell : Nat) : (l.take g size skips raw tell).Untold := by
  intro still
  have cursor := take_cursor g size skips running raw tell
  have kind : (Cursor.take g raw l.cursor).state.kind = .unknown := by
    rw [← cursor]
    exact still
  -- A kind that has been told stays, so that none has been told before either.
  have unknown : l.kind = .unknown := by
    by_contra known
    apply known
    rw [← kind]
    unfold Cursor.take
    split_ifs
    · rfl
    · exact (if_neg known).symm
  obtain ⟨here, -⟩ := untold unknown
  have nothing : Cursor.take g raw l.cursor = .leave {} := by
    rw [here] at kind ⊢
    have detected : FileKind.detect (stripComment raw) = .unknown := by
      rw [Cursor.take_unknown] at kind
      exact kind
    rw [Cursor.take_unknown, detected]
    rfl
  refine ⟨cursor.trans (congrArg Step.state nothing), ?_⟩
  have did := take_did g size tell l raw running
  rw [nothing] at did
  rw [take_skips, nothing, if_neg (by simp)]
  exact did.running rfl

theorem run_untold {l : Ledger α} (untold : l.Untold) (running : l.halt = none)
    (lines : List (Text × Nat)) : (l.run g size skips lines).Untold := by
  induction lines generalizing l with
  | nil => exact untold
  | cons first rest ih =>
    obtain ⟨raw, tell⟩ := first
    have later := untold.take g size skips running raw tell
    unfold run
    dsimp only
    split_ifs with goes
    · exact ih later (Option.isNone_iff_eq_none.mp goes)
    · exact later

/-- The last line of a run that has not been halted before. -/
theorem run_concat {l : Ledger α} {before : List (Text × Nat)}
    (goes : (l.run g size skips before).halt = none) (raw : Text) (tell : Nat) :
    l.run g size skips (before ++ [(raw, tell)]) =
      (l.run g size skips before).take g size skips raw tell := by
  induction before generalizing l with
  | nil => simp only [List.nil_append, run, ite_self]
  | cons first rest ih =>
    obtain ⟨raw', tell'⟩ := first
    simp only [List.cons_append, run] at goes ⊢
    split_ifs at goes ⊢ with halted
    · exact ih goes
    · rw [goes] at halted
      exact absurd rfl halted

end Ledger

/-- A line tells the kind of a file exactly if its dialect opens a record with it, whichever record
was waited for, but for the switch of TNP files. So a record is open after the line that told the
kind of the file, or that line was the switch. -/
theorem detects_openers (g : Geodesy α) (line : Text) :
    (FileKind.detect line = .openAir ↔
      ∀ r : Record α, r.waiting = true → (OpenAir.step g line r).state.waiting = false) ∧
    (Text.afterHead? line Tnp.includeHead = none →
      (FileKind.detect line = .tnp ↔
        ∀ s : Tnp.State α, s.ignoring = false → s.record.waiting = true →
          (Tnp.step g line s).state.record.waiting = false)) ∧
    ∀ (size : Nat) (skips : Int → Bool) (before : List (Text × Nat)) (raw : Text) (tell : Nat),
      let l : Ledger α := Ledger.start.run g size skips before
      let l' : Ledger α := Ledger.start.run g size skips (before ++ [(raw, tell)])
      l.kind = .unknown → l'.kind ≠ .unknown →
        l'.kind = FileKind.detect (stripComment raw) ∧
          (l'.state.record.waiting = false ∨
            ∃ value, Text.afterHead? (stripComment raw) Tnp.includeHead = some value) := by
  refine ⟨?_, ?_, ?_⟩
  · constructor
    · exact fun detected r waits => (OpenAir.step_opens_iff g line waits).mpr detected
    · exact fun opens => (OpenAir.step_opens_iff g line rfl).mp (opens .fresh rfl)
  · intro plain
    constructor
    · exact fun detected s heard waits =>
        (Tnp.step_opens_iff g plain heard waits).mpr detected
    · exact fun opens => (Tnp.step_opens_iff g plain rfl rfl).mp (opens {} rfl rfl)
  · intro size skips before raw tell l l' unknown told
    have untold : l.Untold :=
      Ledger.run_untold g size skips (fun _ => ⟨rfl, rfl⟩) rfl before
    obtain ⟨here, running⟩ := untold unknown
    have last : l'.cursor = (Cursor.take g raw l.cursor).state := by
      rw [← Ledger.take_cursor g size skips running raw tell]
      exact congrArg Ledger.cursor (Ledger.run_concat g size skips running raw tell)
    rw [here, Cursor.take_unknown] at last
    have kind : l'.kind = FileKind.detect (stripComment raw) := congrArg Cursor.kind last
    have state := congrArg Cursor.state last
    refine ⟨kind, ?_⟩
    rw [kind] at told
    refine (Ledger.stepOf_opens g (s := {}) rfl rfl told).imp_left ?_
    exact (congrArg (fun s : Tnp.State α => s.record.waiting) state).trans

/-- A type line opens whichever record was waited for. Lines before the class line that tells the
kind of the file go for nothing, and a record is open after it. -/
theorem detects_openers_in_small_letters :
    let before := [("* Hamburg".toList, 1), ("AN HAMBURG CTR".toList, 2)]
    let l : Ledger Rat := Ledger.start.run .still 0 (fun _ => false) before
    let l' : Ledger Rat :=
      Ledger.start.run .still 0 (fun _ => false) (before ++ [("ac D * D airspace".toList, 3)])
    Text.afterHead? "type=ctr".toList Tnp.includeHead = none ∧
      (∀ s : Tnp.State Rat, s.ignoring = false → s.record.waiting = true →
        (Tnp.step .still "type=ctr".toList s).state.record.waiting = false) ∧
      l.kind = .unknown ∧ l'.kind = .openAir ∧ l'.state.record.waiting = false := by
  intro before l l'
  have plain : Text.afterHead? "type=ctr".toList Tnp.includeHead = none := by decide
  have unknown : l.kind = .unknown := by decide +kernel
  have told : l'.kind = .openAir := by decide +kernel
  have noSwitch :
      Text.afterHead? (stripComment "ac D * D airspace".toList) Tnp.includeHead = none := by
    decide
  obtain ⟨-, typed, -⟩ := detects_openers Geodesy.still "type=ctr".toList
  obtain ⟨-, -, runs⟩ := detects_openers Geodesy.still []
  have known : l'.kind ≠ .unknown := by
    rw [told]
    decide
  have opened := (runs 0 (fun _ => false) before "ac D * D airspace".toList 3 unknown known).2
  refine ⟨plain, (typed plain).mp (by decide), unknown, told, opened.resolve_right ?_⟩
  rintro ⟨value, switch⟩
  cases noSwitch.symm.trans switch

end Airspaces
