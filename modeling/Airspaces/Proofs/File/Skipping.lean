import Airspaces.Proofs.File.Cursor
import Airspaces.Proofs.OpenAir.Rejection
import Airspaces.Proofs.Tessellation
import Airspaces.Proofs.Tnp.Rejection
/-! Skipping over a bad line is as good as never having had it: it hands out nothing, and
what it leaves cannot be told from what it met. -/
namespace Airspaces

variable {α : Type} [Scalar α] {g : Geodesy α}

/-- The line that tells the kind of a file is not bad. -/
theorem Ledger.stepOf_detecting (g : Geodesy α) (line : Text) (s : Tnp.State α) :
    (stepOf g (FileKind.detect line) line s).rejects = false := by
  cases detected : FileKind.detect line with
  | unknown => rfl
  | openAir => exact OpenAir.step_detecting g s.record detected
  | tnp => exact Tnp.step_detecting g s detected

namespace Cursor

/-- Cursors that later lines cannot tell apart. -/
inductive Alike : Cursor α → Cursor α → Prop where
  | same (c : Cursor α) : Alike c c
  | turned (s : Tnp.State α) (rotation : Int) : Alike ⟨.tnp, s⟩ ⟨.tnp, s.turn rotation⟩

theorem read_rejects {line : Text} {c : Cursor α} (rejected : (read g line c).rejects = true) :
    (read g line c).finished = [] ∧
      ((read g line c).state = c ∨
        c.kind = .tnp ∧ ∃ rotation, (read g line c).state = ⟨.tnp, c.state.turn rotation⟩) := by
  obtain ⟨kind, s⟩ := c
  cases kind with
  | unknown => cases (Ledger.stepOf_detecting g line s).symm.trans rejected
  | openAir =>
    have bad : (OpenAir.step g line s.record).rejects = true := rejected
    obtain ⟨nothing, same⟩ := OpenAir.step_rejects bad
    refine ⟨nothing, .inl ?_⟩
    change (⟨.openAir, { s with record := (OpenAir.step g line s.record).state }⟩ : Cursor α) = _
    rw [same]
  | tnp =>
    have bad : (Tnp.step g line s).rejects = true := rejected
    obtain ⟨nothing, same⟩ := Tnp.step_rejects bad
    refine ⟨nothing, .inr ⟨rfl, Tnp.rotationAfter line s.record.rotation, ?_⟩⟩
    change (⟨.tnp, (Tnp.step g line s).state⟩ : Cursor α) = _
    rw [same]

theorem read_turn (g : Geodesy α) (line : Text) (s : Tnp.State α) (rotation : Int) :
    ∃ after, read g line ⟨.tnp, s.turn rotation⟩ =
      (Tnp.step g line s).map fun t => ⟨.tnp, t.turn after⟩ := by
  obtain ⟨after, turned⟩ := Tnp.step_turn g line s rotation
  refine ⟨after, ?_⟩
  change (Tnp.step g line (s.turn rotation)).map (mk .tnp) = _
  rw [turned]
  rfl

/-- Bad lines can be left out. -/
theorem bad_unnoticed (g : Geodesy α) :
    Unnoticed (take g) (fun (c, raw) => (take g raw c).rejects) Alike where
  quiet := by
    intro c d raw alike rejected
    dsimp only at rejected
    unfold take at rejected ⊢
    split_ifs at rejected ⊢ with blank
    · cases rejected
    · obtain ⟨nothing, same | ⟨known, rotation, same⟩⟩ := read_rejects rejected
      · rw [same]
        exact ⟨nothing, alike⟩
      · -- The bad arc has turned the record of one run only.
        rw [same]
        refine ⟨nothing, ?_⟩
        cases alike with
        | same =>
          obtain ⟨kind, s⟩ := c
          cases known
          exact .turned (s.turn rotation) s.record.rotation
        | turned s other => exact .turned (s.turn rotation) other
  alike := by
    intro c d raw alike accepted
    cases alike with
    | same => exact ⟨rfl, rfl, .same _⟩
    | turned s rotation =>
      unfold take
      split_ifs with blank
      · exact ⟨rfl, rfl, .turned s rotation⟩
      · obtain ⟨after, turned⟩ := read_turn g (stripComment raw) s rotation
        rw [turned]
        exact ⟨rfl, rfl, .turned _ after⟩

theorem Alike.finish_eq {c d : Cursor α} (alike : Alike c d) (ending : Source.Ending) :
    d.kind = c.kind ∧ d.finish ending = c.finish ending := by
  cases alike with
  | same => exact ⟨rfl, rfl⟩
  | turned s rotation => cases ending <;> exact ⟨rfl, rfl⟩

/-- A line is listed with its number if it is bad. -/
theorem mem_badLines {c : Cursor α} {raws : List Text} {first number : Nat} {pair : Cursor α × Text}
    (met : (pair, number) ∈ (encounters (take g) c raws).zipIdx first) :
    number ∈ (c.badLines g first raws).map (·.1) ↔ (take g pair.2 pair.1).rejects = true := by
  rw [List.mem_map]
  constructor
  · -- A number stands for one line only, so the line that is listed under it is this one.
    rintro ⟨⟨_, text⟩, listed, rfl⟩
    obtain ⟨⟨other, number'⟩, met', told⟩ := List.mem_filterMap.mp listed
    dsimp only at told
    split_ifs at told with rejected
    cases told
    have same : other = pair := Option.some.inj
      ((List.mem_zipIdx_iff_le_and_getElem?_sub.mp met').2.symm.trans
        (List.mem_zipIdx_iff_le_and_getElem?_sub.mp met).2)
    rwa [same] at rejected
  · intro rejected
    refine ⟨(number, stripComment pair.2), ?_, rfl⟩
    exact List.mem_filterMap.mpr ⟨_, met, by simp [rejected]⟩

theorem badLines_eq_nil {c : Cursor α} {raws : List Text} (first : Nat)
    (accepted : ∀ pair ∈ encounters (take g) c raws, (take g pair.2 pair.1).rejects = false) :
    c.badLines g first raws = [] := by
  rw [badLines, List.filterMap_eq_nil_iff]
  rintro ⟨pair, number⟩ met
  simp [accepted pair (List.fst_mem_of_mem_zipIdx met)]

/-- Without the bad lines of a run no line is bad. -/
theorem badLines_keep (g : Geodesy α) {c d : Cursor α} (alike : Alike c d) (raws : List Text)
    (first : Nat) :
    d.badLines g first (keep (take g) (fun (c, raw) => (take g raw c).rejects) c raws) = [] := by
  apply badLines_eq_nil
  intro pair met
  have stop : (take g pair.2 pair.1).stop ∈
      (encounters (take g) d (keep (take g) (fun (c, raw) => (take g raw c).rejects) c raws)).map
        fun (c, raw) => (take g raw c).stop := List.mem_map_of_mem met
  rw [(bad_unnoticed g).stops_keep alike raws] at stop
  obtain ⟨⟨c', raw⟩, kept, same⟩ := List.mem_map.mp stop
  have accepted : (take g raw c').rejects = false := by
    simpa using (List.mem_filter.mp kept).2
  rw [Step.rejects] at accepted ⊢
  rw [← same]
  exact accepted

end Cursor

/-- The lines of a source but for those with certain numbers. -/
def Source.textsWithout (source : Source) (numbers : List Nat) : List Text :=
  ((source.texts.zipIdx 1).filter fun (_, number) => number ∉ numbers).map (·.1)

/-- A run that skipped over bad lines comes to the same as one over the other lines, in which
no line is bad. -/
theorem parse_without_bad_lines (g : Geodesy α) (source source' : Source) (r : ParseResult)
    (read : (parse g (fun _ => true) source).result = .ok r)
    (texts : source'.texts = source.textsWithout (r.skipped.map (·.1)))
    (ending : source'.ending = source.ending) :
    ∃ r', (parse g (fun _ => true) source').result = .ok r' ∧ r'.skipped = [] ∧
      (parse g (fun _ => true) source').notices.filterMap Notice.warning? = [] ∧
      r'.kind = r.kind ∧ r'.success = r.success ∧ r'.failure = r.failure ∧ r'.count = r.count ∧
      (parse g (fun _ => true) source').inserted = (parse g (fun _ => true) source).inserted := by
  have whole := parse_skipping g source
  cases fed : feed (Cursor.take g) {} source.texts with
  | error f =>
    simp only [fed] at whole
    cases read.symm.trans whole
  | ok result =>
    obtain ⟨c, out⟩ := result
    simp only [fed] at whole
    cases ended : c.finish source.ending with
    | error f =>
      simp only [ended] at whole
      cases read.symm.trans whole
    | ok closing =>
      obtain ⟨failure, last⟩ := closing
      simp only [ended] at whole
      cases read.symm.trans whole.result
      have kept : source'.texts =
          keep (Cursor.take g) (fun (c, raw) => (Cursor.take g raw c).rejects) {} source.texts :=
        texts.trans (keep_eq_filter fun _ _ met => Cursor.mem_badLines met)
      obtain ⟨c', alike, fed'⟩ := (Cursor.bad_unnoticed g).feed_keep (.same {}) fed
      obtain ⟨kind, finish⟩ := alike.finish_eq source.ending
      have rest := parse_skipping g source'
      rw [ending, kept, fed'] at rest
      simp only [finish, ended, Cursor.badLines_keep g (.same {})] at rest
      refine ⟨_, rest.result, rfl, rest.warned, kind, rfl, rfl, rfl, ?_⟩
      rw [rest.inserted, whole.inserted]

theorem parse_without_bad_arc :
    let source : Source := {
      size := 0
      lines := [
        ("TYPE=R".toList, 1),
        ("POINT=N533813 E0095943".toList, 2),
        ("ANTI-CLOCKWISE RADIUS=34.95 CENTRE=N523333".toList, 3),
        ("POINT=N523333 E0131603".toList, 4)]
      ending := .finished }
    let source' : Source := {
      size := 0
      lines := [
        ("TYPE=R".toList, 1),
        ("POINT=N533813 E0095943".toList, 2),
        ("POINT=N523333 E0131603".toList, 3)]
      ending := .finished }
    ∃ r r', (parse .still (fun _ => true) source).result = .ok r ∧ r.skipped.map (·.1) = [3] ∧
      (parse .still (fun _ => true) source').result = .ok r' ∧ r'.skipped = [] ∧
      (parse .still (fun _ => true) source').inserted =
        (parse .still (fun _ => true) source).inserted := by
  intro source source'
  have skipped : (parse .still (fun _ => true) source).result.toOption.map
      (fun r => r.skipped.map (·.1)) = some [3] := by decide +kernel
  cases read : (parse .still (fun _ => true) source).result with
  | error f =>
    rw [read] at skipped
    cases skipped
  | ok r =>
    rw [read] at skipped
    have numbers : r.skipped.map (·.1) = [3] := Option.some.inj skipped
    have texts : source'.texts = source.textsWithout (r.skipped.map (·.1)) := by
      rw [numbers]
      decide +kernel
    obtain ⟨r', read', none_bad, _, _, _, _, _, same⟩ :=
      parse_without_bad_lines .still source source' r read texts rfl
    exact ⟨r, r', rfl, numbers, read', none_bad, same⟩

end Airspaces
