import Airspaces.Proofs.File.Inserted
import Airspaces.Proofs.Tessellation
/-! Spans of a TNP file that are passed over. Their lines can be left out of the file, wherever
the records begin and end. -/
namespace Airspaces

variable {α : Type} [Scalar α] {σ : Type}

section
variable {step : Text → σ → Step α σ} {drops : σ × Text → Bool}

theorem keep_cons (step : Text → σ → Step α σ) (drops : σ × Text → Bool) (s : σ) (line : Text)
    (rest : List Text) :
    keep step drops s (line :: rest) =
      (if drops (s, line) then [] else [line]) ++ keep step drops (step line s).state rest := by
  unfold keep
  rw [encounters, List.filter_cons]
  cases drops (s, line) <;> rfl

/-- Lines that do nothing can be left out, even if a fault comes after them. -/
theorem feed_keep_of_leave (leaves : ∀ s line, drops (s, line) = true → step line s = .leave s)
    (s : σ) (lines : List Text) :
    feed step s (keep step drops s lines) = feed step s lines ∧
      handedOut step s (keep step drops s lines) = handedOut step s lines := by
  induction lines generalizing s with
  | nil => exact ⟨rfl, rfl⟩
  | cons line rest ih =>
    rw [keep_cons]
    cases dropped : drops (s, line) with
    | true =>
      have nothing := leaves s line dropped
      obtain ⟨fed, handed⟩ := ih s
      have passes : handedOut step s (line :: rest) = handedOut step s rest := by
        rw [handedOut, nothing]
        rfl
      rw [feed_leave nothing, passes, nothing]
      exact ⟨fed, handed⟩
    | false =>
      obtain ⟨fed, handed⟩ := ih (step line s).state
      simp only [Bool.false_eq_true, if_false, List.singleton_append, feed, handedOut, fed, handed,
        and_self]
end

namespace Cursor

/-- The bad lines stay the same, under other numbers. -/
theorem badLines_keep_of_leave {g : Geodesy α} {drops : Cursor α × Text → Bool}
    (leaves : ∀ c raw, drops (c, raw) = true → take g raw c = .leave c) (c : Cursor α)
    (raws : List Text) (first first' : Nat) :
    (c.badLines g first' (keep (take g) drops c raws)).map (·.2) =
      (c.badLines g first raws).map (·.2) := by
  induction raws generalizing c first first' with
  | nil => rfl
  | cons raw rest ih =>
    rw [keep_cons, badLines_cons]
    cases dropped : drops (c, raw) with
    | true =>
      rw [leaves c raw dropped]
      exact ih c (first + 1) first'
    | false =>
      have later := ih (take g raw c).state (first + 1) (first' + 1)
      simp only [Bool.false_eq_true, if_false, List.singleton_append, badLines_cons,
        List.map_append, later]
      split_ifs <;> rfl

/-- Is the line one of a TNP file that is passed over? No line that sets the switch is. -/
def passesOver (met : Cursor α × Text) : Bool :=
  met.1.kind = .tnp && met.1.state.ignoring &&
    (Text.afterHead? (stripComment met.2) Tnp.includeHead).isNone

theorem take_of_passesOver (g : Geodesy α) (c : Cursor α) (raw : Text)
    (passed : passesOver (c, raw) = true) : take g raw c = .leave c := by
  obtain ⟨kind, s⟩ := c
  simp only [passesOver, Bool.and_eq_true, decide_eq_true_eq, Option.isNone_iff_eq_none] at passed
  obtain ⟨⟨rfl, ignoring⟩, plain⟩ := passed
  have leaves : Tnp.step g (stripComment raw) s = .leave s := by
    rw [Tnp.step, plain]
    exact if_pos ignoring
  unfold take
  split_ifs
  · rfl
  · change (Tnp.step g (stripComment raw) s).map (mk .tnp) = _
    rw [leaves]
    rfl

end Cursor

/-- A switch is set by the words `YES` and `NO` only, in any case. -/
theorem Tnp.step_include (g : Geodesy α) {line word : Text} (s : State α)
    (switch : Text.afterHead? line includeHead = some word)
    (other : Text.upper word ≠ ['Y', 'E', 'S'] ∧ Text.upper word ≠ ['N', 'O']) :
    step g line s = .leave s := by
  have same : ignoringAfter word s.ignoring = s.ignoring := by
    rw [ignoringAfter, if_neg other.1, if_neg other.2]
  rw [step, switch]
  dsimp only
  rw [same]

/-- A file without the lines that it passes over comes to the same, the numbers of lines apart.
Such a line does nothing, and neither does a switch that is set to another word. -/
theorem parse_without_ignored_lines (g : Geodesy α) (source source' : Source)
    (texts : source'.texts = keep (Cursor.take g) Cursor.passesOver {} source.texts)
    (ending : source'.ending = source.ending) :
    let whole := parse g (fun _ => true) source
    let rest := parse g (fun _ => true) source'
    rest.inserted = whole.inserted ∧
    (match whole.result with
      | .error f => rest.result = .error f
      | .ok r => ∃ r', rest.result = .ok r' ∧ r'.kind = r.kind ∧ r'.success = r.success ∧
          r'.failure = r.failure ∧ r'.count = r.count ∧
          r'.skipped.map (·.2) = r.skipped.map (·.2)) ∧
    (∀ (c : Cursor α) raw, Cursor.passesOver (c, raw) = true → Cursor.take g raw c = .leave c) ∧
    ∀ line word (s : Tnp.State α), Text.afterHead? line Tnp.includeHead = some word →
      Text.upper word ≠ ['Y', 'E', 'S'] ∧ Text.upper word ≠ ['N', 'O'] →
        Tnp.step g line s = .leave s := by
  intro whole rest
  obtain ⟨fed, handed⟩ :=
    feed_keep_of_leave (Cursor.take_of_passesOver g) ({} : Cursor α) source.texts
  have bad := Cursor.badLines_keep_of_leave (Cursor.take_of_passesOver g) ({} : Cursor α)
    source.texts 1 1
  refine ⟨?_, ?_, Cursor.take_of_passesOver g, fun line word s => Tnp.step_include g s⟩
  · rw [parse_inserted, parse_inserted, texts, ending, fed, handed]
  · have now := parse_skipping g source
    have then_on := parse_skipping g source'
    rw [texts, ending, fed] at then_on
    cases read : feed (Cursor.take g) {} source.texts with
    | error f =>
      simp only [read] at now then_on
      simp only [whole, now]
      exact then_on
    | ok result =>
      obtain ⟨c, out⟩ := result
      simp only [read] at now then_on
      cases finish : c.finish source.ending with
      | error f =>
        simp only [finish] at now then_on
        simp only [whole, now]
        exact then_on
      | ok closing =>
        simp only [finish] at now then_on
        simp only [whole, now.result]
        exact ⟨_, then_on.result, rfl, rfl, rfl, rfl, bad⟩

theorem parse_without_ignored_record :
    let source : Source := {
      size := 0
      lines := [
        ("TYPE=R".toList, 1),
        ("POINT=garbage".toList, 2),
        ("Include=no * not for gliders".toList, 3),
        ("POINT=N533813".toList, 4),
        ("TYPE=D".toList, 5),
        ("INCLUDE=MAYBE".toList, 6),
        ("CIRCLE RADIUS=17.00 CENTRE=N533813 E0095943".toList, 7),
        ("INCLUDE=YES".toList, 8),
        ("POINT=N523333 E0131603".toList, 9)]
      ending := .finished }
    let source' : Source := {
      size := 0
      lines := [
        ("TYPE=R".toList, 1),
        ("POINT=garbage".toList, 2),
        ("Include=no * not for gliders".toList, 3),
        ("INCLUDE=MAYBE".toList, 4),
        ("INCLUDE=YES".toList, 5),
        ("POINT=N523333 E0131603".toList, 6)]
      ending := .finished }
    (parse .still (fun _ => true) source).inserted.length = 1 ∧
      (parse .still (fun _ => true) source').inserted =
        (parse .still (fun _ => true) source).inserted := by
  intro source source'
  refine ⟨by decide +kernel, ?_⟩
  have texts : source'.texts =
      keep (Cursor.take .still) Cursor.passesOver {} source.texts := by decide +kernel
  exact (parse_without_ignored_lines .still source source' texts rfl).1

end Airspaces
