import Airspaces.Proofs.File.Pipeline
import Airspaces.Proofs.Tnp.Rejection
/-! Airspaces and the records that they come from. A line that opens a record is good for one
airspace, which is handed out when the record is closed. Only a circle is handed out without
regard to whether a record is open. -/
namespace Airspaces

variable {α : Type} [Scalar α]

namespace FileKind

/-- The boundary that a line is in a file of this kind, with the value of a record that it
opens. -/
def boundary? (α : Type) [Scalar α] (kind : FileKind) (line : Text) : Option (Option Text) :=
  match kind with
  | unknown => none
  | openAir => (OpenAir.Directive.ofLine (α := α) line).boundary?
  | tnp => (Tnp.Directive.ofLine (α := α) line).boundary?

/-- Is the line a class directive with a well-formed value, or a `TYPE=` line? -/
def opens (α : Type) [Scalar α] (kind : FileKind) (line : Text) : Bool :=
  (kind.boundary? α line).join.isSome

/-- Is the line a circle that can be read? -/
def encircles (α : Type) [Scalar α] (kind : FileKind) (line : Text) : Bool :=
  kind.boundary? α line == some none

end FileKind

namespace Record

/-- What a line that is a boundary, or is none, does to the record that it meets. -/
inductive Moves (r : Record α) (boundary : Option (Option Text)) (done : Step α (Record α)) :
    Prop where
  /-- A line inside a record, or one that is passed over. -/
  | inner (quiet : done.finished = []) (kept : done.state.waiting = r.waiting)
  | opens (opener : boundary.join.isSome = true) (closed : done.finished = r.pending)
      (opened : done.state.waiting = false)
  | circle (round : boundary = some none) (alone : done.finished.length = 1)
      (closed : done.state.waiting = true)

/-- The airspaces that an open record is good for. -/
def credit (r : Record α) : Nat := if r.waiting then 0 else 1

theorem credit_le_one (r : Record α) : r.credit ≤ 1 := by
  unfold credit
  split_ifs <;> decide

theorem credit_of_waiting {r : Record α} (waits : r.waiting = true) : r.credit = 0 := if_pos waits

theorem credit_of_open {r : Record α} (opened : r.waiting = false) : r.credit = 1 := by
  rw [credit, opened]
  rfl

/-- At most one polygon is handed out where a record ends, and none while it is waited for. -/
theorem pending_length_le (r : Record α) : r.pending.length ≤ r.credit := by
  unfold pending polygon credit
  split_ifs <;> simp

theorem pending_of_waiting {r : Record α} (waits : r.waiting = true) : r.pending = [] := if_pos waits

end Record

namespace OpenAir

theorem addCurve_moves (r : Record α) (curve : Except (Fault α) (List (Position α)))
    (boundary : Option (Option Text)) : r.Moves boundary (addCurve r curve) := by
  cases curve <;> exact .inner rfl rfl

theorem Directive.perform_moves (g : Geodesy α) (line : Text) (r : Record α) (d : Directive α) :
    r.Moves d.boundary? (d.perform g line r) := by
  cases d with
  | opens value => exact .opens rfl rfl rfl
  | circle radius => exact .circle rfl rfl rfl
  | sector | arc => exact addCurve_moves r _ _
  | _ => exact .inner rfl rfl

end OpenAir

namespace Tnp

namespace Directive

theorem drawArc_quiet (g : Geodesy α) (line : Text) (r : Record α)
    (course : Except (Obstacle α) (Position α × Position α)) :
    (drawArc g line r course).finished = [] ∧
      (drawArc g line r course).state.waiting = r.waiting := by
  obtain ⟨obstacle, done, _⟩ | ⟨center, points, done⟩ | ⟨center, start, stop, f, done, _⟩ :=
    drawArc_cases g line r course
  · rw [done, halt_finished, halt_state]
    exact ⟨rfl, rfl⟩
  · rw [done]
    exact ⟨rfl, rfl⟩
  · rw [done]
    exact ⟨rfl, rfl⟩

theorem fill_moves (g : Geodesy α) (line : Text) (r : Record α) (d : Directive α) :
    r.Moves d.boundary? (d.fill g line r) := by
  cases d with
  | opens value => exact .opens rfl rfl rfl
  | circle radius center => exact .circle rfl rfl rfl
  | classLetter value =>
    rw [fill_classLetter]
    exact .inner rfl rfl
  | arc sense course =>
    obtain ⟨quiet, kept⟩ := drawArc_quiet g line { r with rotation := sense.rotation } course
    exact .inner quiet kept
  | unreadable obstacle =>
    exact .inner (halt_finished r line obstacle)
      (congrArg Record.waiting (halt_state r line obstacle))
  | _ => exact .inner rfl rfl

end Directive

/-- Where lines are passed over, even a boundary does nothing. -/
theorem step_moves (g : Geodesy α) (line : Text) (s : State α) :
    s.record.Moves (Directive.ofLine (α := α) line).boundary? ((step g line s).map State.record) := by
  rw [← Directive.perform_ofLine]
  obtain ⟨ignoring, same⟩ | same := Directive.perform_cases g line (Directive.ofLine line) s
  · rw [same]
    exact .inner rfl rfl
  · rw [same]
    exact Directive.fill_moves g line s.record (Directive.ofLine line)

end Tnp

namespace Ledger

variable {g : Geodesy α} {kind : FileKind}

theorem stepOf_moves (g : Geodesy α) (kind : FileKind) (line : Text) (s : Tnp.State α) :
    s.record.Moves (kind.boundary? α line) ((stepOf g kind line s).map Tnp.State.record) := by
  cases kind with
  | unknown => exact .inner rfl rfl
  | openAir =>
    have moves := OpenAir.Directive.perform_moves g line s.record (.ofLine line)
    rw [OpenAir.Directive.perform_ofLine] at moves
    exact moves
  | tnp => exact Tnp.step_moves g line s

/-- The line hands out a circle, and no record is open. -/
def stray (g : Geodesy α) (kind : FileKind) (met : Tnp.State α × Text) : Bool :=
  met.1.record.waiting && !(stepOf g kind met.2 met.1).finished.isEmpty

/-- What a line hands out is paid for by the record that it meets, or is a stray circle. -/
theorem stepOf_credit (g : Geodesy α) (kind : FileKind) (line : Text) (s : Tnp.State α) :
    (stepOf g kind line s).finished.length + (stepOf g kind line s).state.record.credit ≤
      s.record.credit + (if kind.opens α line then 1 else 0) +
        if stray g kind (s, line) then 1 else 0 := by
  cases stepOf_moves g kind line s with
  | inner quiet kept =>
    have nothing : (stepOf g kind line s).finished = [] := quiet
    have same : (stepOf g kind line s).state.record.credit = s.record.credit := by
      rw [Record.credit, Record.credit, ← kept]
      rfl
    rw [nothing, same, List.length_nil]
    omega
  | opens opener closed opened =>
    have polygon : (stepOf g kind line s).finished = s.record.pending := closed
    have bound := s.record.pending_length_le
    have next := Record.credit_le_one (stepOf g kind line s).state.record
    rw [polygon, if_pos (show kind.opens α line = true from opener)]
    omega
  | circle round alone closed =>
    have one : (stepOf g kind line s).finished.length = 1 := alone
    have spent : (stepOf g kind line s).state.record.credit = 0 := Record.credit_of_waiting closed
    rw [one, spent]
    cases waits : s.record.waiting with
    | false =>
      rw [Record.credit_of_open waits]
      omega
    | true =>
      have handed : (stepOf g kind line s).finished.isEmpty = false := by
        rw [List.isEmpty_eq_false_iff, ← List.length_pos_iff, one]
        decide
      have strays : stray g kind (s, line) = true := by simp [stray, waits, handed]
      rw [strays, if_pos rfl]
      omega

/-- What a run hands out is paid for by its records, but for stray circles. -/
theorem feed_credit {s last : Tnp.State α} {lines : List Text} {out : List (Airspace α)}
    (fed : feed (stepOf g kind) s lines = .ok (last, out)) :
    out.length + last.record.credit ≤
      s.record.credit + lines.countP (kind.opens α) +
        (encounters (stepOf g kind) s lines).countP (stray g kind) := by
  induction lines generalizing s out with
  | nil =>
    cases fed
    simp
  | cons line rest ih =>
    obtain ⟨_, later, fed_rest, rfl⟩ := feed_cons_eq_ok.mp fed
    have now := stepOf_credit g kind line s
    have then_on := ih fed_rest
    rw [encounters, List.countP_cons, List.countP_cons, List.length_append]
    omega

end Ledger

/-- A line hands out the polygon of the open record when it opens another one, or else a circle.
Of the records that a run opens each one yields at most one airspace, by its end at the latest,
and nothing is handed out besides but the circles that no open record meets. -/
theorem airspaces_within_records (g : Geodesy α) (kind : FileKind) (s : Tnp.State α)
    (lines : List Text) :
    (∀ met ∈ encounters (Ledger.stepOf g kind) s lines,
      let done := Ledger.stepOf g kind met.2 met.1
      done.finished = [] ∨
        kind.opens α met.2 = true ∧ met.1.record.waiting = false ∧
          done.finished = met.1.record.pending ∨
        kind.encircles α met.2 = true ∧ done.finished.length = 1 ∧
          done.state.record.waiting = true) ∧
    ∀ last out, feed (Ledger.stepOf g kind) s lines = .ok (last, out) →
      let strays := (encounters (Ledger.stepOf g kind) s lines).countP (Ledger.stray g kind)
      let handed := out ++ last.record.pending
      (last.record.waiting = true → handed = out) ∧
      (s.record.waiting = true → handed.length ≤ lines.countP (kind.opens α) + strays) ∧
      ((∀ line ∈ lines, kind.opens α line = false) → handed.length ≤ 1 + strays) := by
  constructor
  · intro met _
    cases Ledger.stepOf_moves g kind met.2 met.1 with
    | inner quiet kept => exact .inl quiet
    | opens opener closed opened =>
      cases waits : met.1.record.waiting with
      | true => exact .inl (closed.trans (Record.pending_of_waiting waits))
      | false => exact .inr (.inl ⟨opener, rfl, closed⟩)
    | circle round alone closed =>
      refine .inr (.inr ⟨?_, alone, closed⟩)
      rw [FileKind.encircles, round]
      rfl
  · intro last out fed strays handed
    have paid := Ledger.feed_credit fed
    have closing := last.record.pending_length_le
    have total : handed.length = out.length + last.record.pending.length := List.length_append
    refine ⟨?_, ?_, ?_⟩
    · intro waits
      exact (congrArg (out ++ ·) (Record.pending_of_waiting waits)).trans (List.append_nil out)
    · intro waits
      rw [Record.credit_of_waiting waits] at paid
      omega
    · intro inner
      have none_opened : lines.countP (kind.opens α) = 0 := by
        rw [List.countP_eq_zero]
        intro line member opener
        cases (inner line member).symm.trans opener
      have start := s.record.credit_le_one
      omega

theorem airspaces_within_records_of_polygons_and_circle :
    let lines := [
      "AC R".toList,
      "AN ED-R 123".toList,
      "DP 53:20:00 N 010:00:00 E".toList,
      "AC Q".toList,
      "DC 2.5".toList,
      "AC D".toList,
      "DP 53:13:00 N 008:47:00 E".toList]
    ∃ last out, feed (Ledger.stepOf .still .openAir) {} lines = .ok (last, out) ∧
      (out ++ last.record.pending).length = 3 ∧
      (out ++ last.record.pending).length ≤ lines.countP (FileKind.openAir.opens Rat) +
        (encounters (Ledger.stepOf .still .openAir) {} lines).countP
          (Ledger.stray .still .openAir) := by
  intro lines
  have counted : (feed (Ledger.stepOf .still .openAir) {} lines).toOption.map
      (fun (s, out) => (out ++ s.record.pending).length) = some 3 := by decide +kernel
  cases fed : feed (Ledger.stepOf .still .openAir) {} lines with
  | error f =>
    rw [fed] at counted
    cases counted
  | ok result =>
    obtain ⟨last, out⟩ := result
    rw [fed] at counted
    obtain ⟨_, bound, _⟩ := (airspaces_within_records .still .openAir {} lines).2 last out fed
    exact ⟨last, out, rfl, Option.some.inj counted, bound rfl⟩

/-- A circle after a record has been closed, and one before any record has been opened, are
handed out all the same. -/
theorem circles_without_records :
    let circles := ["AC R".toList, "DC 2.5".toList, "DC 3".toList]
    let circle := ["INCLUDE=YES".toList, "CIRCLE RADIUS=17.00 CENTRE=N533813 E0095943".toList]
    (¬ ∀ met ∈ encounters (Ledger.stepOf .still .openAir) {} circles,
      (Ledger.stepOf .still .openAir met.2 met.1).finished.isEmpty ∨
        met.1.record.waiting = false) ∧
    circles.countP (FileKind.openAir.opens Rat) = 1 ∧
    (readAs .still .openAir circles).toOption.map List.length = some 2 ∧
    (¬ ∀ met ∈ encounters (Ledger.stepOf .still .tnp) {} circle,
      (Ledger.stepOf .still .tnp met.2 met.1).finished.isEmpty ∨ met.1.record.waiting = false) ∧
    circle.countP (FileKind.tnp.opens Rat) = 0 ∧
    (readAs .still .tnp circle).toOption.map List.length = some 1 := by
  decide +kernel

end Airspaces
