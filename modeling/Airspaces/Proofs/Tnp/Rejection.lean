import Airspaces.Proofs.File.Kind
import Airspaces.Proofs.Tnp.Directive
/-! TNP lines that are skipped over for an error. An arc leaves the sense in which it would
have turned, but a later line never looks at that before it sets its own. The line that
tells the kind of the file is never skipped over. -/
namespace Airspaces

variable {α : Type} [Scalar α]

/-- The record with another sense of turning. -/
def Record.turn (r : Record α) (rotation : Int) : Record α := { r with rotation }

namespace Tnp

def State.turn (s : State α) (rotation : Int) : State α :=
  { s with record := s.record.turn rotation }

variable {g : Geodesy α} {line : Text}

namespace Directive

/-- A class letter sets the class at most. -/
theorem fill_classLetter (value : Text) (r : Record α) :
    (classLetter value : Directive α).fill g line r =
      .leave { r with
        airspaceClass := if r.airspaceClass = .other then classOf value else r.airspaceClass } := by
  unfold fill
  dsimp only
  split_ifs <;> rfl

/-- No directive looks at the sense of turning that it meets. -/
theorem fill_turn (g : Geodesy α) (line : Text) (d : Directive α) (r : Record α) (rotation : Int) :
    ∃ after, d.fill g line (r.turn rotation) = (d.fill g line r).map (·.turn after) := by
  cases d with
  | opens | circle => exact ⟨1, rfl⟩
  | arc sense course => exact ⟨(drawArc g line (r.turn sense.rotation) course).state.rotation, rfl⟩
  | unreadable obstacle => cases obstacle <;> exact ⟨rotation, rfl⟩
  | classLetter value =>
    rw [fill_classLetter, fill_classLetter]
    exact ⟨rotation, rfl⟩
  | _ => exact ⟨rotation, rfl⟩

theorem perform_turn (g : Geodesy α) (line : Text) (d : Directive α) (s : State α)
    (rotation : Int) :
    ∃ after, d.perform g line (s.turn rotation) = (d.perform g line s).map (·.turn after) := by
  by_cases switches : ∃ word, d = switch word
  · obtain ⟨word, rfl⟩ := switches
    exact ⟨rotation, rfl⟩
  · have plain : ∀ word, d ≠ switch word := fun word same => switches ⟨word, same⟩
    obtain ⟨after, turned⟩ := d.fill_turn g line s.record rotation
    rw [perform_of_ne_switch g line plain, perform_of_ne_switch g line plain]
    by_cases ignoring : s.ignoring = true
    · rw [if_pos ignoring, if_pos (show (s.turn rotation).ignoring = true from ignoring)]
      exact ⟨rotation, rfl⟩
    · rw [if_neg ignoring, if_neg (show ¬ (s.turn rotation).ignoring = true from ignoring)]
      refine ⟨after, ?_⟩
      change ((d.fill g line (s.record.turn rotation)).map _) = _
      rw [turned]
      rfl

theorem drawArc_rejects {r : Record α} {course : Except (Obstacle α) (Position α × Position α)}
    (rejected : (drawArc g line r course).rejects = true) :
    (drawArc g line r course).finished = [] ∧ (drawArc g line r course).state = r := by
  obtain ⟨obstacle, done, _⟩ | ⟨center, points, done⟩ | ⟨center, start, stop, f, done, _⟩ :=
    drawArc_cases g line r course
  · rw [done]
    exact ⟨halt_finished r line obstacle, halt_state r line obstacle⟩
  · rw [done] at rejected
    cases rejected
  · rw [done] at rejected
    cases rejected

/-- The sense that a bad line leaves: an arc sets its own before it is read. -/
def rotationAfter (rotation : Int) : Directive α → Int
  | arc sense _ => sense.rotation
  | _ => rotation

/-- A bad line leaves nothing behind but the sense of turning. -/
theorem fill_rejects {d : Directive α} {r : Record α}
    (rejected : (d.fill g line r).rejects = true) :
    (d.fill g line r).finished = [] ∧
      (d.fill g line r).state = r.turn (d.rotationAfter r.rotation) := by
  cases d with
  | arc sense course => exact drawArc_rejects rejected
  | unreadable obstacle => cases obstacle <;> exact ⟨rfl, rfl⟩
  | classLetter value =>
    rw [fill_classLetter] at rejected
    cases rejected
  | _ => cases rejected

theorem perform_rejects {d : Directive α} {s : State α}
    (rejected : (d.perform g line s).rejects = true) :
    (d.perform g line s).finished = [] ∧
      (d.perform g line s).state = s.turn (d.rotationAfter s.record.rotation) := by
  rcases perform_cases g line d s with ⟨ignoring, same⟩ | same
  · rw [same] at rejected
    cases rejected
  · rw [same] at rejected ⊢
    obtain ⟨nothing, turned⟩ := fill_rejects rejected
    refine ⟨nothing, ?_⟩
    rw [Step.map_state, turned]
    rfl

end Directive

/-- The sense that a line with a keyword leaves if it is bad. -/
def Keyword.rotationAfter (rotation : Int) : Keyword → Int
  | clockwise => 1
  | antiClockwise => -1
  | _ => rotation

/-- The sense that a bad line leaves: that of its keyword, if it is an arc. -/
def rotationAfter (line : Text) (rotation : Int) : Int :=
  match keyword? line with
  | some (keyword, _) => keyword.rotationAfter rotation
  | none => rotation

theorem ofKeyword_rotationAfter (keyword : Keyword) (value : Text) (rotation : Int) :
    (Directive.ofKeyword keyword value : Directive α).rotationAfter rotation =
      keyword.rotationAfter rotation := by
  cases keyword with
  | point | circle =>
    dsimp only [Directive.ofKeyword, Directive.ofPoint, Directive.ofCircle]
    repeat' split
    all_goals rfl
  | active =>
    rw [Directive.ofKeyword, Directive.ofActive_eq]
    cases activityOf? value <;> rfl
  | _ => rfl

theorem step_turn (g : Geodesy α) (line : Text) (s : State α) (rotation : Int) :
    ∃ after, step g line (s.turn rotation) = (step g line s).map (·.turn after) := by
  rw [← Directive.perform_ofLine, ← Directive.perform_ofLine]
  exact Directive.perform_turn g line _ s rotation

theorem ofLine_rotationAfter {line : Text} (plain : Text.afterHead? line includeHead = none)
    (rotation : Int) :
    (Directive.ofLine line : Directive α).rotationAfter rotation = rotationAfter line rotation := by
  rw [Directive.ofLine_eq, rotationAfter, plain]
  cases keyword? line with
  | none => rfl
  | some found => exact ofKeyword_rotationAfter found.1 found.2 rotation

theorem step_rejects {s : State α} (rejected : (step g line s).rejects = true) :
    (step g line s).finished = [] ∧
      (step g line s).state = s.turn (rotationAfter line s.record.rotation) := by
  cases switched : Text.afterHead? line includeHead with
  | some value =>
    unfold step at rejected
    rw [switched] at rejected
    cases rejected
  | none =>
    rw [← Directive.perform_ofLine] at rejected ⊢
    rw [← ofLine_rotationAfter (α := α) switched]
    exact Directive.perform_rejects rejected

/-- Keywords whose lines may be bad. -/
def Keyword.mayReject : Keyword → Bool
  | point | circle | clockwise | antiClockwise => true
  | _ => false

theorem keywordLine_rejects {keyword : Keyword} (safe : keyword.mayReject = false) (value : Text)
    (r : Record α) : (keywordLine g keyword value line r).rejects = false := by
  cases keyword with
  | point | circle | clockwise | antiClockwise => cases safe
  | classLetter =>
    unfold keywordLine
    dsimp only
    split_ifs <;> rfl
  | active =>
    unfold keywordLine
    dsimp only
    cases activityOf? value <;> rfl
  | _ => rfl

theorem keyword?_mem {line value : Text} {keyword : Keyword}
    (found : keyword? line = some (keyword, value)) :
    ∃ head, (head, keyword) ∈ keywords ∧ Text.afterHead? line head = some value := by
  obtain ⟨⟨head, _⟩, member, read⟩ := List.exists_of_findSome?_eq_some found
  obtain ⟨rest, starts, same⟩ := Option.map_eq_some_iff.mp read
  cases same
  exact ⟨head, member, starts⟩

/-- No line that starts like `TYPE=` has one of those keywords. -/
theorem mayReject_of_first {line value : Text} {keyword : Keyword}
    (found : keyword? line = some (keyword, value))
    (first : (Text.upper line).head? = some 'T') : keyword.mayReject = false := by
  have table : ∀ pair ∈ keywords, pair.2.mayReject = false ∨
      Text.upper pair.1 ≠ [] ∧ (Text.upper pair.1).head? ≠ some 'T' := by decide
  obtain ⟨head, member, starts⟩ := keyword?_mem found
  rcases table (head, keyword) member with safe | ⟨filled, other⟩
  · exact safe
  · exact absurd ((Text.upper_first starts filled).symm.trans first) other

/-- A line that tells the kind of the file sets the switch or opens a record. -/
theorem step_detecting (g : Geodesy α) {line : Text} (s : State α)
    (detected : FileKind.detect line = .tnp) : (step g line s).rejects = false := by
  unfold step
  cases switched : Text.afterHead? line includeHead with
  | some value => rfl
  | none =>
    obtain ⟨rest, typed⟩ := (FileKind.detect_tnp_iff.mp detected).resolve_left (by simp [switched])
    have first : (Text.upper line).head? = some 'T' := Text.upper_first typed (by decide)
    dsimp only
    split_ifs
    · rfl
    · cases found : keyword? line with
      | none => rfl
      | some pair =>
        obtain ⟨keyword, value⟩ := pair
        exact keywordLine_rejects (mayReject_of_first found first) value s.record

end Tnp
end Airspaces
