import Airspaces.Proofs.Position.Compact
import Airspaces.Proofs.Text.Part
import Airspaces.Proofs.Tnp.Records
import Airspaces.Proofs.Tnp.Rejection
/-! Faults of TNP lines. Either an arc has no points, or a coordinate on the line has a digit
group without a value. -/
namespace Airspaces.Tnp

open Position

variable {α : Type} [Scalar α] {g : Geodesy α} {line : Text} {f : Fault α}

theorem afterSpacedHead?_suffix {head t rest : Text}
    (found : afterSpacedHead? head t = some rest) : rest <:+ t := by
  obtain ⟨later, spaced, headed⟩ := Option.bind_eq_some_iff.mp found
  exact (Text.afterHead?_suffix headed).trans (Text.from?_suffix spaced)

theorem target?_suffix {t rest : Text} (found : target? t = some rest) : rest <:+ t := by
  obtain ⟨later, spaced, headed⟩ := Option.bind_eq_some_iff.mp found
  exact (afterSpacedHead?_suffix headed).trans (Text.after?_suffix spaced)

theorem positionOf_fault {t : Text} {cause : LineCause}
    (broken : positionOf t cause = .error (.fault f)) : GroupFault t f := by
  unfold positionOf at broken
  split at broken
  · rename_i g read
    cases broken
    exact ofCompact_error read
  · cases broken
  · cases broken

theorem courseOf_fault {t : Text} (broken : courseOf t = .error (.fault f)) : GroupFault t f := by
  unfold courseOf at broken
  cases centred : afterSpacedHead? centreHead t with
  | none =>
    rw [centred] at broken
    cases broken
  | some parameter =>
    have after := afterSpacedHead?_suffix centred
    rw [centred] at broken
    dsimp only at broken
    cases center : (positionOf parameter .malformedArcCenter : Except (Obstacle α) _) with
    | error obstacle =>
      rw [center] at broken
      cases broken
      exact (positionOf_fault center).mono after.isInfix
    | ok position =>
      rw [center] at broken
      dsimp only at broken
      cases targeted : target? parameter with
      | none =>
        rw [targeted] at broken
        cases broken
      | some last =>
        have later := (target?_suffix targeted).trans after
        rw [targeted] at broken
        dsimp only at broken
        cases stop : (positionOf last .malformedArcEnd : Except (Obstacle α) _) with
        | error obstacle =>
          rw [stop] at broken
          cases broken
          exact (positionOf_fault stop).mono later.isInfix
        | ok position =>
          rw [stop] at broken
          cases broken

namespace Directive

/-- A directive with a coordinate that is its only number. -/
theorem located_fault {t : Text} {cause : LineCause} {locate : Position α → Directive α}
    (sound : ∀ position, (locate position).numberFault? = none)
    (broken : (match positionOf t cause with
      | .error obstacle => unreadable obstacle
      | .ok position => locate position).numberFault? = some f) : GroupFault t f := by
  cases read : (positionOf t cause : Except (Obstacle α) _) with
  | error obstacle =>
    rw [read] at broken
    cases obstacle with
    | cause cause => cases broken
    | fault g =>
      cases broken
      exact positionOf_fault read
  | ok position =>
    rw [read] at broken
    cases (sound position).symm.trans broken

theorem ofPoint_fault {t : Text} (broken : (ofPoint t).numberFault? = some f) :
    GroupFault t f :=
  located_fault (fun _ => rfl) broken

theorem ofCircle_fault {t : Text} (broken : (ofCircle t).numberFault? = some f) :
    GroupFault t f := by
  unfold ofCircle at broken
  cases headed : Text.afterHead? t radiusHead with
  | none =>
    rw [headed] at broken
    cases broken
  | some parameter =>
    rw [headed] at broken
    dsimp only at broken
    cases scanned : (Numeral.scan? parameter : Option (α × Text)) with
    | none =>
      rw [scanned] at broken
      cases broken
    | some radius =>
      rw [scanned] at broken
      dsimp only at broken
      cases centred : afterSpacedHead? centreHead parameter with
      | none =>
        rw [centred] at broken
        cases broken
      | some last =>
        have later := (afterSpacedHead?_suffix centred).trans (Text.afterHead?_suffix headed)
        rw [centred] at broken
        exact (located_fault (fun _ => rfl) broken).mono later.isInfix

theorem ofKeyword_fault {keyword : Keyword} {value : Text}
    (broken : (ofKeyword keyword value).numberFault? = some f) : GroupFault value f := by
  cases keyword with
  | point => exact ofPoint_fault broken
  | circle => exact ofCircle_fault broken
  | clockwise | antiClockwise =>
    dsimp only [ofKeyword] at broken
    cases read : (courseOf value : Except (Obstacle α) _) with
    | ok course =>
      rw [read] at broken
      cases broken
    | error obstacle =>
      rw [read] at broken
      cases obstacle with
      | cause cause => cases broken
      | fault g =>
        cases broken
        exact courseOf_fault read
  | active =>
    rw [ofKeyword, ofActive_eq] at broken
    cases activity : activityOf? value with
    | none =>
      rw [activity] at broken
      cases broken
    | some days =>
      rw [activity] at broken
      cases broken
  | _ => cases broken

/-- A number that cannot be read stands on the line. -/
theorem ofLine_fault (broken : (ofLine line).numberFault? = some f) : GroupFault line f := by
  rw [ofLine_eq] at broken
  cases switched : Text.afterHead? line includeHead with
  | some value =>
    rw [switched] at broken
    cases broken
  | none =>
    rw [switched] at broken
    cases found : keyword? line with
    | none =>
      rw [found] at broken
      cases broken
    | some pair =>
      obtain ⟨keyword, value⟩ := pair
      obtain ⟨head, _, starts⟩ := keyword?_mem found
      rw [found] at broken
      exact (ofKeyword_fault broken).mono (Text.afterHead?_suffix starts).isInfix

end Directive

theorem drawArc_rotation (g : Geodesy α) (line : Text) (r : Record α)
    (course : Except (Obstacle α) (Position α × Position α)) :
    (drawArc g line r course).state.rotation = r.rotation := by
  obtain ⟨obstacle, done, _⟩ | ⟨center, points, done⟩ | ⟨center, start, stop, f, done, _⟩ :=
    drawArc_cases g line r course
  · rw [done, halt_state]
  · rw [done]
    rfl
  · rw [done]
    rfl

theorem drawArc_fault {r : Record α} {course : Except (Obstacle α) (Position α × Position α)}
    (turns : r.Turns) (broken : (drawArc g line r course).fault? = some f) :
    course = .error (.fault f) ∨ g.Fails f := by
  obtain ⟨sense, same⟩ := turns
  obtain ⟨obstacle, done, given⟩ | ⟨center, points, done⟩ | ⟨center, start, stop, h, done, curve⟩ :=
    drawArc_cases g line r course
  · rw [done] at broken
    cases obstacle with
    | cause cause => cases broken
    | fault h =>
      cases broken
      exact .inl (given f rfl)
  · rw [done] at broken
    cases broken
  · rw [done] at broken
    cases broken
    rw [same] at curve
    exact .inr (.between center start stop sense curve)

namespace Directive

theorem fill_turns (g : Geodesy α) (line : Text) (d : Directive α) {r : Record α}
    (turns : r.Turns) : (d.fill g line r).state.Turns := by
  cases d with
  | opens | circle => exact ⟨.clockwise, rfl⟩
  | arc sense course => exact ⟨sense, drawArc_rotation g line _ course⟩
  | unreadable obstacle => cases obstacle <;> exact turns
  | classLetter value =>
    rw [fill_classLetter]
    exact turns
  | _ => exact turns

theorem fill_fault {d : Directive α} {r : Record α} (broken : (d.fill g line r).fault? = some f) :
    d.numberFault? = some f ∨ g.Fails f := by
  cases d with
  | arc sense course =>
    rcases drawArc_fault ⟨sense, rfl⟩ broken with rfl | fails
    · exact .inl rfl
    · exact .inr fails
  | unreadable obstacle =>
    cases obstacle with
    | cause cause => cases broken
    | fault g =>
      cases broken
      exact .inl rfl
  | classLetter value =>
    rw [fill_classLetter] at broken
    cases broken
  | _ => cases broken

end Directive

theorem step_turns (g : Geodesy α) (line : Text) {s : State α} (turns : s.record.Turns) :
    (step g line s).state.record.Turns := by
  rw [← Directive.perform_ofLine]
  rcases Directive.perform_cases g line (.ofLine line) s with ⟨ignoring, same⟩ | same
  · rw [same]
    exact turns
  · rw [same]
    exact Directive.fill_turns g line _ turns

theorem step_fault {s : State α} (broken : (step g line s).fault? = some f) :
    GroupFault line f ∨ g.Fails f := by
  rw [← Directive.perform_ofLine] at broken
  rcases Directive.perform_cases g line (.ofLine line) s with ⟨ignoring, same⟩ | same
  · rw [same] at broken
    cases broken
  · rw [same] at broken
    rcases Directive.fill_fault broken with number | fails
    · exact .inl (Directive.ofLine_fault number)
    · exact .inr fails

end Airspaces.Tnp
