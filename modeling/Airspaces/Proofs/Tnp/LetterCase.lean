import Airspaces.Proofs.Altitude.LetterCase
import Airspaces.Proofs.Position.LetterCase
import Airspaces.Proofs.Tnp.Rejection
/-! TNP lines in capitals. They give the same directives, except that the value of a directive
is in capitals too. Only titles, class letters and radios keep such a value. -/
namespace Airspaces.Tnp

open Text (capitals thenCapitals)

variable {α : Type} [Scalar α]

theorem afterSpacedHead?_capitals (head t : Text) :
    afterSpacedHead? head (capitals t) = (afterSpacedHead? head t).map capitals := by
  unfold afterSpacedHead?
  rw [Text.from?_capitals (by decide)]
  cases Text.from? ' ' t with
  | none => rfl
  | some rest => exact Text.afterHead?_capitals rest head

theorem target?_capitals (t : Text) : target? (capitals t) = (target? t).map capitals := by
  unfold target?
  rw [Text.after?_capitals (by decide)]
  cases Text.after? ' ' t with
  | none => rfl
  | some rest => exact afterSpacedHead?_capitals targetHead rest

theorem positionOf_capitals (t : Text) (cause : LineCause) :
    (positionOf (capitals t) cause : Except (Obstacle α) (Position α)) = positionOf t cause := by
  unfold positionOf
  rw [Position.ofCompact_capitals]

theorem courseOf_capitals (t : Text) :
    (courseOf (capitals t) : Except (Obstacle α) (Position α × Position α)) = courseOf t := by
  unfold courseOf
  rw [afterSpacedHead?_capitals]
  cases afterSpacedHead? centreHead t with
  | none => rfl
  | some parameter =>
    simp only [Option.map_some, positionOf_capitals, target?_capitals]
    cases target? parameter with
    | none => rfl
    | some parameter => simp only [Option.map_some, positionOf_capitals]

theorem keyword?_capitals (line : Text) :
    keyword? (capitals line) = (keyword? line).map thenCapitals := by
  unfold keyword?
  rw [List.map_findSome?]
  congr 1
  funext (head, keyword)
  simp only [Function.comp_apply, Text.afterHead?_capitals]
  cases Text.afterHead? line head <;> rfl

namespace Directive

/-- The directive with its value in capitals. -/
def inCapitals : Directive α → Directive α
  | switch value => switch (capitals value)
  | opens value => opens (capitals value)
  | classLetter value => classLetter (capitals value)
  | title value => title (capitals value)
  | tops value => tops (capitals value)
  | base value => base (capitals value)
  | radio value => radio (capitals value)
  | d => d

theorem ofPoint_capitals (t : Text) :
    (ofPoint (capitals t) : Directive α) = (ofPoint t).inCapitals := by
  unfold ofPoint
  rw [positionOf_capitals]
  cases (positionOf t .malformedPoint : Except (Obstacle α) (Position α)) <;> rfl

theorem ofCircle_capitals (t : Text) :
    (ofCircle (capitals t) : Directive α) = (ofCircle t).inCapitals := by
  unfold ofCircle
  rw [Text.afterHead?_capitals]
  cases Text.afterHead? t radiusHead with
  | none => rfl
  | some parameter =>
    simp only [Option.map_some, Numeral.scan?_capitals, afterSpacedHead?_capitals]
    cases (Numeral.scan? parameter : Option (α × Text)) with
    | none => rfl
    | some found =>
      cases afterSpacedHead? centreHead parameter with
      | none => rfl
      | some parameter =>
        simp only [Option.map_some, thenCapitals, positionOf_capitals]
        cases (positionOf parameter .malformedCircleCenter : Except (Obstacle α) (Position α)) <;>
          rfl

theorem ofKeyword_capitals (keyword : Keyword) (value : Text) :
    (ofKeyword keyword (capitals value) : Directive α) = (ofKeyword keyword value).inCapitals := by
  cases keyword with
  | point => exact ofPoint_capitals value
  | circle => exact ofCircle_capitals value
  | clockwise => exact congrArg (arc .clockwise) (courseOf_capitals value)
  | antiClockwise => exact congrArg (arc .counterClockwise) (courseOf_capitals value)
  | active =>
    have same : activityOf? (capitals value) = activityOf? value := by
      rw [activityOf?, Text.upper_capitals, activityOf?]
    rw [ofKeyword, ofActive_eq, same, ofKeyword, ofActive_eq]
    cases activityOf? value <;> rfl
  | _ => rfl

theorem ofLine_capitals (line : Text) :
    (ofLine (capitals line) : Directive α) = (ofLine line).inCapitals := by
  rw [ofLine_eq, ofLine_eq, Text.afterHead?_capitals, keyword?_capitals]
  cases Text.afterHead? line includeHead with
  | some value => rfl
  | none =>
    cases keyword? line with
    | none => rfl
    | some found => exact ofKeyword_capitals found.1 found.2

/-- A value that is kept as it is written, or of which only capitals count. -/
def keepsValue : Directive α → Bool
  | classLetter _ | title _ | radio _ => true
  | _ => false

variable (g : Geodesy α)

theorem halt_like (line line' : Text) (r : Record α) (obstacle : Obstacle α) :
    (halt r line obstacle).Like (halt r line' obstacle) := by
  cases obstacle with
  | cause cause => exact Step.reject_like r cause line line'
  | fault f => exact .refl _

theorem drawArc_like (line line' : Text) (r : Record α)
    (course : Except (Obstacle α) (Position α × Position α)) :
    (drawArc g line r course).Like (drawArc g line' r course) := by
  unfold drawArc
  cases r.lastPoint? with
  | none => exact Step.reject_like r _ line line'
  | some start =>
    cases course with
    | error obstacle => exact halt_like line line' r obstacle
    | ok route => exact .refl _

/-- The line is in the error only. -/
theorem fill_like (line line' : Text) (r : Record α) (d : Directive α) :
    (d.fill g line r).Like (d.fill g line' r) := by
  cases d with
  | arc sense course => exact drawArc_like g line line' _ course
  | unreadable obstacle => exact halt_like line line' r obstacle
  | _ => exact .refl _

theorem perform_like (line line' : Text) (s : State α) (d : Directive α) :
    (d.perform g line s).Like (d.perform g line' s) := by
  cases d with
  | switch value => exact .refl _
  | _ =>
    unfold perform
    split_ifs
    · exact .refl _
    · exact (fill_like g line line' s.record _).map _

theorem perform_inCapitals (line : Text) (s : State α) {d : Directive α}
    (reads : d.keepsValue = false) : d.inCapitals.perform g line s = d.perform g line s := by
  cases d with
  | classLetter | title | radio => cases reads
  | switch value => simp only [inCapitals, perform, ignoringAfter, Text.upper_capitals]
  | opens value => simp only [inCapitals, perform, fill, typeOf, Text.upper_capitals]
  | tops value | base value => simp only [inCapitals, perform, fill, Altitude.read_capitals]
  | _ => rfl

end Directive

/-- What lines start with whose values are kept. -/
def keptHeads : List Text := [
  ['T', 'I', 'T', 'L', 'E', '='],
  ['C', 'L', 'A', 'S', 'S', '='],
  ['R', 'A', 'D', 'I', 'O', '=']]

/-- Keywords whose values are kept. -/
def Keyword.keepsValue : Keyword → Bool
  | title | classLetter | radio => true
  | _ => false

namespace Directive

theorem ofPoint_reads (t : Text) : (ofPoint t : Directive α).keepsValue = false := by
  unfold ofPoint
  split <;> rfl

theorem ofCircle_reads (t : Text) : (ofCircle t : Directive α).keepsValue = false := by
  unfold ofCircle
  repeat' split
  all_goals rfl

theorem ofKeyword_keepsValue (keyword : Keyword) (value : Text) :
    (ofKeyword keyword value : Directive α).keepsValue = keyword.keepsValue := by
  cases keyword with
  | point => exact ofPoint_reads value
  | circle => exact ofCircle_reads value
  | active =>
    rw [ofKeyword, ofActive_eq]
    cases activityOf? value <;> rfl
  | _ => rfl

theorem exists_keptHead {line : Text}
    (keeps : (ofLine line : Directive α).keepsValue = true) :
    ∃ head ∈ keptHeads, head <+: Text.upper line := by
  have table : ∀ pair ∈ keywords, pair.2.keepsValue = true → Text.upper pair.1 ∈ keptHeads := by
    decide
  rw [ofLine_eq] at keeps
  cases switched : Text.afterHead? line includeHead with
  | some value =>
    rw [switched] at keeps
    cases keeps
  | none =>
    rw [switched] at keeps
    cases found : keyword? line with
    | none =>
      rw [found] at keeps
      cases keeps
    | some pair =>
      obtain ⟨keyword, value⟩ := pair
      rw [found] at keeps
      obtain ⟨head, member, starts⟩ := keyword?_mem found
      have kept := (ofKeyword_keepsValue keyword value).symm.trans keeps
      exact ⟨_, table _ member kept, Text.upper_startsWith starts⟩

end Directive

/-- A TNP line does the same in capitals, unless its value is kept. -/
theorem step_capitals (g : Geodesy α) {line : Text}
    (reads : ∀ head ∈ keptHeads, ¬ head <+: Text.upper line) (s : State α) :
    (step g (capitals line) s).Like (step g line s) := by
  have settled : (Directive.ofLine line : Directive α).keepsValue = false := by
    by_contra keeps
    obtain ⟨head, member, starts⟩ := Directive.exists_keptHead (Bool.of_not_eq_false keeps)
    exact reads head member starts
  rw [← Directive.perform_ofLine, ← Directive.perform_ofLine, Directive.ofLine_capitals,
    Directive.perform_inCapitals g _ s settled]
  exact Directive.perform_like g _ _ s _

end Airspaces.Tnp
