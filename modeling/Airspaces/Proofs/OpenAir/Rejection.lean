import Airspaces.Proofs.File.Kind
import Airspaces.Proofs.OpenAir.Directive
/-! OpenAir lines that do not come to their end. They leave nothing behind, and the line that tells
the kind of the file is never skipped over for an error. -/
namespace Airspaces.OpenAir

variable {α : Type} [Scalar α]

theorem addCurve_stops {r : Record α} {curve : Except (Fault α) (List (Position α))}
    (stopped : (addCurve r curve).stop ≠ none) :
    (addCurve r curve).finished = [] ∧ (addCurve r curve).state = r := by
  cases curve with
  | ok points => exact absurd rfl stopped
  | error f => exact ⟨rfl, rfl⟩

theorem Directive.perform_stops {g : Geodesy α} {line : Text} {r : Record α} {d : Directive α}
    (stopped : (d.perform g line r).stop ≠ none) :
    (d.perform g line r).finished = [] ∧ (d.perform g line r).state = r := by
  cases d with
  | unreadable | empty => exact ⟨rfl, rfl⟩
  | sector | arc => exact addCurve_stops stopped
  | _ => exact absurd rfl stopped

/-- A line that stops, for whatever reason, has changed nothing before. -/
theorem step_stops {g : Geodesy α} {line : Text} {r : Record α}
    (stopped : (step g line r).stop ≠ none) :
    (step g line r).finished = [] ∧ (step g line r).state = r := by
  rw [← Directive.perform_ofLine] at stopped ⊢
  exact Directive.perform_stops stopped

theorem step_rejects {g : Geodesy α} {line : Text} {r : Record α}
    (rejected : (step g line r).rejects = true) :
    (step g line r).finished = [] ∧ (step g line r).state = r := by
  obtain ⟨e, stopped⟩ := Step.rejects_iff.mp rejected
  apply step_stops
  rw [stopped]
  nofun

theorem attributeLine_rejects (line : Text) (r : Record α) :
    (attributeLine line r).rejects = false := by
  unfold attributeLine
  cases value? (line.drop 2) with
  | none => rfl
  | some value =>
    dsimp only
    split_ifs <;> rfl

/-- A line that tells the kind of the file is an attribute. -/
theorem step_detecting (g : Geodesy α) {line : Text} (r : Record α)
    (detected : FileKind.detect line = .openAir) : (step g line r).rejects = false := by
  obtain ⟨rest, -, starts, -⟩ := FileKind.detect_openAir_iff.mp detected
  have first : (Text.upper line).head? = some 'A' := Text.upper_first starts (by decide)
  cases line with
  | nil => cases first
  | cons c tail =>
    have opens : ∀ d, Text.capital c = [d] → d = 'A' := by
      intro d single
      simpa [Text.upper, single] using first
    -- Only boundaries and variables can be bad, and they start with other letters.
    unfold step
    dsimp only
    split_ifs with boundary variable_line
    · cases opens 'D' boundary
    · cases opens 'V' variable_line
    · exact attributeLine_rejects _ r
    · rfl

end Airspaces.OpenAir
