import Airspaces.Proofs.OpenAir.Directive
/-! Faults of OpenAir lines. Coordinates are read or refused, so only a curve without points can
break a run off. -/
namespace Airspaces.OpenAir

variable {α : Type} [Scalar α] {g : Geodesy α} {line : Text} {r : Record α}

theorem addCurve_rotation (r : Record α) (curve : Except (Fault α) (List (Position α))) :
    (addCurve r curve).state.rotation = r.rotation := by
  cases curve <;> rfl

theorem addCurve_fault {curve : Except (Fault α) (List (Position α))} {f : Fault α}
    (broken : (addCurve r curve).fault? = some f) : curve = .error f := by
  cases curve with
  | ok points => cases broken
  | error g =>
    cases broken
    rfl

namespace Directive

/-- No directive sets a sense of turning that is neither of the two. -/
theorem perform_turns (g : Geodesy α) (line : Text) (d : Directive α) (turns : r.Turns) :
    (d.perform g line r).state.Turns := by
  cases d with
  | opens | circle => exact ⟨.clockwise, rfl⟩
  | turn sense => exact ⟨sense, rfl⟩
  | sector | arc =>
    obtain ⟨sense, same⟩ := turns
    exact ⟨sense, (addCurve_rotation r _).trans same⟩
  | _ => exact turns

theorem perform_fault {d : Directive α} {f : Fault α} (turns : r.Turns) (filled : d ≠ .empty)
    (broken : (d.perform g line r).fault? = some f) : g.Fails f := by
  obtain ⟨sense, same⟩ := turns
  cases d with
  | sector radius first last =>
    have curve := addCurve_fault broken
    rw [same] at curve
    exact .sector _ _ _ _ sense curve
  | arc start stop =>
    have curve := addCurve_fault broken
    rw [same] at curve
    exact .between _ _ _ sense curve
  | empty => exact absurd rfl filled
  | _ => cases broken

end Directive

theorem step_turns (g : Geodesy α) (line : Text) (turns : r.Turns) :
    (step g line r).state.Turns := by
  rw [← Directive.perform_ofLine]
  exact Directive.perform_turns g line _ turns

theorem step_fault {f : Fault α} (turns : r.Turns) (filled : line ≠ [])
    (broken : (step g line r).fault? = some f) : g.Fails f := by
  rw [← Directive.perform_ofLine] at broken
  exact Directive.perform_fault turns (Directive.ofLine_ne_empty filled) broken

end Airspaces.OpenAir
