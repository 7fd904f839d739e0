import Airspaces.Dialect.OpenAir
import Airspaces.Dialect.Tnp
import Airspaces.File.Kind
import Airspaces.Proofs.Text.Head
import Mathlib.Tactic.SplitIfs
/-! Exactly which lines tell the kind of a file. -/
namespace Airspaces.FileKind

variable {line : Text}

/-- A class directive with a well-formed value. -/
theorem detect_openAir_iff :
    detect line = .openAir ↔ ∃ rest value,
      Text.afterHead? line ['A', 'C'] = some rest ∧ OpenAir.value? rest = some value := by
  constructor
  · intro detected
    unfold detect at detected
    split_ifs at detected
    split at detected
    · rename_i starts
      exact ⟨[], [], starts, rfl⟩
    · rename_i value starts
      exact ⟨' ' :: value, value, starts, rfl⟩
    · cases detected
  · rintro ⟨rest, value, starts, spaced⟩
    have switch : Text.afterHead? line ['I', 'N', 'C', 'L', 'U', 'D', 'E', '='] = none :=
      Text.afterHead?_eq_none starts (by decide)
    have type : Text.afterHead? line ['T', 'Y', 'P', 'E', '='] = none :=
      Text.afterHead?_eq_none starts (by decide)
    rw [detect, switch, type, starts]
    unfold OpenAir.value? at spaced
    split at spaced
    · rfl
    · rfl
    · cases spaced

/-- A line that sets the switch or names a type. -/
theorem detect_tnp_iff :
    detect line = .tnp ↔ (∃ value, Text.afterHead? line Tnp.includeHead = some value) ∨
      ∃ value, Text.afterHead? line ['T', 'Y', 'P', 'E', '='] = some value := by
  rw [← Option.isSome_iff_exists, ← Option.isSome_iff_exists, ← Bool.or_eq_true_iff]
  unfold detect
  split_ifs with told
  · exact iff_of_true rfl told
  · refine iff_of_false ?_ told
    split <;> nofun

end Airspaces.FileKind
