import Airspaces.Proofs.OpenAir.LetterCase
import Airspaces.Proofs.Tessellation
import Airspaces.Proofs.Tnp.LetterCase
/-! Letter case of lines. Whether an ASCII line is written in capitals or in small letters makes
no difference to either dialect, unless the value on it is kept as it is written. -/
namespace Airspaces

variable {α : Type} [Scalar α]

/-- A line leaves the same state and hands out the same airspaces in either case, and if it
stops it does so for the same reason. -/
theorem step_in_either_case (g : Geodesy α) (line : Text) (ascii : ∀ c ∈ line, c.toNat < 128) :
    ((∀ head ∈ Tnp.keptHeads, ¬ head <+: Text.upper line) → ∀ s : Tnp.State α,
      (Tnp.step g (Text.upper line) s).Like (Tnp.step g (Text.smalls line) s)) ∧
    ((∀ head ∈ OpenAir.keptHeads, ¬ head <+: Text.upper line) → ∀ r : Record α,
      (OpenAir.step g (Text.upper line) r).Like (OpenAir.step g (Text.smalls line) r)) := by
  have capitals : Text.capitals (Text.smalls line) = Text.upper line := Text.capitals_smalls ascii
  have upper : Text.upper (Text.smalls line) = Text.upper line := Text.upper_smalls ascii
  constructor
  · intro reads s
    rw [← capitals]
    exact Tnp.step_capitals g (upper.symm ▸ reads) s
  · intro reads r
    rw [← capitals]
    exact OpenAir.step_capitals g (upper.symm ▸ reads) r

/-- A point of one dialect and a flight level of the other. -/
theorem step_in_either_case_of_point_and_level :
    let point : Text := "Point=s533813 e0095943".toList
    let level : Text := "Ah Fl100 or 3e3Ft msl".toList
    (Tnp.step Geodesy.still (Text.upper point) {}).Like
      (Tnp.step Geodesy.still (Text.smalls point) {}) ∧
    (Tnp.step Geodesy.still (Text.upper point) {}).state.record.points.size = 1 ∧
    (OpenAir.step Geodesy.still (Text.upper level) {}).Like
      (OpenAir.step Geodesy.still (Text.smalls level) {}) ∧
    (OpenAir.step Geodesy.still (Text.upper level) {}).state.top.datum = .meanSea := by
  intro point level
  have ascii (t : Text) (all : t.all (·.toNat < 128) = true) : ∀ c ∈ t, c.toNat < 128 := by
    simpa using all
  refine ⟨?_, by decide +kernel, ?_, by decide +kernel⟩
  · have small : ∀ c ∈ point, c.toNat < 128 := ascii point (by decide)
    exact (step_in_either_case .still point small).1 (by decide) {}
  · have small : ∀ c ∈ level, c.toNat < 128 := ascii level (by decide)
    exact (step_in_either_case .still level small).2 (by decide) {}

end Airspaces
