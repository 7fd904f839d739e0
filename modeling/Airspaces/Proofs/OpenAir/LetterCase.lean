import Airspaces.Proofs.Altitude.LetterCase
import Airspaces.Proofs.OpenAir.Directive
import Airspaces.Proofs.Position.LetterCase
/-! OpenAir lines in capitals. They give the same directives, except that the value of a
directive is in capitals too. Only classes, names and radios keep such a value. -/
namespace Airspaces.OpenAir

open Text (capitals thenCapitals)

variable {α : Type} [Scalar α]

theorem value?_capitals (t : Text) : value? (capitals t) = (value? t).map capitals := by
  cases t with
  | nil => rfl
  | cons c t =>
    by_cases space : c = ' '
    · subst space
      rfl
    · have space' : c.toUpper ≠ ' ' := Text.toUpper_ne (by decide) space
      simp [value?, space, space']

namespace Directive

/-- The directive with its value in capitals. -/
def inCapitals : Directive α → Directive α
  | opens value => opens (capitals value)
  | name value => name (capitals value)
  | base value => base (capitals value)
  | top value => top (capitals value)
  | radio value => radio (capitals value)
  | d => d

theorem ofValue_capitals {tells : Text → Directive α}
    (same : ∀ value, tells (capitals value) = (tells value).inCapitals) (t : Text) :
    ofValue tells (capitals t) = (ofValue tells t).inCapitals := by
  rw [ofValue_eq, ofValue_eq, value?_capitals]
  cases value? t with
  | none => rfl
  | some value => exact same value

theorem located_capitals (value : Text) :
    (located (capitals value) : Directive α) = (located value).inCapitals := by
  rw [located, Position.ofSexagesimal?_capitals, located]
  cases (Position.ofSexagesimal? value : Option (Position α)) <;> rfl

theorem ofCircle_capitals (t : Text) :
    (ofCircle (capitals t) : Directive α) = (ofCircle t).inCapitals := by
  rw [ofCircle, Numeral.scan?_capitals, ofCircle]
  cases (Numeral.scan? t : Option (α × Text)) <;> rfl

theorem ofSector_capitals (t : Text) :
    (ofSector (capitals t) : Directive α) = (ofSector t).inCapitals := by
  rw [ofSector, Numeral.scan?_capitals, ofSector]
  cases (Numeral.scan? t : Option (α × Text)) with
  | none => rfl
  | some found =>
    obtain ⟨radius, t⟩ := found
    dsimp only [Option.map_some, thenCapitals]
    rw [Text.capitals_drop, Numeral.scan?_capitals]
    cases (Numeral.scan? (t.drop 1) : Option (α × Text)) with
    | none => rfl
    | some found =>
      obtain ⟨first, t⟩ := found
      dsimp only [Option.map_some, thenCapitals]
      rw [Text.capitals_drop, Numeral.scan?_capitals]
      cases (Numeral.scan? (t.drop 1) : Option (α × Text)) <;> rfl

theorem ofArc_capitals (t : Text) :
    (ofArc (capitals t) : Directive α) = (ofArc t).inCapitals := by
  rw [ofArc, Text.capitals_drop, Position.ofSexagesimal?_capitals,
    Text.after?_capitals (by decide), ofArc]
  cases (Position.ofSexagesimal? (t.drop 1) : Option (Position α)) with
  | none => rfl
  | some start =>
    cases Text.after? ',' t with
    | none => rfl
    | some rest =>
      simp only [Option.map_some, Position.ofSexagesimal?_capitals]
      cases (Position.ofSexagesimal? rest : Option (Position α)) <;> rfl

theorem ofVariable_capitals (t : Text) :
    (ofVariable (capitals t) : Directive α) = (ofVariable t).inCapitals := by
  unfold ofVariable
  simp only [Text.capitals_drop, Text.upper_capitals, Position.ofSexagesimal?_capitals]
  split_ifs
  · cases (Position.ofSexagesimal? (t.drop 2) : Option (Position α)) <;> rfl
  all_goals rfl

theorem ite_capitals {p : Prop} [Decidable p] {d d' e e' : Directive α}
    (yes : d' = d.inCapitals) (no : e' = e.inCapitals) :
    (if p then d' else e') = (if p then d else e).inCapitals := by
  rw [yes, no, apply_ite inCapitals]

theorem ofLine_capitals (line : Text) :
    (ofLine (capitals line) : Directive α) = (ofLine line).inCapitals := by
  rcases line with _ | ⟨c, _ | ⟨d, rest⟩⟩
  · rfl
  · rfl
  · have letters : Text.upper [c.toUpper, d.toUpper] = Text.upper [c, d] :=
      Text.upper_capitals [c, d]
    have told {tells : Text → Directive α}
        (same : ∀ value, tells (capitals value) = (tells value).inCapitals) :=
      ofValue_capitals same rest
    rw [Text.capitals_cons, Text.capitals_cons]
    dsimp only [ofLine]
    rw [letters, Text.capital_toUpper]
    apply ite_capitals (told fun _ => rfl)
    apply ite_capitals (told fun _ => rfl)
    apply ite_capitals (told fun _ => rfl)
    apply ite_capitals (told fun _ => rfl)
    apply ite_capitals (told fun _ => rfl)
    apply ite_capitals (told located_capitals)
    apply ite_capitals (ofCircle_capitals rest)
    apply ite_capitals (ofSector_capitals rest)
    apply ite_capitals (ofArc_capitals rest)
    exact ite_capitals (ofVariable_capitals rest) rfl

/-- The line is in the error only. -/
theorem perform_like (g : Geodesy α) (line line' : Text) (r : Record α) (d : Directive α) :
    (d.perform g line r).Like (d.perform g line' r) := by
  cases d with
  | unreadable cause => exact Step.reject_like r cause line line'
  | _ => exact .refl _

/-- A value that is kept as it is written, or of which only capitals count. -/
def keepsValue : Directive α → Bool
  | opens _ | name _ | radio _ => true
  | _ => false

theorem keepsValue_of_measured {d : Directive α} (measured : d.isMeasured = true) :
    d.keepsValue = false := by
  cases d <;> first | rfl | cases measured

theorem perform_inCapitals (g : Geodesy α) (line : Text) (r : Record α) {d : Directive α}
    (reads : d.keepsValue = false) : d.inCapitals.perform g line r = d.perform g line r := by
  cases d with
  | opens | name | radio => cases reads
  | base value | top value => simp only [inCapitals, perform, Altitude.read_capitals]
  | _ => rfl

end Directive

/-- What lines start with whose values are kept. -/
def keptHeads : List Text := [['A', 'C'], ['A', 'N'], ['A', 'R']]

theorem Directive.exists_keptHead {line : Text}
    (keeps : (ofLine line : Directive α).keepsValue = true) :
    ∃ head ∈ keptHeads, head <+: Text.upper line := by
  rcases line with _ | ⟨c, _ | ⟨d, rest⟩⟩
  · cases keeps
  · cases keeps
  · have starts {head : Text} (same : Text.upper [c, d] = head) :
        head <+: Text.upper (c :: d :: rest) := by
      rw [← same]
      exact ⟨Text.upper rest, (Text.upper_append [c, d] rest).symm⟩
    have told := ofLine_tells (α := α) c d rest
    generalize (ofLine (c :: d :: rest) : Directive α) = e at told keeps
    cases told with
    | opens head | name head | radio head => exact ⟨_, by decide, starts head⟩
    | base | top => cases keeps
    | measured measured => cases (keepsValue_of_measured measured).symm.trans keeps

/-- An OpenAir line does the same in capitals, unless its value is kept. -/
theorem step_capitals (g : Geodesy α) {line : Text}
    (reads : ∀ head ∈ keptHeads, ¬ head <+: Text.upper line) (r : Record α) :
    (step g (capitals line) r).Like (step g line r) := by
  have settled : (Directive.ofLine line : Directive α).keepsValue = false := by
    by_contra keeps
    obtain ⟨head, member, starts⟩ := Directive.exists_keptHead (Bool.of_not_eq_false keeps)
    exact reads head member starts
  rw [← Directive.perform_ofLine, ← Directive.perform_ofLine, Directive.ofLine_capitals,
    Directive.perform_inCapitals g _ r settled]
  exact Directive.perform_like g _ _ r _

end Airspaces.OpenAir
