import Airspaces.Position.Compact
import Airspaces.Proofs.Number.LetterCase
/-! Positions in capitals. The only letters of a position are those of the hemispheres. -/
namespace Airspaces.Position

open Text (capitals thenCapitals)

variable {α : Type} [Scalar α]

theorem isSouth_toUpper (c : Char) : isSouth c.toUpper = isSouth c :=
  Text.toUpper_induct (P := fun a b => isSouth a = isSouth b) (fun _ => rfl) (by decide) c

theorem isWest_toUpper (c : Char) : isWest c.toUpper = isWest c :=
  Text.toUpper_induct (P := fun a b => isWest a = isWest b) (fun _ => rfl) (by decide) c

/-- A number or angle with the character behind it, which becomes a capital as what follows
does. -/
def withCapital (found : α × Char × Text) : α × Char × Text :=
  (found.1, found.2.1.toUpper, capitals found.2.2)

theorem part?_capitals (t : Text) :
    (part? (capitals t) : Option (α × Char × Text)) = (part? t).map withCapital := by
  unfold part?
  rw [Numeral.scan?_capitals]
  match (Numeral.scan? t : Option (α × Text)) with
  | none => rfl
  | some (x, []) => rfl
  | some (x, c :: rest) => rfl

theorem angle?_capitals (t : Text) :
    (angle? (capitals t) : Option (α × Char × Text)) = (angle? t).map withCapital := by
  have colon (c : Char) : c.toUpper = ':' ↔ c = ':' := Text.toUpper_eq_iff (by decide) c
  unfold angle?
  rw [part?_capitals]
  cases (part? t : Option (α × Char × Text)) with
  | none => rfl
  | some found =>
    obtain ⟨degrees, c, rest⟩ := found
    simp only [Option.map_some, Option.bind_eq_bind, Option.bind_some, withCapital, colon,
      part?_capitals]
    split_ifs
    · cases (part? rest : Option (α × Char × Text)) with
      | none => rfl
      | some found =>
        obtain ⟨minutes, c, rest⟩ := found
        simp only [Option.map_some, Option.bind_some, withCapital, colon, part?_capitals]
        split_ifs
        · cases (part? rest : Option (α × Char × Text)) <;> rfl
        · rfl
    · rfl

theorem signedAngle?_capitals {negative : Char → Bool}
    (blind : ∀ c, negative c.toUpper = negative c) (t : Text) :
    (signedAngle? negative (capitals t) : Option (α × Text)) =
      (signedAngle? negative t).map thenCapitals := by
  unfold signedAngle?
  rw [angle?_capitals]
  cases (angle? t : Option (α × Char × Text)) with
  | none => rfl
  | some found =>
    obtain ⟨degrees, c, rest⟩ := found
    by_cases space : c = ' '
    · subst space
      cases rest with
      | nil => rfl
      | cons letter rest =>
        simp [withCapital, thenCapitals, blind, show ' '.toUpper = ' ' from rfl]
    · have space' : c.toUpper ≠ ' ' := Text.toUpper_ne (by decide) space
      simp [withCapital, thenCapitals, blind, space, space']

/-- Positions are read alike in any letter case. -/
theorem ofSexagesimal?_capitals (t : Text) :
    (ofSexagesimal? (capitals t) : Option (Position α)) = ofSexagesimal? t := by
  unfold ofSexagesimal?
  rw [signedAngle?_capitals isSouth_toUpper]
  cases (signedAngle? isSouth t : Option (α × Text)) with
  | none => rfl
  | some found =>
    obtain ⟨latitude, rest⟩ := found
    simp only [Option.map_some, Option.bind_eq_bind, Option.bind_some, thenCapitals,
      signedAngle?_capitals isWest_toUpper]
    cases (signedAngle? isWest rest : Option (α × Text)) <;> rfl

theorem signedGroup_capitals {negative : Char → Bool}
    (blind : ∀ c, negative c.toUpper = negative c) (t : Text) :
    (signedGroup negative (capitals t) : Except (Fault α) (Option (α × Text))) =
      (signedGroup negative t).map (·.map thenCapitals) := by
  cases t with
  | nil => rfl
  | cons letter rest =>
    simp only [signedGroup, Text.capitals_cons, Numeral.wholeDigits?_capitals, blind]
    cases Numeral.wholeDigits? rest with
    | none => rfl
    | some found =>
      obtain ⟨digits, rest⟩ := found
      dsimp only [Option.map_some, thenCapitals]
      cases (ofGroup digits : Except (Fault α) α) <;> rfl

theorem dropSpace_capitals (t : Text) : dropSpace (capitals t) = capitals (dropSpace t) := by
  cases t with
  | nil => rfl
  | cons c t =>
    by_cases space : c = ' '
    · subst space
      rfl
    · have space' : c.toUpper ≠ ' ' := Text.toUpper_ne (by decide) space
      simp [dropSpace, space, space']

theorem ofCompact_capitals (t : Text) :
    (ofCompact (capitals t) : Except (Fault α) (Option (Position α))) = ofCompact t := by
  unfold ofCompact
  rw [signedGroup_capitals isSouth_toUpper]
  match (signedGroup isSouth t : Except (Fault α) (Option (α × Text))) with
  | .error f => rfl
  | .ok none => rfl
  | .ok (some (latitude, rest)) =>
    simp only [Except.map, Option.map_some, thenCapitals, dropSpace_capitals,
      signedGroup_capitals isWest_toUpper, bind, Except.bind]
    match (signedGroup isWest (dropSpace rest) : Except (Fault α) (Option (α × Text))) with
    | .error f => rfl
    | .ok none => rfl
    | .ok (some (longitude, rest)) => rfl

end Airspaces.Position
