import Airspaces.Proofs.Position.Axis
import Airspaces.Proofs.Position.Exact
import Mathlib.Data.Bool.AllAny
/-! Coordinates with colons in exact numbers, from the numerals that are written. -/
namespace Airspaces.Position

open Numeral (Lead Spelling)

namespace Angle

/-- The angle that unsigned numerals spell, in exact numbers. -/
def exact : Angle Spelling → Rat
  | degrees d => d.exact
  | minutes d m => d.exact + m.exact / 60
  | seconds d m s => d.exact + m.exact / 60 + s.exact / 3600

theorem size_minutes {π : Type} (value : π → Rat) (d m : π) :
    (minutes d m).size value = value d + value m / 60 := by
  rw [← sixty_rat]
  rfl

theorem size_seconds {π : Type} (value : π → Rat) (d m s : π) :
    (seconds d m s).size value = value d + value m / 60 + value s / 3600 := by
  rw [← sixty_rat, ← hour_rat]
  rfl

theorem size_numeral (a : Angle Spelling) :
    a.size (fun s => (s.numeral.value : Rat)) = a.exact := by
  cases a with
  | degrees d => exact d.numeral_value
  | minutes d m => rw [size_minutes, d.numeral_value, m.numeral_value, exact]
  | seconds d m s => rw [size_seconds, d.numeral_value, m.numeral_value, s.numeral_value, exact]

theorem exact_nonneg (a : Angle Spelling) : 0 ≤ a.exact := by
  cases a with
  | degrees d => exact d.exact_nonneg
  | minutes d m =>
    have := d.exact_nonneg
    have := m.exact_nonneg
    unfold exact
    positivity
  | seconds d m s =>
    have := d.exact_nonneg
    have := m.exact_nonneg
    have := s.exact_nonneg
    unfold exact
    positivity

end Angle

/-- Every pair of unsigned angles with their letters is read, if the latitude is one, and its
longitude is turned into range. No pair is read of a text that ends before its second letter. -/
theorem ofSexagesimal?_of_written {letters : Char × Char} {blanks : Text}
    (north : letters.1 ∈ ['N', 'n', 'S', 's']) (east : letters.2 ∈ ['E', 'e', 'W', 'w'])
    (blank : ∀ c ∈ blanks, Text.isAsciiBlank c = true) (latitude longitude : Angle Spelling)
    (spaced : Bool × Bool) (rest : Text) :
    let before := latitude.text Spelling.text ++ (gap spaced.1 ++ letters.1 ::
      (blanks ++ (longitude.text Spelling.text ++ gap spaced.2)))
    let text := before ++ letters.2 :: rest
    (latitude.exact ≤ 90 → ∃ p : Position Rat, ofSexagesimal? text = some p ∧
      p.latitude = (if letters.1 ∈ ['S', 's'] then -latitude.exact else latitude.exact) ∧
      (-180 ≤ p.longitude ∧ p.longitude < 180) ∧
      ∃ turns : Int, p.longitude =
        (if letters.2 ∈ ['W', 'w'] then -longitude.exact else longitude.exact) + 360 * turns) ∧
    (90 < latitude.exact → (ofSexagesimal? text : Option (Position Rat)) = none) ∧
    ∀ cut, cut <+: before → (ofSexagesimal? cut : Option (Position Rat)) = none := by
  intro before text
  have alone : ∀ c ∈ ['N', 'n', 'S', 's'] ++ ['E', 'e', 'W', 'w'], Alone c :=
    List.all_iff_forall_prop.mp (by decide)
  let northing := latitude.axis .empty spaced.1 letters.1 fun _ =>
    alone letters.1 (List.mem_append_left _ north)
  let easting := longitude.axis ⟨blanks, none, blank⟩ spaced.2 letters.2 fun _ =>
    alone letters.2 (List.mem_append_right _ east)
  have parts : northing.text ++ easting.text = before ++ [letters.2] := by
    simp [northing, easting, Angle.text_axis, before]
  have signed_north : (northing.signed isSouth : Rat) =
      if letters.1 ∈ ['S', 's'] then -latitude.exact else latitude.exact := by
    rw [Angle.signed_axis _ rfl, latitude.size_numeral]
    exact if_congr isSouth_iff rfl rfl
  have signed_east : (easting.signed isWest : Rat) =
      if letters.2 ∈ ['W', 'w'] then -longitude.exact else longitude.exact := by
    rw [Angle.signed_axis _ rfl, longitude.size_numeral]
    exact if_congr isWest_iff rfl rfl
  have distance : |(northing.signed isSouth : Rat)| = latitude.exact := by
    rw [signed_north]
    split_ifs
    · rw [abs_neg, abs_of_nonneg latitude.exact_nonneg]
    · exact abs_of_nonneg latitude.exact_nonneg
  have read : (ofSexagesimal? text : Option (Position Rat)) =
      (of? (northing.signed isSouth) (easting.signed isWest)).map normalize := by
    rw [← ofSexagesimal?_text northing easting rest, ← List.append_assoc, parts, List.append_assoc]
    rfl
  refine ⟨?_, ?_, ?_⟩
  · intro inside
    obtain ⟨p, located, latitude_eq, range, turned⟩ :=
      exists_of_inside (distance.le.trans inside) (easting.signed isWest)
    refine ⟨p, read.trans located, latitude_eq.trans signed_north, range, ?_⟩
    rwa [← signed_east]
  · intro outside
    rw [read, of?_of_outside (outside.trans_eq distance.symm)]
    rfl
  · rintro cut ⟨left, same⟩
    have whole : cut ++ (left ++ [letters.2]) = northing.text ++ easting.text := by
      rw [← List.append_assoc, same, parts]
    exact ofSexagesimal?_cut northing easting whole (by simp)

/-- Decimal minutes on one axis and degrees past the antimeridian on the other. -/
theorem ofSexagesimal?_of_written_minutes_and_degrees :
    's' ∈ ['N', 'n', 'S', 's'] ∧ 'E' ∈ ['E', 'e', 'W', 'w'] ∧
    (∀ c ∈ ['\t', ' '], Text.isAsciiBlank c = true) ∧
    (∃ p : Position Rat, ofSexagesimal? "53:20.5s\t 190.25 E,".toList = some p ∧
      p.latitude = -6401 / 120 ∧ (-180 ≤ p.longitude ∧ p.longitude < 180) ∧
      ∃ turns : Int, p.longitude = 761 / 4 + 360 * turns) ∧
    (ofSexagesimal? "53:20.5s\t 190.25 ".toList : Option (Position Rat)) = none := by
  let latitude : Angle Spelling := .minutes
    ⟨['5', '3'], none, List.all_eq_true.mp (by decide), by decide⟩
    ⟨['2', '0'], some ['5'], List.all_eq_true.mp (by decide), by decide⟩
  let longitude : Angle Spelling := .degrees
    ⟨['1', '9', '0'], some ['2', '5'], List.all_eq_true.mp (by decide), by decide⟩
  have blank : ∀ c ∈ ['\t', ' '], Text.isAsciiBlank c = true := List.all_eq_true.mp (by decide)
  have north : latitude.exact = 6401 / 120 := by decide +kernel
  have east : longitude.exact = 761 / 4 := by decide +kernel
  obtain ⟨read, -, cut⟩ := @ofSexagesimal?_of_written ('s', 'E') ['\t', ' ']
    (by decide) (by decide) blank latitude longitude (false, true) [',']
  obtain ⟨p, found, south, range, turned⟩ := read (by rw [north]; norm_num)
  refine ⟨by decide, by decide, blank, ⟨p, found, ?_, range, ?_⟩, cut _ ⟨[], rfl⟩⟩
  · rw [south, north]
    norm_num
  · simpa [east] using turned

end Airspaces.Position
