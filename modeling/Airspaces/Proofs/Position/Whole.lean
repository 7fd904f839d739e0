import Airspaces.Proofs.Position.Compact
import Airspaces.Proofs.Position.Exact
/-! Positions in whole degrees, minutes and seconds, as either dialect writes them: in compact
digit groups or with colons. Both forms are read alike, unless a group has more digits than are
read. -/
namespace Airspaces

namespace Position

variable {α : Type} [Scalar α]

open Numeral (Lead Spelling)

/-- A whole number of degrees, minutes and seconds; the latter have two digits at most. -/
structure Whole where
  degrees : Nat
  minutes : Fin 100
  seconds : Fin 100

namespace Whole

/-- The angle in degrees. -/
def size (a : Whole) : α :=
  Scalar.ofDecimal a.degrees 0 + Scalar.ofDecimal a.minutes 0 / 60.0 +
    Scalar.ofDecimal a.seconds 0 / 3600.0

/-- The angle as one group of digits, with zeros in front up to a width of the degrees. -/
def group (width : Nat) (a : Whole) : Text :=
  Digits.padded width a.degrees ++ (Digits.padded 2 a.minutes ++ Digits.padded 2 a.seconds)

/-- The angle with colons, each number with zeros in front up to a width of its own. -/
def colons (widths : Nat × Nat × Nat) (a : Whole) : Text :=
  Digits.padded widths.1 a.degrees ++ ':' ::
    (Digits.padded widths.2.1 a.minutes ++ ':' :: Digits.padded widths.2.2 a.seconds)

theorem group_ne_nil (width : Nat) (a : Whole) : a.group width ≠ [] := by
  simp [group, Digits.padded_ne_nil]

theorem isDigit_of_mem_group {width : Nat} {a : Whole} {c : Char} (member : c ∈ a.group width) :
    c.isDigit := by
  simp only [group, List.mem_append] at member
  obtain degrees | minutes | seconds := member
  · exact Digits.isDigit_of_mem_padded degrees
  · exact Digits.isDigit_of_mem_padded minutes
  · exact Digits.isDigit_of_mem_padded seconds

theorem length_group (width : Nat) (a : Whole) :
    (a.group width).length = (Digits.padded width a.degrees).length + 4 := by
  have minutes := Digits.length_padded (n := a.minutes) (by decide : 0 < 2) a.minutes.isLt
  have seconds := Digits.length_padded (n := a.seconds) (by decide : 0 < 2) a.seconds.isLt
  rw [group, List.length_append, List.length_append, minutes, seconds]

theorem value_group (width : Nat) (a : Whole) :
    Digits.value (a.group width) = a.degrees * 10000 + a.minutes * 100 + a.seconds := by
  have minutes := Digits.length_padded (n := a.minutes) (by decide : 0 < 2) a.minutes.isLt
  have seconds := Digits.length_padded (n := a.seconds) (by decide : 0 < 2) a.seconds.isLt
  simp only [group, Digits.value_append, Digits.value_padded, List.length_append, minutes, seconds]
  omega

/-- The whole number of degrees is the same as a number and as a decimal. -/
def Agrees (α : Type) [Scalar α] (a : Whole) : Prop :=
  (Scalar.ofNat? a.degrees : Option α) = some (Scalar.ofDecimal a.degrees 0)

/-- A group that is not too long stands for its angle. -/
theorem ofGroup_group {a : Whole} (agrees : a.Agrees α) (width : Nat) :
    ofGroup (a.group width) =
      if groupLimit < (a.group width).length then .error .tooManyDigits else .ok (a.size : α) := by
  have minutes := a.minutes.isLt
  have seconds := a.seconds.isLt
  have whole : Digits.value (a.group width) / 10000 = a.degrees := by
    rw [value_group]
    omega
  have sixtieth : Digits.value (a.group width) % 10000 / 100 = a.minutes := by
    rw [value_group]
    omega
  have last : Digits.value (a.group width) % 100 = a.seconds := by
    rw [value_group]
    omega
  have converted : (Scalar.ofNat? a.degrees : Option α) = _ := agrees
  simp only [ofGroup, whole, sixtieth, last, converted]
  rfl

/-- The angle with the sign of its hemisphere. -/
def signed (negative : Bool) (a : Whole) : α := if negative then -a.size else a.size

/-- A latitude and a longitude as two groups, with or without a space between them. -/
def compactText (letters : Char × Char) (widths : Nat × Nat) (gap : Text)
    (latitude longitude : Whole) : Text :=
  letters.1 :: (latitude.group widths.1 ++ (gap ++ letters.2 :: longitude.group widths.2))

/-- A latitude and a longitude with colons, each before its letter. -/
def colonText (letters : Char × Char) (widths : (Nat × Nat × Nat) × (Nat × Nat × Nat))
    (latitude longitude : Whole) : Text :=
  latitude.colons widths.1 ++ ' ' :: letters.1 :: ' ' ::
    (longitude.colons widths.2 ++ [' ', letters.2])

/-- The numerals between the colons. -/
def angle (widths : Nat × Nat × Nat) (a : Whole) : Angle Spelling :=
  .seconds (.padded widths.1 a.degrees) (.padded widths.2.1 a.minutes) (.padded widths.2.2 a.seconds)

/-- The angle with colons and its letter after a space. -/
def axis (widths : Nat × Nat × Nat) (a : Whole) (l : Lead) (letter : Char) : Axis :=
  (a.angle widths).axis l true letter nofun

theorem text_axis (widths : Nat × Nat × Nat) (a : Whole) (l : Lead) (letter : Char) :
    (a.axis widths l letter).text = l.text ++ (a.colons widths ++ [' ', letter]) :=
  Angle.text_axis _

theorem signed_axis (widths : Nat × Nat × Nat) (a : Whole) {l : Lead} (unsigned : l.minus = none)
    (letter : Char) (negative : Char → Bool) :
    ((a.axis widths l letter).signed negative : α) = a.signed (negative letter) := by
  rw [axis, Angle.signed_axis _ unsigned]
  simp only [angle, Angle.size, Spelling.value_padded]
  rfl

theorem ofSexagesimal?_colonText (letters : Char × Char)
    (widths : (Nat × Nat × Nat) × (Nat × Nat × Nat)) (latitude longitude : Whole) :
    (ofSexagesimal? (colonText letters widths latitude longitude) : Option (Position α)) =
      (of? (latitude.signed (isSouth letters.1)) (longitude.signed (isWest letters.2))).map
        normalize := by
  have blank : ∀ c ∈ [' '], Text.isAsciiBlank c = true := by simp [Text.isAsciiBlank]
  let space : Lead := ⟨[' '], none, blank⟩
  have parts : colonText letters widths latitude longitude =
      (latitude.axis widths.1 .empty letters.1).text ++
        ((longitude.axis widths.2 space letters.2).text ++ []) := by
    simp [text_axis, space, colonText]
  rw [parts, ofSexagesimal?_text, signed_axis _ _ rfl, signed_axis _ _ rfl]

/-- The group after a hemisphere letter. -/
def lettered (width : Nat) (a : Whole) (letter : Char) : Group where
  letter := letter
  lead := .empty
  digits := a.group width
  filled := group_ne_nil width a
  isDigit _ := isDigit_of_mem_group

theorem signed_lettered {a : Whole} (agrees : a.Agrees α) (negative : Char → Bool) (width : Nat)
    (letter : Char) : ((a.lettered width letter).signed negative : Except (Fault α) α) =
      if groupLimit < (a.group width).length then .error .tooManyDigits
      else .ok (a.signed (negative letter)) := by
  simp only [lettered, Group.signed, ofGroup_group agrees]
  by_cases long : groupLimit < (a.group width).length
  · rw [if_pos long, if_pos long]
    rfl
  · rw [if_neg long, if_neg long]
    rfl

theorem ofCompact_compactText {letters : Char × Char} {gap : Text} {latitude longitude : Whole}
    (north : latitude.Agrees α) (east : longitude.Agrees α) (widths : Nat × Nat)
    (letter : letters.2.isDigit = false ∧ letters.2 ≠ ' ') (one_space : gap = [] ∨ gap = [' ']) :
    (ofCompact (compactText letters widths gap latitude longitude) : Except (Fault α) _) =
      if groupLimit < (latitude.group widths.1).length ∨
          groupLimit < (longitude.group widths.2).length then .error .tooManyDigits
      else .ok ((of? (latitude.signed (isSouth letters.1))
        (longitude.signed (isWest letters.2))).map normalize) := by
  obtain ⟨spaced, rfl⟩ : ∃ spaced, gap = Position.gap spaced := by
    rcases one_space with rfl | rfl
    · exact ⟨false, rfl⟩
    · exact ⟨true, rfl⟩
  have apart : Apart spaced (longitude.lettered widths.2 letters.2) := fun _ =>
    ⟨letter.2, letter.1⟩
  have read := ofCompact_text (α := α) (latitude.lettered widths.1 letters.1) _ apart
    (show ∀ c ∈ ([] : Text).head?, c.isDigit = false by nofun)
  rw [List.append_nil, signed_lettered north, signed_lettered east] at read
  refine Eq.trans read ?_
  by_cases long : groupLimit < (latitude.group widths.1).length
  · rw [if_pos long, if_pos (Or.inl long)]
    rfl
  · by_cases long' : groupLimit < (longitude.group widths.2).length
    · rw [if_neg long, if_pos long', if_pos (Or.inr long')]
      rfl
    · rw [if_neg long, if_neg long', if_neg (not_or.mpr ⟨long, long'⟩)]
      rfl

theorem agrees_rat (a : Whole) : a.Agrees Rat := congrArg some (Scalar.ofDecimal_zero _).symm

theorem size_rat (a : Whole) : (a.size : Rat) = a.degrees + a.minutes / 60 + a.seconds / 3600 := by
  have unfolded : (a.size : Rat) = Scalar.ofDecimal a.degrees 0 +
      Scalar.ofDecimal a.minutes 0 / Scalar.ofDecimal 600 (-1) +
      Scalar.ofDecimal a.seconds 0 / Scalar.ofDecimal 36000 (-1) := rfl
  rw [unfolded, sixty_rat, hour_rat, Scalar.ofDecimal_zero, Scalar.ofDecimal_zero,
    Scalar.ofDecimal_zero]

theorem signed_rat (negative : Bool) (a : Whole) :
    (a.signed negative : Rat) =
      if negative then -(a.degrees + a.minutes / 60 + a.seconds / 3600 : Rat)
      else a.degrees + a.minutes / 60 + a.seconds / 3600 := by
  rw [signed, size_rat]

theorem abs_signed (negative : Bool) (a : Whole) : |(a.signed negative : Rat)| = a.size := by
  have nonneg : (0 : Rat) ≤ a.size := by
    rw [size_rat]
    positivity
  unfold signed
  split_ifs
  · rw [abs_neg, abs_of_nonneg nonneg]
  · exact abs_of_nonneg nonneg

/-- Both forms are read as the same position or refused alike, in every arithmetic in which the
degrees are the same as a number and as a decimal, so in exact numbers whatever the degrees are.
Only a group with too many digits is not read at all. -/
theorem forms_agree {letters : Char × Char} {gap : Text}
    (east : letters.2 ∈ ['E', 'e', 'W', 'w']) (one_space : gap = [] ∨ gap = [' '])
    (latitude longitude : Whole) (widths : Nat × Nat)
    (colonWidths : (Nat × Nat × Nat) × (Nat × Nat × Nat)) :
    let compact := compactText letters widths gap latitude longitude
    let colons := colonText letters colonWidths latitude longitude
    let TooLong := groupLimit < (latitude.group widths.1).length ∨
      groupLimit < (longitude.group widths.2).length
    let angle : Rat := latitude.degrees + latitude.minutes / 60 + latitude.seconds / 3600
    let angle' : Rat := longitude.degrees + longitude.minutes / 60 + longitude.seconds / 3600
    (∀ (α : Type) [Scalar α], latitude.Agrees α → longitude.Agrees α →
      (¬ TooLong → (ofCompact compact : Except (Fault α) _) = .ok (ofSexagesimal? colons)) ∧
      (TooLong → (ofCompact compact : Except (Fault α) _) = .error .tooManyDigits)) ∧
    (latitude.Agrees Rat ∧ longitude.Agrees Rat) ∧
    (angle ≤ 90 → ∃ p : Position Rat, ofSexagesimal? colons = some p ∧
      p.latitude = (if letters.1 ∈ ['S', 's'] then -angle else angle) ∧
      (-180 ≤ p.longitude ∧ p.longitude < 180) ∧
      ∃ turns : Int, p.longitude =
        (if letters.2 ∈ ['W', 'w'] then -angle' else angle') + 360 * turns) ∧
    (90 < angle → (ofSexagesimal? colons : Option (Position Rat)) = none) := by
  intro compact colons TooLong angle angle'
  have letter : letters.2.isDigit = false ∧ letters.2 ≠ ' ' := by
    simp only [List.mem_cons, List.not_mem_nil, or_false] at east
    obtain same | same | same | same := east <;> rw [same] <;> decide
  refine ⟨?_, ⟨agrees_rat _, agrees_rat _⟩, ?_, ?_⟩
  · intro α _ agrees agrees'
    have read := ofCompact_compactText agrees agrees' widths letter one_space
    constructor
    · intro short
      rw [read, if_neg short, ofSexagesimal?_colonText]
    · intro long
      rw [read, if_pos long]
  · intro inside
    have between_poles : InLatitudes (latitude.signed (isSouth letters.1) : Rat) := by
      rw [inLatitudes_rat, abs_signed, size_rat]
      exact inside
    obtain ⟨range, turns, same⟩ := normalize_longitude
      ⟨latitude.signed (isSouth letters.1), longitude.signed (isWest letters.2), between_poles⟩
    refine ⟨_, ?_, ?_, range, turns, same.trans ?_⟩
    · rw [ofSexagesimal?_colonText, of?, dif_pos between_poles]
      rfl
    · exact (signed_rat _ latitude).trans (if_congr isSouth_iff rfl rfl)
    · exact congrArg (· + _) ((signed_rat _ longitude).trans (if_congr isWest_iff rfl rfl))
  · intro outside
    have beyond : ¬ InLatitudes (latitude.signed (isSouth letters.1) : Rat) := by
      rw [inLatitudes_rat, abs_signed, size_rat]
      exact not_le.mpr outside
    rw [ofSexagesimal?_colonText, of?, dif_neg beyond]
    rfl

theorem forms_agree_past_the_antimeridian :
    'E' ∈ ['E', 'e', 'W', 'w'] ∧ ([' '] = [] ∨ [' '] = [' ']) ∧
      (ofCompact (compactText ('s', 'E') (4, 1) [' '] ⟨53, 38, 13⟩ ⟨190, 0, 0⟩) :
          Except (Fault Rat) _) =
        .ok (ofSexagesimal?
          (colonText ('s', 'E') ((2, 2, 2), (3, 1, 1)) ⟨53, 38, 13⟩ ⟨190, 0, 0⟩)) := by
  obtain ⟨agree, ⟨north, east⟩, -⟩ := @forms_agree ('s', 'E') [' '] (by decide) (.inr rfl)
    ⟨53, 38, 13⟩ ⟨190, 0, 0⟩ (4, 1) ((2, 2, 2), (3, 1, 1))
  exact ⟨by decide, .inr rfl, (agree Rat north east).1 (by decide +kernel)⟩

/-- Zeros in front can make a group too long. -/
theorem group_with_many_zeros :
    (ofCompact (compactText ('N', 'E') (4297, 3) [' '] ⟨1, 0, 0⟩ ⟨1, 0, 0⟩) :
        Except (Fault Rat) _) = .error .tooManyDigits ∧
      ∃ p : Position Rat, ofSexagesimal?
        (colonText ('N', 'E') ((2, 2, 2), (3, 2, 2)) ⟨1, 0, 0⟩ ⟨1, 0, 0⟩) = some p := by
  have long : groupLimit < (group 4297 ⟨1, 0, 0⟩).length := by
    rw [length_group, Digits.length_padded (by decide) (Nat.one_lt_pow (by decide) (by decide))]
    decide
  constructor
  · rw [ofCompact_compactText (agrees_rat _) (agrees_rat _) _ (by decide) (.inr rfl),
      if_pos (.inl long)]
  · have between_poles : InLatitudes (signed (isSouth 'N') ⟨1, 0, 0⟩ : Rat) := by decide +kernel
    rw [ofSexagesimal?_colonText, of?, dif_pos between_poles]
    exact ⟨_, rfl⟩

end Whole
end Position
end Airspaces
