import Airspaces.Proofs.Position.Whole
/-! Positions written in degrees, minutes and seconds, and read back. In exact numbers a position
comes back to half a second, its longitude but for whole turns. -/
namespace Airspaces.Position

namespace Whole

/-- A number of seconds with the minutes and the degrees that it makes. -/
def ofSeconds (n : Nat) : Whole where
  degrees := n / 3600
  minutes := ⟨n % 3600 / 60, by omega⟩
  seconds := ⟨n % 3600 % 60, by omega⟩

theorem size_ofSeconds (n : Nat) : ((ofSeconds n).size : Rat) = n / 3600 := by
  have total : n / 3600 * 3600 + n % 3600 / 60 * 60 + n % 3600 % 60 = n := by omega
  have exact_total : ((n / 3600 : Nat) * 3600 + (n % 3600 / 60 : Nat) * 60 +
      (n % 3600 % 60 : Nat) : Rat) = n := by exact_mod_cast total
  rw [size_rat]
  simp only [ofSeconds]
  linarith

end Whole

/-- What is written of an axis is a whole number of seconds and its letter. -/
theorem sexagesimalText_eq (width n : Nat) (hemisphere : Char) :
    sexagesimalText width n hemisphere =
      (Whole.ofSeconds n).colons (width, 2, 2) ++ [' ', hemisphere] := by
  simp [sexagesimalText, Whole.colons, Whole.ofSeconds]

theorem wholeSeconds_near (q : Rat) :
    ∃ n : Nat, wholeSeconds q = .ok n ∧ |(n : Rat) - |q| * 3600| ≤ 1 / 2 := by
  have unfolded : wholeSeconds q =
      .ok (roundEven (Scalar.abs q * Scalar.ofDecimal 36000 (-1)).num.natAbs
        (Scalar.abs q * Scalar.ofDecimal 36000 (-1)).den) := rfl
  rw [unfolded, hour_rat, Scalar.abs_rat]
  exact ⟨_, rfl, roundEven_num_near (by positivity)⟩

/-- The letter that is written gives the sign back, so that the seconds are as near to the angle
as to its size. -/
theorem signed_near {q : Rat} {n : Nat} (near : |(n : Rat) - |q| * 3600| ≤ 1 / 2) {negative : Bool}
    (sign : negative = true ↔ q < 0) :
    |((Whole.ofSeconds n).signed negative : Rat) - q| ≤ 1 / 7200 := by
  obtain ⟨low, high⟩ := abs_le.mp near
  rw [Whole.signed, Whole.size_ofSeconds, abs_le]
  by_cases south : q < 0
  · rw [if_pos (sign.mpr south)]
    rw [abs_of_neg south] at low high
    constructor <;> linarith
  · rw [if_neg fun negative => south (sign.mp negative)]
    rw [abs_of_nonneg (not_lt.mp south)] at low high
    constructor <;> linarith

/-- An angle within the poles rounds to one. -/
theorem size_le_of_near {q : Rat} {n : Nat} (near : |(n : Rat) - |q| * 3600| ≤ 1 / 2)
    (inside : |q| ≤ 90) : ((Whole.ofSeconds n).size : Rat) ≤ 90 := by
  obtain ⟨_, high⟩ := abs_le.mp near
  have below : (n : Rat) < 324001 := by linarith
  have whole : n ≤ 324000 := Nat.lt_succ_iff.mp (by exact_mod_cast below)
  have whole : (n : Rat) ≤ 324000 := by exact_mod_cast whole
  rw [Whole.size_ofSeconds]
  linarith

/-- Degrees with a least width, minutes and seconds below sixty in two digits each, a letter. -/
def Printed (width : Nat) (letter : Char) (t : Text) : Prop :=
  ∃ degrees minutes seconds : Nat, minutes < 60 ∧ seconds < 60 ∧
    t = Digits.padded width degrees ++ ':' ::
      (Digits.padded 2 minutes ++ ':' :: (Digits.padded 2 seconds ++ [' ', letter]))

theorem printed_sexagesimalText (width n : Nat) (letter : Char) :
    Printed width letter (sexagesimalText width n letter) :=
  ⟨n / 3600, n % 3600 / 60, n % 3600 % 60, by omega, by omega, rfl⟩

/-- Every position is written, with minutes and seconds below sixty, and what is written is read
as a position half a second away at most, whole turns of the longitude apart. -/
theorem sexagesimal_reread (p : Position Rat) :
    ∃ north east : Text, p.sexagesimal = .ok (north, east) ∧
      Printed 2 (if 0 ≤ p.latitude then 'N' else 'S') north ∧
      Printed 3 (if 0 ≤ p.longitude then 'E' else 'W') east ∧
      ∃ q : Position Rat, ofSexagesimal? (north ++ ' ' :: east) = some q ∧
        |q.latitude - p.latitude| ≤ 1 / 7200 ∧
        ∃ turns : Int, |q.longitude - (p.longitude + 360 * turns)| ≤ 1 / 7200 := by
  have zero : (Scalar.ofDecimal 0 0 : Rat) = 0 := by decide +kernel
  obtain ⟨n, seconds, near⟩ := wholeSeconds_near p.latitude
  obtain ⟨m, seconds', near'⟩ := wholeSeconds_near p.longitude
  have written : p.sexagesimal =
      .ok (sexagesimalText 2 n (if 0 ≤ p.latitude then 'N' else 'S'),
        sexagesimalText 3 m (if 0 ≤ p.longitude then 'E' else 'W')) := by
    simp only [sexagesimal, latitudeText, longitudeText, seconds, seconds', zero, bind, Except.bind]
  refine ⟨_, _, written, printed_sexagesimalText 2 n _, printed_sexagesimalText 3 m _, ?_⟩
  have south : isSouth (if 0 ≤ p.latitude then 'N' else 'S') = true ↔ p.latitude < 0 := by
    split_ifs with north
    · exact iff_of_false (by decide) (not_lt.mpr north)
    · exact iff_of_true (by decide) (not_le.mp north)
  have west : isWest (if 0 ≤ p.longitude then 'E' else 'W') = true ↔ p.longitude < 0 := by
    split_ifs with east
    · exact iff_of_false (by decide) (not_lt.mpr east)
    · exact iff_of_true (by decide) (not_le.mp east)
  -- The two texts joined are a pair of axes in whole seconds, which both readers know.
  have joined (letters : Char × Char) :
      sexagesimalText 2 n letters.1 ++ ' ' :: sexagesimalText 3 m letters.2 =
        Whole.colonText letters ((2, 2, 2), (3, 2, 2)) (.ofSeconds n) (.ofSeconds m) := by
    simp [sexagesimalText_eq, Whole.colonText]
  have inside := size_le_of_near near ((inLatitudes_rat _).mp p.inLatitudes)
  rw [← Whole.abs_signed] at inside
  obtain ⟨q, located, north, -, turns, east⟩ :=
    exists_of_inside inside ((Whole.ofSeconds m).signed (isWest _))
  refine ⟨q, ?_, ?_, turns, ?_⟩
  · rw [joined (_, _), Whole.ofSexagesimal?_colonText]
    exact located
  · rw [north]
    exact signed_near near south
  · rw [east, add_sub_add_right_eq_sub]
    exact signed_near near' west

end Airspaces.Position
