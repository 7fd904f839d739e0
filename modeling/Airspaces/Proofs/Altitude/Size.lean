import Airspaces.Altitude.Basic
import Airspaces.Proofs.Number.Scan
import Mathlib.Algebra.Order.Ring.Rat
import Mathlib.Tactic.Ring
/-! The sizes of altitudes in exact numbers. A size is written in hundredths of its unit and is
read as exactly these; a number of whole hundredths is written as it is. -/
namespace Airspaces

namespace LengthUnit

theorem factor_pos (u : LengthUnit) : (0 : Rat) < u.factor := by
  cases u <;> decide +kernel

theorem store_nonneg {u : LengthUnit} {x : Rat} (nonneg : 0 ≤ x) : 0 ≤ u.store x :=
  div_nonneg nonneg u.factor_pos.le

theorem display_nonneg {u : LengthUnit} {x : Rat} (nonneg : 0 ≤ x) : 0 ≤ u.display x :=
  mul_nonneg nonneg u.factor_pos.le

theorem display_store (u : LengthUnit) (x : Rat) : u.display (u.store x) = x :=
  div_mul_cancel₀ x u.factor_pos.ne'

theorem store_metres (x : Rat) : metres.store x = x := by
  have one : (metres.factor : Rat) = 1 := by decide +kernel
  exact (congrArg (x / ·) one).trans (div_one x)

theorem store_feet (x : Rat) : feet.store x = x * 0.3048 := by
  have factor : (feet.factor : Rat) = 1250 / 381 := by decide +kernel
  rw [store, factor]
  ring

theorem display_flightLevel (x : Rat) : flightLevel.display x = x / 30.48 := by
  have factor : (flightLevel.factor : Rat) = 25 / 762 := by decide +kernel
  rw [display, factor]
  ring

end LengthUnit

namespace Altitude

/-- The hundredths nearest to a number. -/
def hundredths (x : Rat) : Nat := Fixed.units 2 x.num.natAbs x.den

theorem hundredths_near {x : Rat} (nonneg : 0 ≤ x) :
    |(hundredths x : Rat) / 100 - x| ≤ 1 / 200 := by
  have near := roundEven_near (x.num.natAbs * 100) x.den_pos
  have parts : (x.den : Rat) ≠ 0 := by exact_mod_cast x.den_nz
  have same : ((x.num.natAbs * 100 : Nat) : Rat) / x.den = x * 100 := by
    rw [div_eq_iff parts, Nat.cast_mul, natAbs_num nonneg, Nat.cast_ofNat]
    ring
  rw [same, abs_le] at near
  have low : -(1 / 2) ≤ (hundredths x : Rat) - x * 100 := near.1
  have high : (hundredths x : Rat) - x * 100 ≤ 1 / 2 := near.2
  rw [abs_le]
  constructor <;> linarith

/-- Whole hundredths stay as they are. -/
theorem hundredths_div (n : Nat) : hundredths (n / 100) = n := by
  have nonneg : (0 : Rat) ≤ n / 100 := by positivity
  have same : (n / 100 : Rat).num.natAbs * 100 = n * (n / 100 : Rat).den := by
    have : ((n / 100 : Rat).num.natAbs : Rat) * 100 = n * (n / 100 : Rat).den := by
      rw [natAbs_num nonneg]
      ring
    exact_mod_cast this
  have rounded := roundEven_mul n (n / 100 : Rat).den_pos
  rw [← same] at rounded
  exact rounded

/-- The text of a number of hundredths. -/
def hundredthsText (n : Nat) : Text :=
  Numeral.digitsText (Digits.ofNat (n / 100))
    (Text.trimEndBy (· == '0') (Digits.padded 2 (n % 100)))

/-- Zeros go from the end of digits with a point, and so does the point after the last one. -/
theorem trimPlaces_digits {whole places : Text} (filled : whole ≠ [])
    (whole_digits : ∀ c ∈ whole, c.isDigit) (place_digits : ∀ c ∈ places, c.isDigit) :
    trimPlaces (whole ++ '.' :: places) =
      Numeral.digitsText whole (Text.trimEndBy (· == '0') places) := by
  have kept : Text.trimEndBy (· == '0') places <+: places := List.rdropWhile_prefix _ _
  have no_point : ∀ {digits : Text}, (∀ c ∈ digits, c.isDigit) →
      Text.trimEndBy (· == '.') digits = digits := by
    intro digits all
    refine Text.trimEndBy_of_forall fun c member => beq_eq_false_iff_ne.mpr ?_
    rintro rfl
    cases all '.' member
  have unsigned : Numeral.digitsText whole (Text.trimEndBy (· == '0') places) ≠ ['-', '0'] := by
    obtain ⟨c, more, rfl⟩ := List.exists_cons_of_ne_nil filled
    have digit := whole_digits c List.mem_cons_self
    have other : c ≠ '-' := by
      rintro rfl
      cases digit
    unfold Numeral.digitsText
    split_ifs <;> simp [other]
  have point : Text.trimEndBy (· == '0') ['.'] = ['.'] := rfl
  have trimmed : Text.trimEndBy (· == '.') (Text.trimEndBy (· == '0') (whole ++ '.' :: places)) =
      Numeral.digitsText whole (Text.trimEndBy (· == '0') places) := by
    rw [← List.singleton_append, ← List.append_assoc, Text.trimEndBy_append, Numeral.digitsText]
    split_ifs with none_left
    · rw [Text.trimEndBy_append, point, if_neg (by decide), Text.trimEndBy_append]
      exact no_point whole_digits
    · rw [Text.trimEndBy_append, no_point fun c member => place_digits c (kept.subset member),
        if_neg none_left, List.append_assoc, List.singleton_append]
  rw [trimPlaces, trimmed, if_neg unsigned]

theorem trimPlaces_hundredths (n : Nat) :
    trimPlaces (Fixed.unitsText 2 n) = hundredthsText n :=
  trimPlaces_digits (Digits.ofNat_ne_nil _) (fun _ => Digits.isDigit_of_mem_ofNat)
    (fun _ => Digits.isDigit_of_mem_padded)

theorem sizeText_of_nonneg {x : Rat} (nonneg : 0 ≤ x) :
    sizeText x = hundredthsText (hundredths x) := by
  have unsigned : decide (x < 0) = false := decide_eq_false (not_lt.mpr nonneg)
  have shown : Scalar.reading x = .finite false x.num.natAbs x.den :=
    congrArg (Reading.finite · _ _) unsigned
  rw [sizeText, shown]
  exact trimPlaces_hundredths _

theorem ends_symbol (u : AltitudeUnit) (rest : Text) :
    Numeral.Ends (u.length.symbol.toList ++ rest) := by
  rintro c first
  cases u <;> cases first <;> decide

/-- A number that was written is read as its hundredths. -/
theorem exists_numeral (n : Nat) :
    ∃ m : Numeral, m.value = (n / 100 : Rat) ∧ ∀ rest, Numeral.Ends rest →
      Numeral.withPower? (hundredthsText n ++ rest) = some (m, rest) := by
  let whole := Digits.ofNat (n / 100)
  let places := Digits.padded 2 (n % 100)
  obtain ⟨zeros, same⟩ := Text.exists_trimEndBy_append '0' places
  have length : places.length = 2 := Digits.length_padded (by decide) (Nat.mod_lt _ (by decide))
  have digits : Digits.value (whole ++ places) = n := by
    rw [Digits.value_append, length, Digits.value_ofNat, Digits.value_padded]
    exact Nat.div_add_mod' n 100
  refine ⟨.ofDigits whole (Text.trimEndBy (· == '0') places), ?_, ?_⟩
  · rw [← Numeral.value_ofDigits_zeros _ _ zeros, ← same, Numeral.value_ofDigits, digits, length]
    norm_num
  · intro rest ended
    refine Numeral.withPower?_digitsText (Digits.ofNat_ne_nil _)
      (fun _ => Digits.isDigit_of_mem_ofNat) ?_ ended
    intro c member
    exact Digits.isDigit_of_mem_padded ((List.rdropWhile_prefix _ _).subset member)

end Altitude
end Airspaces
