import Airspaces.Number.Fixed
import Airspaces.Number.Numeral
import Mathlib.Algebra.Order.Field.Basic
import Mathlib.Algebra.Order.Field.Rat
import Mathlib.Data.List.DropRight
import Mathlib.Tactic.FieldSimp
import Mathlib.Tactic.Linarith
import Mathlib.Tactic.Positivity
/-! Numbers with a fixed count of places. A number that is not negative is written to half of the
last place, and the numeral in the text, with or without the zeros at its end, reads as exactly
what is written. -/
namespace Airspaces

namespace Scalar

theorem ofDecimal_zero (mantissa : Nat) : (ofDecimal mantissa 0 : Rat) = mantissa :=
  congrArg Nat.cast (Nat.mul_one mantissa)

theorem ofDecimal_neg (mantissa places : Nat) :
    (ofDecimal mantissa (-(places : Int)) : Rat) = mantissa / 10 ^ places := by
  cases places with
  | zero => simpa using ofDecimal_zero mantissa
  | succ places =>
    have fraction : (ofDecimal mantissa (-((places + 1 : Nat) : Int)) : Rat) =
        mkRat mantissa (Nat.pow 10 (-((places + 1 : Nat) : Int)).natAbs) :=
      if_pos (by omega)
    rw [fraction, Int.natAbs_neg, Int.natAbs_natCast, Rat.mkRat_eq_div]
    exact congrArg (_ / ·) (Nat.cast_pow 10 (places + 1))

theorem ofDecimal_nonneg (mantissa : Nat) (exponent : Int) :
    (0 : Rat) ≤ ofDecimal mantissa exponent := by
  by_cases negative : exponent < 0
  · obtain ⟨places, rfl⟩ : ∃ places : Nat, exponent = -(places : Int) :=
      ⟨exponent.natAbs, by omega⟩
    rw [ofDecimal_neg]
    positivity
  · have whole : (ofDecimal mantissa exponent : Rat) =
        (mantissa * Nat.pow 10 exponent.natAbs : Nat) := if_neg negative
    rw [whole]
    exact Nat.cast_nonneg _

end Scalar

theorem roundEven_cases (num den : Nat) :
    roundEven num den = num / den ∧ 2 * (num % den) ≤ den ∨
      roundEven num den = num / den + 1 ∧ den ≤ 2 * (num % den) := by
  have parity : num / den % 2 < 2 := Nat.mod_lt _ (by decide)
  unfold roundEven
  dsimp only
  split_ifs <;> omega

/-- A fraction is rounded by half at most. -/
theorem roundEven_near (num : Nat) {den : Nat} (some_parts : 0 < den) :
    |(roundEven num den : Rat) - num / den| ≤ 1 / 2 := by
  have parts : (0 : Rat) < den := by exact_mod_cast some_parts
  have whole : (num : Rat) / den = (num / den : Nat) + (num % den : Nat) / den := by
    have split : (den : Rat) * (num / den : Nat) + (num % den : Nat) = num := by
      exact_mod_cast Nat.div_add_mod num den
    rw [← split]
    field_simp
  have nonneg : (0 : Rat) ≤ (num % den : Nat) / den := by positivity
  have less : ((num % den : Nat) : Rat) / den ≤ 1 := by
    rw [div_le_one parts]
    exact_mod_cast (Nat.mod_lt num some_parts).le
  rw [whole, abs_le]
  obtain ⟨down, small⟩ | ⟨up, large⟩ := roundEven_cases num den
  · have small : ((num % den : Nat) : Rat) / den ≤ 1 / 2 := by
      rw [div_le_iff₀ parts]
      have : (2 * (num % den : Nat) : Rat) ≤ den := by exact_mod_cast small
      linarith
    rw [down]
    constructor <;> linarith
  · have large : 1 / 2 ≤ ((num % den : Nat) : Rat) / den := by
      rw [le_div_iff₀ parts]
      have : (den : Rat) ≤ 2 * (num % den : Nat) := by exact_mod_cast large
      linarith
    rw [up, Nat.cast_succ]
    constructor <;> linarith

theorem natAbs_num {x : Rat} (nonneg : 0 ≤ x) : (x.num.natAbs : Rat) = x * x.den := by
  have unsigned : ((x.num.natAbs : Int) : Rat) = x.num :=
    congrArg Int.cast (Int.natAbs_of_nonneg (Rat.num_nonneg.mpr nonneg))
  rw [Rat.mul_den_eq_num, ← unsigned, Int.cast_natCast]

theorem roundEven_num_near {x : Rat} (nonneg : 0 ≤ x) :
    |(roundEven x.num.natAbs x.den : Rat) - x| ≤ 1 / 2 := by
  have parts : (x.den : Rat) ≠ 0 := by exact_mod_cast x.den_nz
  have near := roundEven_near x.num.natAbs x.den_pos
  rwa [natAbs_num nonneg, mul_div_cancel_right₀ x parts] at near

theorem roundEven_mul (n : Nat) {den : Nat} (some_parts : 0 < den) :
    roundEven (n * den) den = n := by
  simp [roundEven, Nat.mul_div_cancel n some_parts, some_parts]

namespace Digits

theorem split_of_isDigit {digits rest : Text} (all : ∀ c ∈ digits, c.isDigit)
    (ended : ∀ c ∈ rest.head?, c.isDigit = false) : split (digits ++ rest) = (digits, rest) := by
  have stops : rest.takeWhile Char.isDigit = [] ∧ rest.dropWhile Char.isDigit = rest := by
    cases rest with
    | nil => exact ⟨rfl, rfl⟩
    | cons c rest => simp [ended c rfl]
  rw [split, List.takeWhile_append_of_pos all, List.dropWhile_append_of_pos all, stops.1, stops.2,
    List.append_nil]

theorem ofNat_ne_nil (n : Nat) : ofNat n ≠ [] := Nat.toDigits_ne_nil

theorem padded_ne_nil (width n : Nat) : padded width n ≠ [] := by
  simp [padded, ofNat_ne_nil]

theorem isDigit_of_mem_padded {width n : Nat} {c : Char} (member : c ∈ padded width n) :
    c.isDigit := by
  obtain zero | digit := List.mem_append.mp member
  · rw [List.eq_of_mem_replicate zero]
    rfl
  · exact isDigit_of_mem_ofNat digit

theorem length_padded {width n : Nat} (places : 0 < width) (small : n < 10 ^ width) :
    (padded width n).length = width := by
  have fits : (ofNat n).length ≤ width :=
    (Nat.length_toDigits_le_iff (by decide) places).mpr small
  rw [padded, List.length_append, List.length_replicate]
  omega

theorem value_append (t u : Text) : value (t ++ u) = value t * 10 ^ u.length + value u := by
  simp only [value_eq]
  exact ofDigitChars_append t u

theorem value_zeros (n : Nat) : value (List.replicate n '0') = 0 := by
  rw [value_eq, Nat.ofDigitChars_replicate_zero, Nat.mul_zero]

theorem value_padded (width n : Nat) : value (padded width n) = n := by
  rw [padded, value_append, value_zeros, value_ofNat, Nat.zero_mul, Nat.zero_add]

end Digits

namespace Text

/-- From the end of two texts the second one goes first. -/
theorem trimEndBy_append (p : Char → Bool) (t u : Text) :
    trimEndBy p (t ++ u) = if trimEndBy p u = [] then trimEndBy p t else t ++ trimEndBy p u := by
  unfold trimEndBy
  rw [List.reverse_append, List.dropWhile_append]
  cases u.reverse.dropWhile p <;> simp

theorem trimEndBy_of_forall {p : Char → Bool} {t : Text} (kept : ∀ c ∈ t, p c = false) :
    trimEndBy p t = t :=
  List.rdropWhile_eq_self_iff.mpr fun filled => by simp [kept _ (List.getLast_mem filled)]

/-- What is trimmed by one character is some of it. -/
theorem exists_trimEndBy_append (last : Char) (t : Text) :
    ∃ n, t = trimEndBy (· == last) t ++ List.replicate n last := by
  refine ⟨(t.rtakeWhile (· == last)).length, ?_⟩
  have same : t.rtakeWhile (· == last) = List.replicate _ last :=
    List.eq_replicate_iff.mpr ⟨rfl, fun c member => by simpa using List.mem_rtakeWhile_imp member⟩
  rw [← same]
  exact List.rdropWhile_append_rtakeWhile.symm

end Text

namespace Numeral

/-- The text of whole digits and places, without a point if there are no places. -/
def digitsText (whole places : Text) : Text :=
  if places = [] then whole else whole ++ '.' :: places

/-- What follows on a numeral. -/
def Ends (rest : Text) : Prop :=
  ∀ c ∈ rest.head?, c.isDigit = false ∧ c ≠ '.' ∧ c ≠ 'e' ∧ c ≠ 'E'

theorem power?_of_ends {rest : Text} (ended : Ends rest) : power? rest = none := by
  cases rest with
  | nil => rfl
  | cons c rest =>
    obtain ⟨_, _, low, capital⟩ := ended c rfl
    simp [power?, low, capital]

theorem value_nonneg (n : Numeral) : (0 : Rat) ≤ n.value := Scalar.ofDecimal_nonneg _ _

theorem value_ofDigits (whole places : Text) :
    (ofDigits whole places).value =
      (Digits.value (whole ++ places) / 10 ^ places.length : Rat) :=
  Scalar.ofDecimal_neg _ _

/-- Zeros after the last place count nothing. -/
theorem value_ofDigits_zeros (whole places : Text) (n : Nat) :
    (ofDigits whole (places ++ List.replicate n '0')).value =
      ((ofDigits whole places).value : Rat) := by
  rw [value_ofDigits, value_ofDigits, ← List.append_assoc, Digits.value_append, Digits.value_zeros,
    List.length_append, List.length_replicate, pow_add]
  push_cast
  field_simp
  simp

end Numeral
end Airspaces
