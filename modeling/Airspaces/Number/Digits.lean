import Airspaces.Text.Basic
/-! Whole numbers as runs of decimal digits, written and read. Only the ten ASCII
digits count. -/
namespace Airspaces.Digits

def ofNat (n : Nat) : Text := Nat.toDigits 10 n

/-- The digits with zeros in front, up to a least width. -/
def padded (width n : Nat) : Text :=
  let digits := ofNat n
  List.replicate (width - digits.length) '0' ++ digits

theorem ofDigitChars_append (t u : Text) :
    Nat.ofDigitChars 10 (t ++ u) 0 =
      Nat.ofDigitChars 10 t 0 * Nat.pow 10 u.length + Nat.ofDigitChars 10 u 0 := by
  rw [Nat.ofDigitChars_append, Nat.ofDigitChars_eq_ofDigitChars_zero, Nat.mul_comm]
  rfl

/-- The number that a run of digits spells, put together from those of its halves: the
work then grows with the products and not with the square of the length. -/
def valueByHalves (t : Text) : Nat :=
  if t.length ≤ 400 then Nat.ofDigitChars 10 t 0
  else
    let places := t.length / 2
    valueByHalves (t.take (t.length - places)) * Nat.pow 10 places +
      valueByHalves (t.drop (t.length - places))
termination_by t.length
decreasing_by
  · simp only [List.length_take]
    omega
  · simp only [List.length_drop]
    omega

theorem valueByHalves_eq (t : Text) : valueByHalves t = Nat.ofDigitChars 10 t 0 := by
  fun_induction valueByHalves t with
  | case1 => rfl
  | case2 t _ places ih₁ ih₂ =>
    have same := ofDigitChars_append (t.take (t.length - places)) (t.drop (t.length - places))
    rw [List.take_append_drop, List.length_drop, Nat.sub_sub_self (Nat.div_le_self ..)] at same
    rw [ih₁, ih₂, same]

def value (t : Text) : Nat :=
  if t.length ≤ 400 then Nat.ofDigitChars 10 t 0 else valueByHalves t

theorem value_eq (t : Text) : value t = Nat.ofDigitChars 10 t 0 := by
  unfold value
  split
  · rfl
  · exact valueByHalves_eq t

theorem value_ofNat (n : Nat) : value (ofNat n) = n :=
  (value_eq _).trans Nat.ofDigitChars_ten_toDigits

theorem isDigit_of_mem_ofNat {n : Nat} {c : Char} (h : c ∈ ofNat n) : c.isDigit :=
  Nat.isDigit_of_mem_toDigits (by decide) (by decide) h

/-- The digits at the start of a text, and what follows them. -/
def split (t : Text) : Text × Text :=
  (t.takeWhile Char.isDigit, t.dropWhile Char.isDigit)

theorem split_append (t : Text) : (split t).1 ++ (split t).2 = t :=
  List.takeWhile_append_dropWhile

theorem split_length (t : Text) : (split t).1.length + (split t).2.length = t.length := by
  rw [← List.length_append, split_append]

end Airspaces.Digits
