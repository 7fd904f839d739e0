import Airspaces.Number.Digits
import Airspaces.Number.Scalar
/-! Decimal numerals in a text. A numeral is read as far as it goes and kept as an
exact decimal, so that the kind of number it becomes is decided in one place. -/
namespace Airspaces

/-- The decimal `mantissa * 10 ^ exponent`. -/
structure Numeral where
  mantissa : Nat
  exponent : Int := 0
  deriving Repr, DecidableEq

namespace Numeral

variable {α : Type} [Scalar α]

def value (n : Numeral) : α := Scalar.ofDecimal n.mantissa n.exponent

/-- The numeral of whole digits and decimal places. -/
def ofDigits (whole places : Text) : Numeral :=
  ⟨Digits.value (whole ++ places), -(places.length : Int)⟩

/-- Digits, or digits and a point with or without places: what may start an
altitude. -/
def startingWithDigit? (t : Text) : Option (Numeral × Text) :=
  let (whole, rest) := Digits.split t
  if whole.isEmpty then none
  else
    match rest with
    | '.' :: rest =>
      let (places, rest) := Digits.split rest
      some (ofDigits whole places, rest)
    | _ => some (ofDigits whole [], rest)

/-- As above, or a point with at least one place. -/
def unsigned? (t : Text) : Option (Numeral × Text) :=
  match t with
  | '.' :: rest =>
    let (places, rest) := Digits.split rest
    if places.isEmpty then none else some (ofDigits [] places, rest)
  | _ => startingWithDigit? t

/-- A sign at the start of a text: is it a minus, and what follows. -/
def sign : Text → Bool × Text
  | '+' :: rest => (false, rest)
  | '-' :: rest => (true, rest)
  | t => (false, t)

/-- A power of ten after the letter E, if it is complete. -/
def power? : Text → Option (Int × Text)
  | c :: rest =>
    if c = 'e' ∨ c = 'E' then
      let (negative, rest) := sign rest
      let (digits, rest) := Digits.split rest
      if digits.isEmpty then none
      else some (if negative then -(Digits.value digits : Int) else Digits.value digits, rest)
    else none
  | [] => none

/-- A numeral that starts with a digit, with its power of ten if there is one. -/
def withPower? (t : Text) : Option (Numeral × Text) :=
  match startingWithDigit? t with
  | none => none
  | some (n, rest) =>
    match power? rest with
    | some (power, rest) => some (⟨n.mantissa, n.exponent + power⟩, rest)
    | none => some (n, rest)

/-- The digits of a whole number after white space and an optional sign, and what
follows. -/
def wholeDigits? (t : Text) : Option (Text × Text) :=
  let (_, rest) := sign (t.dropWhile Text.isAsciiBlank)
  let (digits, rest) := Digits.split rest
  if digits.isEmpty then none else some (digits, rest)

/-- A decimal number after white space and an optional sign, and what follows. -/
def scan? (t : Text) : Option (α × Text) := do
  let (negative, rest) := sign (t.dropWhile Text.isAsciiBlank)
  let (n, rest) ← unsigned? rest
  some (if negative then -n.value else n.value, rest)

/-- The decimal number at a position and the position after it; without a number
the position stays. -/
def scanAt (t : Text) (pos : Nat) : Option α × Nat :=
  match scan? (t.drop pos) with
  | some (x, rest) => (some x, t.length - rest.length)
  | none => (none, pos)

theorem sign_length (t : Text) : (sign t).2.length ≤ t.length := by
  unfold sign
  split <;> simp

theorem startingWithDigit?_length {t rest : Text} {n : Numeral}
    (h : startingWithDigit? t = some (n, rest)) : rest.length < t.length := by
  have whole := Digits.split_length t
  simp only [startingWithDigit?, List.isEmpty_iff] at h
  split at h
  · cases h
  · rename_i some_digit
    have := List.length_pos_iff.2 some_digit
    split at h
    · rename_i after same
      have places := Digits.split_length after
      rw [same] at whole
      simp only [List.length_cons] at whole
      cases h
      omega
    · cases h
      omega

theorem power?_length {t rest : Text} {power : Int}
    (h : power? t = some (power, rest)) : rest.length < t.length := by
  cases t with
  | nil => cases h
  | cons c after =>
    simp only [power?] at h
    split at h
    · have signed := sign_length after
      have digits := Digits.split_length (sign after).2
      split at h
      · cases h
      · cases h
        simp only [List.length_cons]
        omega
    · cases h

theorem withPower?_length {t rest : Text} {n : Numeral}
    (h : withPower? t = some (n, rest)) : rest.length < t.length := by
  unfold withPower? at h
  split at h
  · cases h
  · rename_i found
    have short := startingWithDigit?_length found
    split at h
    · rename_i exponent
      have shorter := power?_length exponent
      cases h
      omega
    · cases h
      exact short

end Numeral
end Airspaces
