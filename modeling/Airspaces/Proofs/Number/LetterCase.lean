import Airspaces.Proofs.Number.Scan
import Airspaces.Proofs.Text.LetterCase
/-! Numerals in capitals. The letter of a power of ten is read in either case, and there is no
other letter in a numeral. -/
namespace Airspaces

open Text (capitals thenCapitals)

theorem Digits.split_capitals (t : Text) : split (capitals t) = thenCapitals (split t) := by
  have digits : (capitals t).takeWhile Char.isDigit = t.takeWhile Char.isDigit := by
    induction t with
    | nil => rfl
    | cons c t ih =>
      rw [Text.capitals_cons, List.takeWhile_cons, List.takeWhile_cons, Text.isDigit_toUpper, ih]
      split
      · rename_i digit
        rw [Text.toUpper_of_isDigit digit]
      · rfl
  exact Prod.ext digits (Text.dropWhile_capitals Text.isDigit_toUpper t)

namespace Numeral

variable {α : Type} [Scalar α]

theorem sign_capitals (t : Text) : sign (capitals t) = thenCapitals (sign t) := by
  cases t with
  | nil => rfl
  | cons c t =>
    by_cases plus : c = '+'
    · subst plus
      rfl
    by_cases minus : c = '-'
    · subst minus
      rfl
    have plus' : c.toUpper ≠ '+' := Text.toUpper_ne (by decide) plus
    have minus' : c.toUpper ≠ '-' := Text.toUpper_ne (by decide) minus
    rw [sign_cons plus minus, Text.capitals_cons, sign_cons plus' minus']
    rfl

theorem startingWithDigit?_capitals (t : Text) :
    startingWithDigit? (capitals t) = (startingWithDigit? t).map thenCapitals := by
  unfold startingWithDigit?
  rw [Digits.split_capitals]
  obtain ⟨whole, rest⟩ := Digits.split t
  dsimp only [thenCapitals]
  by_cases none : whole.isEmpty
  · rw [if_pos none, if_pos none]
    rfl
  rw [if_neg none, if_neg none]
  cases rest with
  | nil => rfl
  | cons c rest =>
    by_cases point : c = '.'
    · subst point
      have places := Digits.split_capitals rest
      simp only [Text.capitals_cons, show '.'.toUpper = '.' from rfl, places]
      rfl
    · have point' : c.toUpper ≠ '.' := Text.toUpper_ne (by decide) point
      simp [thenCapitals, point, point']

theorem unsigned?_capitals (t : Text) :
    unsigned? (capitals t) = (unsigned? t).map thenCapitals := by
  cases t with
  | nil => rfl
  | cons c t =>
    by_cases point : c = '.'
    · subst point
      simp only [unsigned?, Text.capitals_cons, show '.'.toUpper = '.' from rfl,
        Digits.split_capitals, thenCapitals]
      split <;> rfl
    · have point' : c.toUpper ≠ '.' := Text.toUpper_ne (by decide) point
      rw [unsigned?_cons point, ← startingWithDigit?_capitals, Text.capitals_cons,
        unsigned?_cons point']

theorem power?_capitals (t : Text) : power? (capitals t) = (power? t).map thenCapitals := by
  cases t with
  | nil => rfl
  | cons c t =>
    have letter : c.toUpper = 'e' ∨ c.toUpper = 'E' ↔ c = 'e' ∨ c = 'E' :=
      Text.toUpper_letter (by decide) c
    simp only [power?, Text.capitals_cons, letter, sign_capitals, thenCapitals,
      Digits.split_capitals]
    split_ifs <;> rfl

theorem withPower?_capitals (t : Text) :
    withPower? (capitals t) = (withPower? t).map thenCapitals := by
  unfold withPower?
  rw [startingWithDigit?_capitals]
  cases startingWithDigit? t with
  | none => rfl
  | some found =>
    obtain ⟨n, rest⟩ := found
    simp only [Option.map_some, thenCapitals, power?_capitals]
    cases power? rest <;> rfl

theorem wholeDigits?_capitals (t : Text) :
    wholeDigits? (capitals t) = (wholeDigits? t).map thenCapitals := by
  simp only [wholeDigits?, Text.dropWhile_capitals Text.isAsciiBlank_toUpper, sign_capitals,
    thenCapitals, Digits.split_capitals]
  split_ifs <;> rfl

theorem scan?_capitals (t : Text) :
    (scan? (capitals t) : Option (α × Text)) = (scan? t).map thenCapitals := by
  simp only [scan?, Text.dropWhile_capitals Text.isAsciiBlank_toUpper, sign_capitals,
    thenCapitals, unsigned?_capitals]
  cases unsigned? (sign (t.dropWhile Text.isAsciiBlank)).2 <;> rfl

end Numeral
end Airspaces
