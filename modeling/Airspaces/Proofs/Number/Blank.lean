import Airspaces.Proofs.Number.Scan
/-! Numbers at the end of a text. A blank after the text goes on with no number, so that the text
is read as it is without what follows, and what was left of it comes before the blank. -/
namespace Airspaces

/-- What was read, with a blank and more text after what follows. -/
def Text.thenBlank {β : Type} (more : Text) (found : β × Text) : β × Text :=
  (found.1, found.2 ++ ' ' :: more)

open Text (thenBlank)

theorem Digits.split_blank (t more : Text) :
    split (t ++ ' ' :: more) = thenBlank more (split t) := by
  induction t with
  | nil => rfl
  | cons c t ih =>
    by_cases digit : c.isDigit
    · have parts (u : Text) : split (c :: u) = (c :: (split u).1, (split u).2) := by
        simp [split, digit]
      rw [List.cons_append, parts, ih, parts]
      rfl
    · have parts (u : Text) : split (c :: u) = ([], c :: u) := by simp [split, digit]
      rw [List.cons_append, parts, parts]
      rfl

namespace Numeral

theorem sign_blank (t more : Text) : sign (t ++ ' ' :: more) = thenBlank more (sign t) := by
  cases t with
  | nil => rfl
  | cons c t =>
    by_cases plus : c = '+'
    · subst plus
      rfl
    by_cases minus : c = '-'
    · subst minus
      rfl
    rw [List.cons_append, sign_cons plus minus, sign_cons plus minus]
    rfl

theorem startingWithDigit?_blank (t more : Text) :
    startingWithDigit? (t ++ ' ' :: more) = (startingWithDigit? t).map (thenBlank more) := by
  unfold startingWithDigit?
  rw [Digits.split_blank]
  obtain ⟨whole, rest⟩ := Digits.split t
  dsimp only [thenBlank]
  by_cases empty : whole.isEmpty
  · rw [if_pos empty, if_pos empty]
    rfl
  rw [if_neg empty, if_neg empty]
  cases rest with
  | nil => rfl
  | cons c rest =>
    by_cases point : c = '.'
    · subst point
      simp only [List.cons_append, Digits.split_blank]
      rfl
    · simp [thenBlank, point]

theorem power?_blank (t more : Text) :
    power? (t ++ ' ' :: more) = (power? t).map (thenBlank more) := by
  cases t with
  | nil => rfl
  | cons c t =>
    simp only [List.cons_append, power?, sign_blank, thenBlank, Digits.split_blank]
    split_ifs <;> rfl

theorem withPower?_blank (t more : Text) :
    withPower? (t ++ ' ' :: more) = (withPower? t).map (thenBlank more) := by
  unfold withPower?
  rw [startingWithDigit?_blank]
  cases startingWithDigit? t with
  | none => rfl
  | some found =>
    obtain ⟨n, rest⟩ := found
    simp only [Option.map_some, thenBlank, power?_blank]
    cases power? rest <;> rfl

theorem sign_suffix (t : Text) : (sign t).2 <:+ t := by
  unfold sign
  split
  · exact List.suffix_cons _ _
  · exact List.suffix_cons _ _
  · exact List.suffix_rfl

theorem power?_suffix {t rest : Text} {power : Int} (read : power? t = some (power, rest)) :
    rest <:+ t := by
  cases t with
  | nil => cases read
  | cons c after =>
    have digits : (Digits.split (sign after).2).2 <:+ (sign after).2 := List.dropWhile_suffix _
    simp only [power?] at read
    split at read
    · split at read
      · cases read
      · cases read
        exact (digits.trans (sign_suffix after)).trans (List.suffix_cons c after)
    · cases read

/-- What follows a number is what is left of the text. -/
theorem withPower?_suffix {t rest : Text} {n : Numeral} (read : withPower? t = some (n, rest)) :
    rest <:+ t := by
  unfold withPower? at read
  split at read
  · cases read
  · rename_i found
    obtain ⟨s, parts, -⟩ := Spelling.exists_of_startingWithDigit? found
    have left : _ <:+ t := ⟨s.text, parts.symm⟩
    split at read
    · rename_i exponent
      cases read
      exact (power?_suffix exponent).trans left
    · cases read
      exact left

end Numeral
end Airspaces
