import Airspaces.Altitude.Reader
import Airspaces.Proofs.Number.LetterCase
/-! Altitudes in capitals. A text and its capitals have the same words, so that they are read as
the same altitude. -/
namespace Airspaces.Altitude

open Text (capitals thenCapitals)

namespace Token

theorem word?_capitals (words : List (Text × Token)) (t : Text) :
    word? words (capitals t) = (word? words t).map thenCapitals := by
  unfold word?
  rw [List.map_findSome?]
  congr 1
  funext (word, token)
  simp only [Function.comp_apply, Text.startsWithWord_capitals, Text.capitals_drop]
  split_ifs <;> rfl

theorem dropFootLetter_capitals (t : Text) :
    dropFootLetter (capitals t) = capitals (dropFootLetter t) := by
  cases t with
  | nil => rfl
  | cons c t =>
    have foot : c.toUpper = 'T' ∨ c.toUpper = 't' ↔ c = 'T' ∨ c = 't' :=
      Text.toUpper_letter (by decide) c
    by_cases letter : c = 'T' ∨ c = 't'
    · obtain rfl | rfl := letter <;> rfl
    · have letter' := mt foot.mp letter
      obtain ⟨capital, small⟩ := not_or.mp letter
      obtain ⟨capital', small'⟩ := not_or.mp letter'
      simp [dropFootLetter, capital, small, capital', small']

theorem next_capitals (c : Char) (rest : Text) :
    next c.toUpper (capitals rest) = thenCapitals (next c rest) := by
  have blank : c.toUpper = ' ' ↔ c = ' ' := Text.toUpper_eq_iff (by decide) c
  have feet : c.toUpper = 'F' ∨ c.toUpper = 'f' ↔ c = 'F' ∨ c = 'f' :=
    Text.toUpper_letter (by decide) c
  have metres : c.toUpper = 'M' ∨ c.toUpper = 'm' ↔ c = 'M' ∨ c = 'm' :=
    Text.toUpper_letter (by decide) c
  simp only [next, ← Text.capitals_cons, blank, feet, metres, Text.isDigit_toUpper,
    Numeral.withPower?_capitals, word?_capitals, Text.startsWithWord_capitals,
    dropFootLetter_capitals, Text.capitals_drop]
  by_cases space : c = ' '
  · rw [if_pos space, if_pos space]
    rfl
  by_cases digit : c.isDigit
  · rw [if_neg space, if_neg space, if_pos digit, if_pos digit]
    cases Numeral.withPower? (c :: rest) <;> rfl
  rw [if_neg space, if_neg space, if_neg digit, if_neg digit]
  cases word? firstWords (c :: rest) with
  | some found => rfl
  | none => cases word? lastWords (c :: rest) <;> dsimp only [Option.map] <;> split_ifs <;> rfl

theorem scan_capitals (t : Text) : scan (capitals t) = scan t := by
  fun_induction scan t with
  | case1 => rw [Text.capitals_nil, scan]
  | case2 c rest ih =>
    rw [Text.capitals_cons, scan, next_capitals]
    exact congrArg _ ih

end Token

/-- Altitudes are read alike in any letter case. -/
theorem read_capitals {α : Type} [Scalar α] (t : Text) :
    (read (capitals t) : Altitude α) = read t := by
  unfold read
  rw [Token.scan_capitals]

end Airspaces.Altitude
