import Airspaces.Proofs.Number.Scan
/-! Unsigned numbers with a power of ten, as they stand in altitudes. A number that starts with a
digit is read as a whole; a point before the first digit is no part of it. -/
namespace Airspaces.Numeral

/-- A power of ten as it is written after a number. -/
structure Power where
  letter : Char
  minus : Option Bool
  digits : Text
  isLetter : letter = 'e' ∨ letter = 'E'
  filled : digits ≠ []
  isDigit : ∀ d ∈ digits, d.isDigit = true

namespace Power

def text (p : Power) : Text := p.letter :: (Lead.signText p.minus ++ p.digits)

def exponent (p : Power) : Int :=
  if p.minus.getD false then -(Digits.value p.digits : Int) else Digits.value p.digits

theorem power?_text (p : Power) {rest : Text} (ended : ∀ c ∈ rest.head?, c.isDigit = false) :
    power? (p.text ++ rest) = some (p.exponent, rest) := by
  have bare : ∀ c ∈ (p.digits ++ rest).head?, Lead.Bare c := by
    obtain ⟨d, more, same⟩ := List.exists_cons_of_ne_nil p.filled
    rw [same]
    rintro c ⟨⟩
    exact Lead.bare_of_isDigit (p.isDigit d (by simp [same]))
  have some_digit : p.digits.isEmpty = false := by simpa using p.filled
  simp only [text, List.cons_append, List.append_assoc, power?, if_pos p.isLetter,
    Lead.sign_signText p.minus bare, Digits.split_of_isDigit p.isDigit ended, some_digit]
  rfl

end Power

/-- An unsigned number as it is written, with a power of ten or without one. -/
structure Amount where
  number : Spelling
  power : Option Power := none

namespace Amount

def text (a : Amount) : Text := a.number.text ++ (a.power.map Power.text).getD []

def numeral (a : Amount) : Numeral :=
  ⟨a.number.numeral.mantissa, a.number.numeral.exponent + (a.power.map Power.exponent).getD 0⟩

/-- The amount without a point before its first digit. -/
def unpointed (a : Amount) : Amount :=
  if first : a.number.whole = [] then
    { a with
      number :=
        { whole := a.number.places.getD []
          isDigit := by simpa [first] using a.number.isDigit
          filled := by simpa [first] using a.number.filled } }
  else a

theorem unpointed_whole (a : Amount) : a.unpointed.number.whole ≠ [] := by
  unfold unpointed
  split_ifs with first
  · simpa [first] using a.number.filled
  · exact first

/-- The two are the same but for the point. -/
theorem unpointed_cases (a : Amount) :
    a.number.whole ≠ [] ∧ a.unpointed = a ∨
      a.number.whole = [] ∧ a.text = '.' :: a.unpointed.text := by
  unfold unpointed
  split_ifs with first
  · refine .inr ⟨first, ?_⟩
    obtain ⟨⟨whole, places, isDigit, filled⟩, power⟩ := a
    cases first
    cases places with
    | none => exact absurd rfl filled
    | some places => rfl
  · exact .inl ⟨first, rfl⟩

/-- A number that starts with a digit is read with its power of ten, and no more than that. -/
theorem withPower?_text {a : Amount} (first : a.number.whole ≠ []) {rest : Text}
    (ended : Ends rest) : withPower? (a.text ++ rest) = some (a.numeral, rest) := by
  obtain ⟨number, power⟩ := a
  cases power with
  | none =>
    have read := number.withPower?_text first ended
    simpa [text, numeral] using read
  | some power =>
    have stops : ∀ c ∈ (power.text ++ rest).head?, number.Stops c := by
      rintro c ⟨⟩
      obtain letter | letter := power.isLetter <;> rw [letter] <;> exact ⟨by decide, by rintro ⟨⟩⟩
    have read := number.startingWithDigit?_text first stops
    have no_digit : ∀ c ∈ rest.head?, c.isDigit = false := fun c member => (ended c member).1
    simp only [withPower?, text, numeral, Option.map_some, Option.getD_some, List.append_assoc,
      read, power.power?_text no_digit]

end Amount
end Airspaces.Numeral
