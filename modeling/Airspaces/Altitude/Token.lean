import Airspaces.Number.Numeral
import Airspaces.Text.Case
/-! The words of an altitude. Where several would fit, the first in the list of
`next` is taken: `MSL` comes before the metre sign and `FL` before the foot sign.
A character that starts no word is passed over. -/
namespace Airspaces.Altitude

inductive Token where
  | blank
  | number (n : Numeral)
  | ground
  | surface
  | level
  | feet
  | meanSea
  | metres
  | aboveGround
  | standard
  | unlimited
  | other
  deriving Repr, DecidableEq

namespace Token

/-- The keywords that stand before the foot sign. -/
def firstWords : List (Text × Token) := [
  (['G', 'N', 'D'], ground),
  (['S', 'F', 'C'], surface),
  (['F', 'L'], level)]

/-- The keywords that stand after the metre sign. -/
def lastWords : List (Text × Token) := [
  (['A', 'G', 'L'], aboveGround),
  (['S', 'T', 'D'], standard),
  (['U', 'N', 'L'], unlimited)]

/-- The first of the keywords at the start of the text, and what follows it. -/
def word? (words : List (Text × Token)) (t : Text) : Option (Token × Text) :=
  words.findSome? fun (word, token) =>
    if Text.startsWithWord t word then some (token, t.drop word.length) else none

/-- The letter after the foot sign, if it is there. -/
def dropFootLetter : Text → Text
  | 'T' :: rest => rest
  | 't' :: rest => rest
  | t => t

/-- The first word of the text `c :: rest`, and what follows it. -/
def next (c : Char) (rest : Text) : Token × Text :=
  let t := c :: rest
  if c = ' ' then (blank, rest)
  else if c.isDigit then
    match Numeral.withPower? t with
    | some (n, rest) => (number n, rest)
    | none => (other, rest)
  else
    match word? firstWords t with
    | some found => found
    | none =>
      if c = 'F' ∨ c = 'f' then (feet, dropFootLetter rest)
      else if Text.startsWithWord t ['M', 'S', 'L'] then (meanSea, t.drop 3)
      else if c = 'M' ∨ c = 'm' then (metres, rest)
      else
        match word? lastWords t with
        | some found => found
        | none => (other, rest)

theorem word?_length {words : List (Text × Token)} {t rest : Text} {token : Token}
    (some_letter : ∀ w ∈ words, 0 < w.1.length) (h : word? words t = some (token, rest)) :
    rest.length ≤ t.length - 1 := by
  obtain ⟨w, member, found⟩ := List.exists_of_findSome?_eq_some h
  simp only at found
  split at found
  · have := some_letter w member
    cases found
    simp only [List.length_drop]
    omega
  · cases found

theorem dropFootLetter_length (t : Text) : (dropFootLetter t).length ≤ t.length := by
  unfold dropFootLetter
  split <;> simp

/-- Every word takes at least its first character. -/
theorem next_length (c : Char) (rest : Text) : (next c rest).2.length ≤ rest.length := by
  dsimp only [next]
  split
  · exact Nat.le_refl _
  split
  · split
    · rename_i found
      have := Numeral.withPower?_length found
      simp only [List.length_cons] at this
      exact Nat.le_of_lt_succ this
    · exact Nat.le_refl _
  split
  · rename_i found
    exact word?_length (by decide) found
  split
  · exact dropFootLetter_length rest
  split
  · simp
  split
  · exact Nat.le_refl _
  split
  · rename_i found
    exact word?_length (by decide) found
  · exact Nat.le_refl _

def scan : Text → List Token
  | [] => []
  | c :: rest => (next c rest).1 :: scan (next c rest).2
termination_by t => t.length
decreasing_by exact Nat.lt_succ_of_le (next_length c rest)

end Token
end Airspaces.Altitude
