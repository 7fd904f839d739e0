import Airspaces.Number.Numeral
import Airspaces.Number.Shortest
import Airspaces.Position.Basic
import Airspaces.Text.Digit
/-! Measurements in full: the fewest digits that read back to the same number, with
a point for exponents from -4 to 15 and in scientific form otherwise. They are read in any
form that a decimal number may have. -/
namespace Airspaces

namespace Measurement

def layout : Shortest.Layout :=
  { positionalFrom := -4
    positionalBelow := 16
    exponentDigits := 2
    infinite := "inf"
    undefined := "nan" }

def text (x : Float) : String := Shortest.text layout x

/-- The blanks that may stand around a number. -/
def isMargin (c : Char) : Bool :=
  if c.toNat < 128 then Text.isAsciiBlank c else Text.isBlank c

/-- Does every underscore stand between two digits? `last` is the character before. -/
def isGrouped (last : Char) : Text → Bool
  | [] => true
  | c :: rest =>
    (c != '_' || (last.isDigit && rest.head?.any Char.isDigit)) && isGrouped c rest

/-- A number without its sign, from the whole of a text. -/
def sizeOf? (t : Text) : Option Float :=
  let word := String.ofList (t.map Char.toLower)
  if word = "inf" ∨ word = "infinity" then some Binary64.infinity
  else if word = "nan" then some Binary64.undefined
  else if isGrouped '_' t then do
    let (n, rest) ← Numeral.unsigned? (t.filter (· != '_'))
    if rest = [] then some n.value
    else
      match ← Numeral.power? rest with
      | (power, []) => some (Numeral.value ⟨n.mantissa, n.exponent + power⟩)
      | _ => none
  else none

/-- The number that a text is: digits of any script in a decimal numeral, an infinity, or
an undefined number. -/
def ofText? (t : Text) : Option Float :=
  let (negative, rest) := Numeral.sign ((Text.trimBy isMargin t).map Text.asciiDigit)
  (sizeOf? rest).map fun x => if negative then -x else x

end Measurement

/-- Latitude and longitude in parentheses. -/
def Position.text (p : Position Float) : String :=
  "(" ++ Measurement.text p.latitude ++ ", " ++ Measurement.text p.longitude ++ ")"

/-- What is said about a latitude beyond a pole; the other causes speak for themselves. -/
def Fault.message? : Fault Float → Option String
  | .latitude value =>
    some ("Latitude must be between -90 and 90 degrees, got " ++ Measurement.text value)
  | _ => none

end Airspaces
