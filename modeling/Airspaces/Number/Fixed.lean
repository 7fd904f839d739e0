import Airspaces.Number.Digits
import Airspaces.Number.Rounding
import Airspaces.Number.Scalar
/-! Numbers written with a fixed count of decimal places, rounded from the exact
value with ties to even. A negative number keeps its sign even when it rounds
to zero. -/
namespace Airspaces.Fixed

/-- The number of units of the last place nearest to the fraction. -/
def units (places num den : Nat) : Nat :=
  roundEven (num * Nat.pow 10 places) den

/-- A count of units of the last place, with the point put in. -/
def unitsText (places units : Nat) : Text :=
  if places = 0 then Digits.ofNat units
  else
    Digits.ofNat (units / Nat.pow 10 places) ++ '.' :: Digits.padded places (units % Nat.pow 10 places)

def text (places : Nat) : Reading → Text
  | .finite negative num den =>
    (if negative then ['-'] else []) ++ unitsText places (units places num den)
  | .infinite negative => (if negative then ['-'] else []) ++ ['i', 'n', 'f']
  | .undefined => ['n', 'a', 'n']

end Airspaces.Fixed
