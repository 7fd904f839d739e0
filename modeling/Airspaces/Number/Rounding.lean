/-! Rounding of exact fractions to whole numbers. Every printed or sexagesimal
number in the project is rounded here, from the exact value and once. -/
namespace Airspaces

/-- The whole number nearest to `num / den`; a half goes to the even neighbour. -/
def roundEven (num den : Nat) : Nat :=
  let below := num / den
  let rest := num % den
  if 2 * rest < den then below
  else if den < 2 * rest then below + 1
  else below + below % 2

end Airspaces
