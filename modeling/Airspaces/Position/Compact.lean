import Airspaces.Number.Numeral
import Airspaces.Position.Sexagesimal
/-! Positions as compact digit groups: `N542500 E0105000`. The last four digits of a
group are minutes and seconds, all before them degrees; each group follows a
hemisphere letter, and one space may stand between the groups. -/
namespace Airspaces.Position

variable {α : Type} [Scalar α]

/-- The longest digit group that is read. -/
def groupLimit : Nat := 4300

/-- The degrees that a digit group stands for. -/
def ofGroup (digits : Text) : Except (Fault α) α :=
  if groupLimit < digits.length then .error .tooManyDigits
  else
    let n := Digits.value digits
    match Scalar.ofNat? (n / 10000) with
    | none => .error .overflow
    | some degrees =>
      .ok (degrees + Scalar.ofDecimal (n % 10000 / 100) 0 / 60.0 +
        Scalar.ofDecimal (n % 100) 0 / 3600.0)

/-- A hemisphere letter and its digit group, and what follows. -/
def signedGroup (negative : Char → Bool) : Text → Except (Fault α) (Option (α × Text))
  | [] => .ok none
  | letter :: rest =>
    match Numeral.wholeDigits? rest with
    | none => .ok none
    | some (digits, rest) => do
      let degrees ← ofGroup digits
      .ok (some (if negative letter then -degrees else degrees, rest))

/-- One space, if the text starts with it, is dropped. -/
def dropSpace : Text → Text
  | ' ' :: rest => rest
  | t => t

/-- The position at the start of a text; what follows it does not matter. -/
def ofCompact (t : Text) : Except (Fault α) (Option (Position α)) := do
  match ← signedGroup isSouth t with
  | none => .ok none
  | some (latitude, rest) =>
    match ← signedGroup isWest (dropSpace rest) with
    | none => .ok none
    | some (longitude, _) => .ok ((of? latitude longitude).map normalize)

end Airspaces.Position
