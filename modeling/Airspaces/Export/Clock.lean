import Airspaces.Calendar
/-! The times of a document. A moment is counted in seconds from the start of 1970 and
written as a date and a time of day. -/
namespace Airspaces.Clock

/-- Date and time with the letter T between them. -/
def text (seconds : Nat) : String :=
  let date := Date.after 1970 (seconds / 86400)
  let time := seconds % 86400
  let two := Digits.padded 2
  String.ofList (Digits.padded 4 date.year ++ '-' :: two date.month ++ '-' :: two date.day ++
    'T' :: two (time / 3600) ++ ':' :: two (time % 3600 / 60) ++ ':' :: two (time % 60))

end Airspaces.Clock
