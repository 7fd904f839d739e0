import Airspaces.Number.Digits
/-! Dates of the calendar, by month and day or by week and weekday. A year begins with the
week in which its first Thursday is, and a week with Monday, which is day 0. -/
namespace Airspaces

structure Date where
  year : Nat
  month : Nat
  day : Nat
  deriving Repr, DecidableEq

namespace Date

def isLeap (year : Nat) : Bool := year % 4 == 0 && (year % 100 != 0 || year % 400 == 0)

def monthLengths (year : Nat) : List Nat :=
  [31, if isLeap year then 29 else 28, 31, 30, 31, 30, 31, 31, 30, 31, 30, 31]

def of? (year month day : Nat) : Option Date :=
  let exists' := 0 < year && year < 10000 && 0 < month && 0 < day &&
    (monthLengths year)[month - 1]?.any (day ≤ ·)
  if exists' then some ⟨year, month, day⟩ else none

/-- The number of the day, the first day of the first year being 1. -/
def ordinal (d : Date) : Nat :=
  let past := d.year - 1
  365 * past + past / 4 - past / 100 + past / 400 +
    ((monthLengths d.year).take (d.month - 1)).foldl (· + ·) 0 + d.day

/-- Day 1 of the calendar is a Monday. -/
def weekday (d : Date) : Int := ((d.ordinal + 6) % 7 : Nat)

/-- The year in which a day falls that is counted from the start of `year`, and its
number in that year. -/
def yearFrom : Nat → Nat → Nat → Nat × Nat
  | 0, year, days => (year, days)
  | fuel + 1, year, days =>
    let length := (monthLengths year).foldl (· + ·) 0
    if days < length then (year, days) else yearFrom fuel (year + 1) (days - length)

/-- The month among the given ones in which a day falls, and its number there. -/
def monthFrom : List Nat → Nat → Nat → Nat × Nat
  | [], month, days => (month, days)
  | length :: rest, month, days =>
    if days < length then (month, days) else monthFrom rest (month + 1) (days - length)

/-- The date some days after the start of a year. -/
def after (year days : Nat) : Date :=
  let (year, rest) := yearFrom days year days
  let (month, rest) := monthFrom (monthLengths year) 1 rest
  ⟨year, month, rest + 1⟩

/-- The number of the Monday with which a year begins. -/
def firstMonday (year : Nat) : Nat :=
  let first := ordinal ⟨year, 1, 1⟩
  let past := (first + 6) % 7
  if 3 < past then first + 7 - past else first - past

/-- A year has 53 weeks if it has 53 Thursdays. -/
def weekCount (year : Nat) : Nat :=
  let weekday := weekday ⟨year, 1, 1⟩
  if weekday = 3 ∨ (weekday = 2 ∧ isLeap year) then 53 else 52

/-- A day of a week, Monday being day 1. -/
def ofWeek? (year week day : Nat) : Option Date :=
  if 0 < year ∧ 0 < week ∧ week ≤ weekCount year ∧ 0 < day ∧ day ≤ 7 then
    let date := after 1 (firstMonday year - 1 + 7 * (week - 1) + (day - 1))
    of? date.year date.month date.day
  else none

/-- A number of `width` digits at the start of a text, and what follows it. -/
def field? (width : Nat) (t : Text) : Option (Nat × Text) :=
  let digits := t.take width
  if digits.length = width ∧ digits.all Char.isDigit then
    some (Digits.value digits, t.drop width)
  else none

/-- The text behind a hyphen where one has to be. -/
def afterHyphen? (needed : Bool) (t : Text) : Option Text :=
  match needed, t with
  | true, '-' :: rest => some rest
  | true, _ => none
  | false, t => some t

/-- A date in one of the forms 2024-06-03, 20240603, 2024-W23-1 and 2024W231; a week without
a day stands for its Monday. Two bytes behind a date without hyphens are let pass. -/
def ofText? (t : Text) : Option Date := do
  let size := (String.ofList t).utf8ByteSize
  if size ≠ 7 ∧ size ≠ 8 ∧ size ≠ 10 then none
  let (year, rest) ← field? 4 t
  let hyphens := rest.head? = some '-'
  let rest := if hyphens then rest.drop 1 else rest
  match rest with
  | 'W' :: rest =>
    let (week, rest) ← field? 2 rest
    if rest = [] then ofWeek? year week 1
    else
      let (day, _) ← field? 1 (← afterHyphen? hyphens rest)
      ofWeek? year week day
  | rest =>
    let (month, rest) ← field? 2 rest
    let (day, _) ← field? 2 (← afterHyphen? hyphens rest)
    of? year month day

end Date
end Airspaces
