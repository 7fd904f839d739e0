import Airspaces.Text.Basic
import Airspaces.Text.Case.Table
/-! Capital letters over the whole character standard, and keywords that are
compared without regard to case. The capital of a letter can be longer than the
letter, so a keyword is compared with the capitals of as many characters as the
keyword has. -/
namespace Airspaces.Text

def capital (c : Char) : Text :=
  let code := c.toNat
  if code < 128 then
    [if c.isLower then Char.ofNat (code - 32) else c]
  else
    match capitalSpellings.find? (·.1 == code) with
    | some (_, spelling) => spelling.map Char.ofNat
    | none =>
      match capitalRuns.find? (·.has code) with
      | some run => [Char.ofNat (code + run.shift).toNat]
      | none => [c]

def upper (t : Text) : Text := t.flatMap capital

/-- Does the text start with this keyword, written in capitals? -/
def startsWithWord (t word : Text) : Bool :=
  upper (t.take word.length) == word

/-- What follows `head` at the start of the text, in any case. -/
def afterHead? (t head : Text) : Option Text :=
  if upper (t.take head.length) = upper head then some (t.drop head.length) else none

end Airspaces.Text
