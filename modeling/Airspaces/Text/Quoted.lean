import Airspaces.Text.Basic
import Airspaces.Text.Printable
/-! Names in quotes, as they appear in the summary of a collection and in the
messages about files. Single quotes are used unless the name has one and no double
quote; what would not show is written by its code. -/
namespace Airspaces.Text

/-- One character between quotes of the given kind. -/
def quotedChar (quote c : Char) : Text :=
  if c = quote ∨ c = '\\' then ['\\', c]
  else if c = '\t' then ['\\', 't']
  else if c = '\n' then ['\\', 'n']
  else if c = '\r' then ['\\', 'r']
  else if isPrintable c then [c]
  else if c.toNat < 0x100 then '\\' :: 'x' :: hexDigits 2 c.toNat
  else if c.toNat < 0x10000 then '\\' :: 'u' :: hexDigits 4 c.toNat
  else '\\' :: 'U' :: hexDigits 8 c.toNat

def quoted (t : Text) : Text :=
  let quote := if t.contains '\'' && !t.contains '"' then '"' else '\''
  quote :: t.flatMap (quotedChar quote) ++ [quote]

end Airspaces.Text
