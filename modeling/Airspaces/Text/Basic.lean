/-! Text as the file readers see it: a list of characters, so that positions and
lengths count code points. -/
namespace Airspaces

abbrev Text := List Char

namespace Text

/-- The white space that is dropped from the end of a line: every blank of the
character standard, the file, group, record and unit separators among them. -/
def isBlank (c : Char) : Bool :=
  let n := c.toNat
  (9 ≤ n && n ≤ 13) || (28 ≤ n && n ≤ 32) || n == 0x85 || n == 0xA0 || n == 0x1680 ||
    (0x2000 ≤ n && n ≤ 0x200A) || n == 0x2028 || n == 0x2029 || n == 0x202F || n == 0x205F ||
    n == 0x3000

/-- The white space that may stand before a number. -/
def isAsciiBlank (c : Char) : Bool :=
  c == ' ' || (9 ≤ c.toNat && c.toNat ≤ 13)

def trimEndBy (p : Char → Bool) (t : Text) : Text :=
  (t.reverse.dropWhile p).reverse

def trimBy (p : Char → Bool) (t : Text) : Text := trimEndBy p (t.dropWhile p)

/-- A number in hexadecimal digits, with zeros in front up to a width. -/
def hexDigits (width n : Nat) : Text :=
  let digits := Nat.toDigits 16 n
  List.replicate (width - digits.length) '0' ++ digits

/-- What follows the first `c`, if there is one. -/
def after? (c : Char) (t : Text) : Option Text :=
  match t.dropWhile (· != c) with
  | [] => none
  | _ :: rest => some rest

/-- The text from the first `c` on, if there is one. -/
def from? (c : Char) (t : Text) : Option Text :=
  match t.dropWhile (· != c) with
  | [] => none
  | rest => some rest

def hasPart (part : Text) : Text → Bool
  | [] => part.isEmpty
  | c :: rest => part.isPrefixOf (c :: rest) || hasPart part rest

end Text
end Airspaces
