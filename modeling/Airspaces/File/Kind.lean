import Airspaces.Text.Case
/-! What a line is before its directive is looked at: its comment is dropped, and the
first line that belongs to a dialect tells the kind of the file. -/
namespace Airspaces

inductive FileKind where
  | unknown
  | openAir
  | tnp
  deriving Repr, DecidableEq

namespace FileKind

def label : FileKind → String
  | unknown => "unknown"
  | openAir => "openair"
  | tnp => "tnp"

/-- The dialect of a line: `INCLUDE=` and `TYPE=` are TNP, a class directive by itself
or before a space is OpenAir. -/
def detect (line : Text) : FileKind :=
  if (Text.afterHead? line ['I', 'N', 'C', 'L', 'U', 'D', 'E', '=']).isSome ||
      (Text.afterHead? line ['T', 'Y', 'P', 'E', '=']).isSome then tnp
  else
    match Text.afterHead? line ['A', 'C'] with
    | some [] => openAir
    | some (' ' :: _) => openAir
    | _ => unknown

end FileKind

/-- A line without its comment, which starts at the first star, and without the
white space that is then at its end. -/
def stripComment (line : Text) : Text :=
  Text.trimEndBy Text.isBlank (line.takeWhile (· != '*'))

end Airspaces
