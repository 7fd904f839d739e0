import Airspaces.File.Reader
/-! A source of lines as the parser meets it: the lines that it hands out, each with
the position after it, and how it ends. A file, a text and a given list of lines are
all read in this one form. -/
namespace Airspaces

namespace Source

inductive Ending where
  | finished
  /-- The medium failed, with a message of its own. -/
  | failed (message : Text)
  | stopped (cause : ReadFault)
  deriving Repr, DecidableEq

end Source

structure Source where
  size : Nat
  lines : List (Text × Nat)
  ending : Source.Ending

namespace Source

/-- Everything that an open reader still hands out. -/
def remaining (r : LineReader) : List (Text × Nat) × Ending :=
  if _more : r.rest = [] then ([], .finished)
  else
    match r.lineText (cutLine r.rest).1 with
    | .error cause => ([], .stopped cause)
    | .ok line =>
      let (lines, ending) := remaining r.advance
      ((line, r.advance.position) :: lines, ending)
termination_by r.rest.length
decreasing_by exact LineReader.advance_length _more

def ofReader (r : LineReader) : Source :=
  let (lines, ending) := remaining r
  { size := r.size, lines, ending }

/-- Lines that are given as they are; the position counts them. -/
def ofLines (lines : List Text) (size : Nat) (ending : Ending) : Source :=
  { size, lines := lines.zipIdx 1, ending }

end Source
end Airspaces
