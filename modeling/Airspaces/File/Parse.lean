import Airspaces.Dialect.OpenAir
import Airspaces.Dialect.Tnp
import Airspaces.File.Kind
import Airspaces.File.Operation
import Airspaces.File.Source
/-! Reading a whole file. A ledger keeps what has been read: the kind of the file, the
record being filled, the bad lines, the airspaces handed out and the notices given.
Lines before the first one that tells the kind are passed over. Bad lines are skipped
or end the run, as the operation decides. -/
namespace Airspaces

variable {α : Type} [Scalar α]

inductive FailureReason where
  | unknownFileType
  | aborted
  | source
  deriving Repr, DecidableEq

def FailureReason.label : FailureReason → String
  | unknownFileType => "unknown file type"
  | aborted => "aborted after a line error"
  | source => "line source error"

structure ParseResult where
  kind : FileKind := .unknown
  failure : Option (FailureReason × Text) := none
  count : Nat := 0
  linesRead : Nat := 0
  skipped : List (Nat × Text) := []

namespace ParseResult

def success (r : ParseResult) : Bool := r.failure.isNone

def text (r : ParseResult) : String :=
  match r.failure with
  | none =>
    r.kind.label ++ ": " ++ toString r.count ++ " airspaces, " ++
      toString r.skipped.length ++ " lines skipped"
  | some (reason, message) =>
    "Failed (" ++ reason.label ++ "): " ++ String.ofList message

end ParseResult

/-- Why a run ended before its lines did. -/
inductive Halt (α : Type) where
  | aborted
  | fault (f : Fault α)

structure Ledger (α : Type) [Scalar α] where
  kind : FileKind := .unknown
  state : Tnp.State α := {}
  linesRead : Nat := 0
  skipped : Array (Nat × Text) := #[]
  inserted : Array (Airspace α) := #[]
  notices : Array Notice := #[]
  halt : Option (Halt α) := none

namespace Ledger

/-- Positions are reported as parts of this range, once in every so many lines. -/
def progressRange : Nat := 1024

def progressInterval : Nat := 256

def start : Ledger α := { notices := #[.range progressRange] }

/-- The next line is counted, and the position is reported when its turn comes. -/
def count (size tell : Nat) (l : Ledger α) : Ledger α :=
  let linesRead := l.linesRead + 1
  if linesRead % progressInterval = 0 ∧ 0 < size then
    { l with linesRead, notices := l.notices.push (.position (tell * progressRange / size : Nat)) }
  else { l with linesRead }

/-- What the dialect of the file makes of a line. -/
def stepOf (g : Geodesy α) (kind : FileKind) (line : Text) (s : Tnp.State α) :
    Step α (Tnp.State α) :=
  match kind with
  | .unknown => .leave s
  | .openAir => (OpenAir.step g line s.record).map fun r => { s with record := r }
  | .tnp => Tnp.step g line s

/-- A line of the file's dialect. -/
def dispatch (g : Geodesy α) (skips : Int → Bool) (line : Text) (l : Ledger α) : Ledger α :=
  let done := stepOf g l.kind line l.state
  let l := { l with state := done.state, inserted := l.inserted ++ done.finished }
  match done.stop with
  | none => l
  | some (.fault f) => { l with halt := some (.fault f) }
  | some (.line _) =>
    { l with
      skipped := l.skipped.push (l.linesRead, line)
      notices := l.notices.push (.warning l.linesRead line)
      halt := if skips l.linesRead then none else some .aborted }

/-- A line as the source hands it out. -/
def take (g : Geodesy α) (size : Nat) (skips : Int → Bool) (l : Ledger α) (raw : Text)
    (tell : Nat) : Ledger α :=
  let l := l.count size tell
  let line := stripComment raw
  if line.isEmpty then l
  else
    let kind := if l.kind = .unknown then FileKind.detect line else l.kind
    { l with kind }.dispatch g skips line

/-- The ledger after lines, which end where the run halts. -/
def run (g : Geodesy α) (size : Nat) (skips : Int → Bool) : Ledger α → List (Text × Nat) → Ledger α
  | l, [] => l
  | l, (raw, tell) :: rest =>
    let l := l.take g size skips raw tell
    if l.halt.isNone then run g size skips l rest else l

def result (l : Ledger α) (failure : Option (FailureReason × Text)) : ParseResult :=
  { kind := l.kind
    failure
    count := l.inserted.size
    linesRead := l.linesRead
    skipped := l.skipped.toList }

def abortMessage (l : Ledger α) : Text :=
  let line := (l.skipped.back?.map (·.2)).getD []
  ("Parse error at line " ++ toString l.linesRead ++ ": \"").toList ++ line ++ ['"']

def unknownMessage : Text := "Unknown airspace filetype".toList

end Ledger

/-- What a run leaves behind: its result or the fault that broke it off, the airspaces
that it handed out before, and all notices. -/
structure Outcome (α : Type) [Scalar α] where
  result : Except (Fault α) ParseResult
  inserted : List (Airspace α)
  notices : List Notice

namespace Ledger

def leave (l : Ledger α) (result : Except (Fault α) ParseResult) : Outcome α :=
  ⟨result, l.inserted.toList, l.notices.toList⟩

def fail (l : Ledger α) (reason : FailureReason) (message : Text) : Outcome α :=
  { l with notices := l.notices.push (.error message) }.leave
    (.ok (l.result (some (reason, message))))

/-- The outcome of a run. The last record is closed only if the lines came to a
regular end. -/
def close (l : Ledger α) (ending : Source.Ending) : Outcome α :=
  match l.halt with
  | some (.fault f) => l.leave (.error f)
  | some .aborted => l.leave (.ok (l.result (some (.aborted, l.abortMessage))))
  | none =>
    match ending with
    | .stopped cause => l.leave (.error (.reading cause))
    | .failed message => l.fail .source message
    | .finished =>
      if l.kind = .unknown then l.fail .unknownFileType unknownMessage
      else
        let l := { l with inserted := l.inserted ++ l.state.record.pending }
        l.leave (.ok (l.result none))

end Ledger

/-- Reads all lines of a source; `skips` tells for the number of a bad line whether
reading goes on after it. -/
def parse (g : Geodesy α) (skips : Int → Bool) (source : Source) : Outcome α :=
  (Ledger.start.run g source.size skips source.lines).close source.ending

def parseUnopened (message : Text) : Outcome α :=
  { result := .ok { failure := some (.source, message) }
    inserted := []
    notices := [.error message] }

/-- Why there are no bytes to read. -/
inductive Unopened where
  /-- The system does not open the file, and says why. -/
  | refused (message : Text)
  /-- The system is not asked, since no path has a null character in it. -/
  | nullInPath
  deriving Repr, DecidableEq

/-- Reads a file that was opened, or not. A file that the system does not open is a failure. -/
def parseOpened (g : Geodesy α) (skips : Int → Bool) (encoding : Except ReadFault Encoding)
    (opened : Except Unopened (List UInt8)) : Outcome α :=
  match opened with
  | .ok bytes => parse g skips (Source.ofReader (.ofBytes bytes encoding .replace))
  | .error (.refused message) => parseUnopened message
  | .error .nullInPath => ⟨.error .nullInPath, [], []⟩

inductive RunError where
  | parse (e : ParseError)
  | source (message : Text)

namespace ParseResult

/-- The result of a run that succeeded, or else its error. -/
def toExcept (r : ParseResult) : Except RunError ParseResult :=
  match r.failure with
  | none => .ok r
  | some (.unknownFileType, message) => .error (.parse ⟨.unknownFileType, message, .nothing⟩)
  | some (.source, message) => .error (.source message)
  | some (.aborted, message) =>
    let (number, line) := r.skipped.getLast?.getD (0, [])
    .error (.parse (.aborted message number line))

end ParseResult
end Airspaces
