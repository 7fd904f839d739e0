import Airspaces.Text.Basic
/-! Those who wait for a file to be read. They are told of progress, of errors and of
bad lines, and for each bad line they decide whether reading goes on. -/
namespace Airspaces

/-- What is told, in the order in which it happens. -/
inductive Notice where
  | range (n : Int)
  | position (n : Int)
  | error (message : Text)
  | warning (line : Int) (text : Text)
  deriving Repr, DecidableEq

structure Log where
  range : Int := 0
  position : Int := 0
  error : Option Text := none
  warnings : Array (Int × Text) := #[]
  deriving Repr, DecidableEq

inductive Operation where
  /-- Skips every bad line and keeps nothing. -/
  | silent
  /-- Keeps every notice, and stops at the bad lines with these numbers. -/
  | recorder (stops : List Int) (heard : Array Notice)
  /-- Keeps the latest of each notice and all warnings; stops at every bad line or at
  none. -/
  | logger (stops : Bool) (log : Log)
  deriving Repr, DecidableEq

namespace Operation

/-- Does reading go on after a bad line? -/
def skips : Operation → Int → Bool
  | silent, _ => true
  | recorder stops _, line => !stops.contains line
  | logger stops _, _ => !stops

def hear : Operation → Notice → Operation
  | silent, _ => silent
  | recorder stops heard, notice => recorder stops (heard.push notice)
  | logger stops log, .range n => logger stops { log with range := n }
  | logger stops log, .position n => logger stops { log with position := n }
  | logger stops log, .error message => logger stops { log with error := some message }
  | logger stops log, .warning line text =>
    logger stops { log with warnings := log.warnings.push (line, text) }

/-- The reply to a notice; only a warning gets one. -/
def reply? (o : Operation) : Notice → Option Bool
  | .warning line _ => some (o.skips line)
  | _ => none

def hearAll (o : Operation) (notices : List Notice) : Operation := notices.foldl hear o

end Operation
end Airspaces
