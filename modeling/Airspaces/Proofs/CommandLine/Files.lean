import Airspaces.CommandLine.Report
import Airspaces.Proofs.Collection.Classes
import Airspaces.Proofs.File.Result
import Mathlib.Data.List.Nodup
/-! A run of the program over its files. Each file is read as if it were the only one, and the
summary adds up what the files gave. -/
namespace Airspaces

variable {α : Type} [Scalar α]

namespace CommandLine.Session

section
variable (d : Database Float)

end

/-- The line about a file. -/
def fileLine (path : String) (r : ParseResult) : Text :=
  (Folder.normalize path ++ ": " ++ r.text).toList

section
variable {input : Input} {o : Options}

/-- A session goes on over files: each adds what it gives alone, and nothing else changes. -/
structure Follows (input : Input) (o : Options) (files : List String)
    (results : List ParseResult) (s t : Session) : Prop where
  read : files.map (fun path => (readFile input o path).result) = results.map .ok
  airspaces : t.database.airspaces =
    s.database.airspaces ++ files.flatMap fun path => (readFile input o path).inserted
  kept : t.results.toList = s.results.toList ++ results
  lines : t.lines.toList = s.lines.toList ++ List.zipWith fileLine files results

theorem Follows.refl (s : Session) : Follows input o [] [] s s := by
  constructor <;> simp

theorem Follows.cons {path : String} {r : ParseResult} {files : List String}
    {results : List ParseResult} {s t u : Session} (first : Follows input o [path] [r] s t)
    (later : Follows input o files results t u) :
    Follows input o (path :: files) (r :: results) s u where
  read := congrArg₂ (· ++ ·) first.read later.read
  airspaces := by
    rw [later.airspaces, first.airspaces, List.append_assoc]
    simp only [List.flatMap_cons, List.flatMap_nil, List.append_nil]
  kept := by
    rw [later.kept, first.kept, List.append_assoc, List.singleton_append]
  lines := by
    rw [later.lines, first.lines, List.append_assoc]
    rfl

end

end CommandLine.Session

namespace CommandLine

/-- What a file gives if nothing else is read, to a listener of its own. -/
def alone (host : Host) (o : Options) (path : String) : Outcome Float :=
  parseOpened Sphere.geodesy (Operation.logger o.abortOnError {}).skips
    (o.encoding.elim (.error .noEncoding) host.encodingNamed) (host.opened path)

namespace Report

section
variable {host : Host} {o : Options} {r : Report} {code : Nat}

end

end Report

end CommandLine
end Airspaces
