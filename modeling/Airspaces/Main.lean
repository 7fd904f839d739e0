import Airspaces.CommandLine.Report
import Airspaces.CommandLine.Session
import Airspaces.Export.Clock
import Airspaces.Export.Document
import Std.Time.DateTime.Timestamp
/-! The program: it opens the files, prints what the session prints and writes the
exports. Everything else is decided in the session. -/
namespace Airspaces.CommandLine

def usage : String :=
  "usage: airspaces [-h] [--encoding NAME] [--abort-on-error] [--json FILE] [--csv FILE]\n" ++
  "                 [-l] [--units SETTING] [-v] files [files ...]\n"

/-- The bytes of a file, or why it does not open. -/
def openFile (path : String) : IO (Except Unopened (List UInt8)) := do
  let path := Folder.normalize path
  if path.contains '\x00' then return .error .nullInPath
  try
    let bytes ← IO.FS.readBinFile path
    return .ok bytes.toList
  catch e =>
    match e with
    | .inappropriateType _ code _ =>
      let error := if code = 20 then Folder.OpenError.notFolder else .isFolder
      return .error (error.unopened path)
    | .invalidArgument .. => return .error (Folder.OpenError.nameTooLong.unopened path)
    | .noFileOrDirectory .. => return .error (Folder.OpenError.missing.unopened path)
    | _ => return .error (.refused (toString e).toList)

/-- Seconds since the start of 1970. -/
def now : IO Nat := do
  let moment ← Std.Time.Timestamp.now
  return moment.toSecondsSinceUnixEpoch.val.toNat

def describe (f : Fault Float) : String :=
  match f.message? with
  | some message => message
  | none => "a number, a line or the encoding cannot be handled"

/-- The path with the home folder itself in place of a tilde. -/
def atHome (path : String) : IO String := do
  match Report.belowHome? path, ← IO.getEnv "HOME" with
  | some rest, some home => return home ++ "/" ++ rest
  | _, _ => return path

/-- Is a table never written under this path? -/
def isRefused (path : String) : Bool :=
  Address.hasLoneBracket path || (Address.ofPath? path).isSome || Address.isForeign path ||
    Report.isUnsupported path

def writeExports (o : Options) (times : Export.Times) (d : Database Float) : IO Unit := do
  if let some path := target? o.json then
    IO.FS.writeFile path (Export.json times d)
  if let some path := target? o.csv then
    if isRefused path then throw (IO.userError "the table cannot be written under this path")
    IO.FS.writeFile (← atHome path) (Export.csv d)

def perform (o : Options) (units : UnitSetting) : IO UInt32 := do
  let created ← now
  let opened ← o.files.mapM fun path => do return (path, ← openFile path)
  let missing := fun path => Folder.OpenError.missing.unopened (Folder.normalize path)
  let input : Input :=
    { opened := fun path => (opened.lookup path).getD (.error (missing path))
      encodingNamed := LineReader.encodingNamed }
  let (session, fault) := Session.run input o units
  IO.print session.output
  match fault with
  | some f =>
    IO.eprintln (describe f)
    return 1
  | none =>
    writeExports o ⟨Clock.text created, Clock.text (← now)⟩ session.database
    return session.exitCode.toUInt32

end Airspaces.CommandLine

open Airspaces.CommandLine in
def main (args : List String) : IO UInt32 := do
  match readArguments args with
  | .ok o =>
    match o.units with
    | some units => perform o units
    | none =>
      IO.eprintln "no units are given"
      return 1
  | .error .help =>
    IO.print usage
    return 0
  | .error .usage =>
    IO.eprint usage
    return 2
