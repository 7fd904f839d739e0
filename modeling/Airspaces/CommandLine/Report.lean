import Airspaces.CommandLine.Session
import Airspaces.Export.Document
import Airspaces.File.Address
/-! A whole run on a host, such as a folder: what it prints, how it ends and what it leaves in
files. The document is written before the table. -/
namespace Airspaces.CommandLine

inductive WriteError where
  | opening (e : Folder.OpenError)
  /-- A table is not even begun where its folder is missing. -/
  | noFolder
  | address (e : Address.FetchError)
  /-- A server's number in brackets of which one is missing is no address at all. -/
  | loneBracket
  /-- The program does not have the means to write in this way. -/
  | unsupported
  deriving Repr, DecidableEq

/-- What a run finds around it: what it reads, and where it can write. -/
structure Host extends Input where
  documentPlace : String → Except WriteError Folder.Place
  /-- Under some paths no table is written, and none is missing. -/
  tablePlace : String → Except WriteError (Option Folder.Place)

inductive Ending where
  | exit (code : Nat)
  /-- There are no units to show anything in. -/
  | noUnits
  | fault (f : Fault Float)
  | unwritten (e : WriteError)

structure Report where
  output : String := ""
  ending : Ending
  database : Database Float := {}
  /-- Where the files are that were written. -/
  document : Option Folder.Place := none
  table : Option Folder.Place := none

namespace Report

inductive Content where
  | document
  | table
  | file (bytes : List UInt8)

/-- A file that was written stands before one that was there, the table before the
document. -/
def contentAt? (r : Report) (folder : Folder) (p : Folder.Place) : Option Content :=
  if r.table = some p then some .table
  else if r.document = some p then some .document
  else
    match folder.entry? p with
    | some (.file bytes) => some (.file bytes)
    | _ => none

def refuse (r : Report) (e : WriteError) : Report := { r with ending := .unwritten e }

/-- One way of packing a table is not there; it goes by the end of the name. -/
def isUnsupported (path : String) : Bool :=
  ".zst".toList.reverse.isPrefixOf (path.toList.map Char.toLower).reverse

/-- The folder of a path, and then the path itself. -/
def targetInFolder (folder : Folder) (start : Folder.Place) (path : String) :
    Except WriteError Folder.Place :=
  let names := (Folder.steps path).dropLast
  let parent := (if Folder.isFromRoot path then "/" else "") ++ "/".intercalate names
  match (folder.follow start parent names).toOption.bind folder.entry? with
  | some .folder =>
    if isUnsupported path then .error .unsupported
    else (folder.target start path).mapError .opening
  | _ => .error .noFolder

/-- The rest of a path below the home folder. A tilde before the first slash stands for it,
with or without the name of the one user that every system has. -/
def belowHome? (path : String) : Option String :=
  let first := path.toList.takeWhile (· != '/')
  if first = "~".toList ∨ first = "~root".toList then
    some (String.ofList (path.toList.drop (first.length + 1)))
  else none

/-- Where a table is written as a file. -/
def fileTarget (folder : Folder) (path : String) : Except WriteError Folder.Place :=
  match belowHome? path with
  | some rest => targetInFolder folder .home rest
  | none => targetInFolder folder (.start path) path

/-- Where a table is written. Under an address it is not written at all. -/
def tableTarget (folder : Folder) (path : String) : Except WriteError (Option Folder.Place) :=
  if Address.hasLoneBracket path then .error .loneBracket
  else
    match Address.ofPath? path with
    | some a => ((a.fetch folder).map fun _ => none).mapError .address
    | none =>
      if Address.isForeign path then .error .unsupported
      else (fileTarget folder path).map some

/-- The document, if one is asked for. -/
def writeDocument (host : Host) (o : Options) (r : Report) : Report :=
  match target? o.json with
  | none => r
  | some path =>
    match host.documentPlace path with
    | .ok place => { r with document := some place }
    | .error e => r.refuse e

/-- The table, if one is asked for and the document was written. -/
def writeTable (host : Host) (o : Options) (r : Report) : Report :=
  match r.ending, target? o.csv with
  | .exit _, some path =>
    match host.tablePlace path with
    | .ok table => { r with table }
    | .error e => r.refuse e
  | _, _ => r

end Report

/-- A folder on a system on which nothing else is known, and the encodings of the library. -/
def Host.ofFolder (folder : Folder) : Host where
  opened := folder.opened
  encodingNamed := LineReader.encodingNamed
  documentPlace path := (folder.target (.start path) path).mapError .opening
  tablePlace := Report.tableTarget folder

def runOptions (host : Host) (o : Options) : Report :=
  match o.units with
  | none => { ending := .noUnits }
  | some units =>
    let (s, fault?) := Session.run host.toInput o units
    let report : Report :=
      { output := s.output, ending := .exit s.exitCode, database := s.database }
    match fault? with
    | some f => { report with ending := .fault f }
    | none => (report.writeDocument host o).writeTable host o

/-- The run that some arguments ask for. Wrong arguments end with code 2. -/
def run (folder : Folder) (args : List String) : Report :=
  match readArguments args with
  | .error .help => { ending := .exit 0 }
  | .error .usage => { ending := .exit 2 }
  | .ok o => runOptions (.ofFolder folder) o

end Airspaces.CommandLine
