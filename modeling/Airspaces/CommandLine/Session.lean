import Airspaces.CommandLine.Arguments
import Airspaces.Database
import Airspaces.File.Folder
import Airspaces.Position.Sexagesimal
/-! A run of the program: the files are read one after the other into one database,
each by itself, and a summary follows. What is printed is kept line by line, so
that the lines before a fault are there as well. -/
namespace Airspaces.CommandLine

/-- What a session reads: the files under their paths, in encodings under their names. -/
structure Input where
  opened : String → Except Unopened (List UInt8)
  encodingNamed : String → Except ReadFault Encoding

structure Session where
  lines : Array Text := #[]
  database : Database Float := {}
  results : Array ParseResult := #[]

namespace Session

def print (line : Text) (s : Session) : Session := { s with lines := s.lines.push line }

/-- The encoding that is asked for, or why there is none. -/
def encoding (input : Input) (o : Options) : Except ReadFault Encoding :=
  match o.encoding with
  | some name => input.encodingNamed name
  | none => .error .noEncoding

def readFile (input : Input) (o : Options) (path : String) : Outcome Float :=
  parseOpened Sphere.geodesy (fun _ => !o.abortOnError) (encoding input o) (input.opened path)

/-- One more file. What it handed out before a fault stays in the database. -/
def addFile (input : Input) (o : Options) (path : String) (s : Session) :
    Session × Option (Fault Float) :=
  let outcome := readFile input o path
  let s := { s with database := s.database.addAll outcome.inserted }
  match outcome.result with
  | .error f => (s, some f)
  | .ok r =>
    let s := { s with results := s.results.push r }
    (s.print ((Folder.normalize path ++ ": " ++ r.text).toList), none)

def addFiles (input : Input) (o : Options) : List String → Session →
    Session × Option (Fault Float)
  | [], s => (s, none)
  | path :: rest, s =>
    match s.addFile input o path with
    | (s, some f) => (s, some f)
    | (s, none) => addFiles input o rest s

/-- The text with blanks behind it up to a width. -/
def padTo (width : Nat) (t : Text) : Text :=
  t ++ List.replicate (width - t.length) ' '

/-- The number of airspaces of each class, by the names of the classes. -/
def classCounts (d : Database Float) : List (String × Nat) :=
  (d.collection.groupByClass.map fun (name, group) => (name, group.length)).mergeSort
    fun a b => a.1 ≤ b.1

def countLine (name : String) (count : Nat) : Text :=
  [' ', ' '] ++ padTo 12 name.toList ++ ' ' :: (toString count).toList

/-- The boundary of an airspace in a few words. -/
def shapeText (units : UnitSetting) : Shape Float → Except (Fault Float) Text
  | .polygon points => .ok (' ' :: (toString points.length ++ " points").toList)
  | .circle center radius => do
    let (latitude, longitude) ← center.sexagesimal
    let size := Fixed.text 1 (Scalar.reading (units.distance.display radius))
    .ok (" radius ".toList ++ size ++ (units.distance.symbol ++ " around ").toList ++
      latitude ++ ' ' :: longitude)

def airspaceLine (units : UnitSetting) (a : Airspace Float) : Except (Fault Float) Text := do
  let shape ← shapeText units a.shape
  .ok (padTo 30 a.name ++ ' ' :: padTo 10 a.airspaceClass.name.toList ++ ' ' ::
    a.base.text units.altitude ++ [' ', '-', ' '] ++ a.top.text units.altitude ++ shape)

/-- The lines of a list up to the first one that cannot be written. -/
def listAirspaces (units : UnitSetting) : List (Airspace Float) → Session →
    Session × Option (Fault Float)
  | [], s => (s, none)
  | a :: rest, s =>
    match airspaceLine units a with
    | .error f => (s, some f)
    | .ok line => listAirspaces units rest (s.print line)

/-- The total, the number of each class, and every airspace if asked for. -/
def summarize (o : Options) (units : UnitSetting) (s : Session) :
    Session × Option (Fault Float) :=
  let total := ("Total: " ++ toString s.database.size ++ " airspaces").toList
  let counts := (classCounts s.database).map fun (name, count) => countLine name count
  let s := { s with lines := s.lines ++ total :: counts }
  if o.list then listAirspaces units s.database.airspaces s else (s, none)

def run (input : Input) (o : Options) (units : UnitSetting) :
    Session × Option (Fault Float) :=
  match addFiles input o o.files {} with
  | (s, some f) => (s, some f)
  | (s, none) => s.summarize o units

/-- The exit code of a run without faults: 0 if every file was read to its end. -/
def exitCode (s : Session) : Nat := if s.results.all (·.success) then 0 else 1

def output (s : Session) : String :=
  String.ofList (s.lines.toList.flatMap fun line => line ++ ['\n'])

end Session

/-- Where exports go: a path that is given, unless it is empty. -/
def target? (path : Option String) : Option String := path.filter fun p => !p.isEmpty

end Airspaces.CommandLine
