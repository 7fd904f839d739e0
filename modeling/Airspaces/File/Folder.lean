import Airspaces.File.Parse
import Airspaces.Text.Quoted
/-! Files by their paths. A folder is a list of entries under relative paths; a path
leads through folders, its empty and single-dot steps not counting. Outside the folder
only what every system has is known: folders above, a home folder, the folders under the
root and some devices. What cannot be opened is reported by the number and name that the
operating system gives it. A folder is one system that a run may find itself on, and what is
said about runs in general is said about any other as well. -/
namespace Airspaces

namespace Folder

inductive Entry where
  | file (bytes : List UInt8)
  | folder

/-- Why a path leads to no file. -/
inductive OpenError where
  | missing
  | notFolder
  | isFolder
  | noSpace
  | nameTooLong
  /-- A null character ends a path for the system, so that none can hold one. -/
  | nullInPath
  deriving Repr, DecidableEq

/-- What the operating system says about a path, if it is asked at all. -/
def OpenError.unopened (e : OpenError) (path : String) : Unopened :=
  let refused := fun words : String => .refused (words.toList ++ Text.quoted path.toList)
  match e with
  | missing => refused "[Errno 2] No such file or directory: "
  | notFolder => refused "[Errno 20] Not a directory: "
  | isFolder => refused "[Errno 21] Is a directory: "
  | noSpace => refused "[Errno 28] No space left on device: "
  | nameTooLong => refused "[Errno 36] File name too long: "
  | nullInPath => .nullInPath

def steps (path : String) : List String :=
  (path.splitOn "/").filter fun step => step != "" && step != "."

def isFromRoot (path : String) : Bool := "/".isPrefixOf path

/-- A path as it is shown: without steps that do not count. -/
def normalize (path : String) : String :=
  let root := if isFromRoot path then
      if "//".isPrefixOf path && !"///".isPrefixOf path then "//" else "/"
    else ""
  let shown := root ++ "/".intercalate (steps path)
  if shown.isEmpty then "." else shown

/-- The most bytes of one name, and what the bytes of a whole path stay below. -/
def nameLimit : Nat := 255

def pathLimit : Nat := 4096

/-- Where the steps of a place start. -/
inductive Origin where
  | folder
  | above
  | home
  | root
  deriving Repr, DecidableEq

structure Place where
  origin : Origin
  steps : List String
  deriving Repr, DecidableEq

namespace Place

def down (name : String) (p : Place) : Place := { p with steps := p.steps ++ [name] }

/-- One step up. There is nothing above the root, and everything above the folder is
one place. -/
def up (p : Place) : Place :=
  if p.steps = [] ∧ p.origin ≠ .root then ⟨.above, []⟩
  else { p with steps := p.steps.dropLast }

def start (path : String) : Place := ⟨if isFromRoot path then .root else .folder, []⟩

def home : Place := ⟨.home, []⟩

end Place

end Folder

structure Folder where
  entries : List (String × Folder.Entry)

namespace Folder

/-- The folders that every system has under its root. -/
def rootFolders : List String := [
  "bin", "boot", "dev", "etc", "home", "lib", "media", "mnt", "opt", "root", "run", "sbin", "srv",
  "tmp", "usr", "var"]

/-- The devices that can be written to. The null device reads as an empty file. -/
def devices : List String := ["null", "zero", "random", "urandom", "full"]

/-- What every system has under its root. -/
def rootEntry? : List String → Option Entry
  | [] => some .folder
  | [name] => if rootFolders.contains name then some .folder else none
  | ["dev", name] => if devices.contains name then some (.file []) else none
  | _ => none

/-- One device is always full, so that nothing can be written to it. -/
def fullDevice : Place := ⟨.root, ["dev", "full"]⟩

/-- What is at some steps below the folder; a folder may be there because of what is in
it. -/
def entryBelow? (folder : Folder) (at' : List String) : Option Entry :=
  if at'.isEmpty then some .folder
  else
    match folder.entries.find? fun (path, _) => steps path = at' with
    | some (_, entry) => some entry
    | none =>
      if folder.entries.any fun (path, _) => at'.isPrefixOf (steps path) then some .folder
      else none

def entry? (folder : Folder) (p : Place) : Option Entry :=
  match p.origin with
  | .folder => folder.entryBelow? p.steps
  | .above | .home => if p.steps = [] then some .folder else none
  | .root => rootEntry? p.steps

/-- One step on from a place, which has to be a folder. The name need not be there. -/
def step (folder : Folder) (p : Place) (name : String) : Except OpenError Place :=
  match folder.entry? p with
  | none => .error .missing
  | some (.file _) => .error .notFolder
  | some .folder =>
    if name = "." then .ok p
    else if name = ".." then .ok p.up
    else if nameLimit < name.utf8ByteSize then .error .nameTooLong
    else .ok (p.down name)

/-- Where the given names of a path lead. -/
def follow (folder : Folder) (start : Place) (path : String) (names : List String) :
    Except OpenError Place :=
  if path.contains '\x00' then .error .nullInPath
  else if pathLimit ≤ path.utf8ByteSize then .error .nameTooLong
  else names.foldlM folder.step start

def content (folder : Folder) (path : String) : Except OpenError (List UInt8) := do
  match folder.entry? (← folder.follow (.start path) (normalize path) (steps path)) with
  | none => .error .missing
  | some .folder => .error .isFolder
  | some (.file bytes) => .ok bytes

/-- Where a file is written under a path as it is given. A slash after the last name asks
for a folder, which cannot be written. -/
def target (folder : Folder) (start : Place) (path : String) : Except OpenError Place := do
  let names := (path.splitOn "/").filter (· != "")
  let parent ← folder.follow start path names.dropLast
  let last := names.getLast?.getD "."
  if last = "." ∨ last = ".." ∨ path.endsWith "/" then
    let _ ← folder.step parent "."
    .error .isFolder
  let place ← folder.step parent last
  match folder.entry? place with
  | some .folder => .error .isFolder
  | _ => if place = fullDevice then .error .noSpace else .ok place

/-- The bytes of the file at a path, or what the system says instead. -/
def opened (folder : Folder) (path : String) : Except Unopened (List UInt8) :=
  (folder.content path).mapError (·.unopened (normalize path))

/-- Reads the airspace file at a path. -/
def parse {α : Type} [Scalar α] (g : Geodesy α) (skips : Int → Bool) (folder : Folder)
    (encoding : Except ReadFault Encoding) (path : String) : Outcome α :=
  parseOpened g skips encoding (folder.opened path)

end Folder
end Airspaces
