import Airspaces.Text.Digit
import Airspaces.Units
/-! Arguments of the command line. Options start with a hyphen; a long one may be cut
short as long as it stays unique, and its value may follow an equals sign. Files stand
in one unbroken stretch. After a double hyphen nothing is an option any more. An option
that could be several is refused before anything else is looked at. -/
namespace Airspaces.CommandLine

inductive Flag where
  | help
  | encoding
  | abortOnError
  | json
  | csv
  | list
  | units
  | verbose
  deriving Repr, DecidableEq

def Flag.takesValue : Flag → Bool
  | encoding | json | csv | units => true
  | _ => false

def spellings : List (Text × Flag) :=
  [("-h", Flag.help), ("--help", .help), ("--encoding", .encoding),
    ("--abort-on-error", .abortOnError), ("--json", .json), ("--csv", .csv), ("-l", .list),
    ("--list", .list), ("--units", .units), ("-v", .verbose), ("--verbose", .verbose)].map
    fun (spelling, flag) => (spelling.toList, flag)

/-- What the arguments ask for. Encoding and units are missing only where a double
hyphen, which is dropped, was attached in their place. -/
structure Options where
  files : List String := []
  encoding : Option String := some "utf-8"
  abortOnError : Bool := false
  json : Option String := none
  csv : Option String := none
  list : Bool := false
  units : Option UnitSetting := some {}
  verbose : Bool := false
  deriving Repr

/-- Why the arguments start no run. -/
inductive Refusal where
  | help
  | usage
  deriving Repr, DecidableEq

/-- What one argument is by its look. -/
inductive Argument where
  | value (t : Text)
  /-- An option and what is attached to it. Behind an option of one letter that takes no
  value, the letters of further ones may be attached. -/
  | option (flag : Flag) (attached : Option Text) (isLetter : Bool)
  | unknown
  | ambiguous
  deriving Repr, DecidableEq

namespace Argument

/-- Digits of any script after a hyphen, with a point before the last ones at most, are
a number and no option. One line feed may end them. -/
def isNegativeNumber (t : Text) : Bool :=
  match t with
  | '-' :: rest =>
    let rest := if rest.getLast? = some '\n' then rest.dropLast else rest
    match rest.dropWhile Text.isAnyDigit with
    | [] => !rest.isEmpty
    | '.' :: places => !places.isEmpty && places.all Text.isAnyDigit
    | _ => false
  | _ => false

/-- The text before the first equals sign and the one after it. -/
def splitEquals (t : Text) : Text × Option Text :=
  (t.takeWhile (· != '='), Text.after? '=' t)

/-- The options that an inexact spelling can mean. -/
def candidates (t : Text) : List Argument :=
  if t.take 2 = ['-', '-'] then
    let (head, attached) := splitEquals t
    spellings.filterMap fun (spelling, flag) =>
      if head.isPrefixOf spelling then some (option flag attached false) else none
  else
    spellings.filterMap fun (spelling, flag) =>
      if spelling = t.take 2 then some (option flag (some (t.drop 2)) true) else none

def ofText (t : Text) : Argument :=
  if t.take 1 ≠ ['-'] ∨ t.length = 1 then value t
  else
    let (head, attached) := splitEquals t
    let isLetter := t.take 2 ≠ ['-', '-']
    match spellings.lookup t, attached.bind fun _ => spellings.lookup head with
    | some flag, _ => option flag none isLetter
    | none, some flag => option flag attached isLetter
    | none, none =>
      match candidates t with
      | [only] => only
      | _ :: _ => ambiguous
      | [] => if isNegativeNumber t || t.contains ' ' then value t else unknown

end Argument

/-- The options read so far; something that nobody takes is held against them at the
end. -/
structure Draft where
  options : Options := {}
  hasFiles : Bool := false
  surplus : Bool := false

namespace Draft

/-- A stretch of arguments that are no options. The first one holds the files. -/
def addFiles (files : List Text) (d : Draft) : Draft :=
  if d.hasFiles || files.isEmpty then { d with surplus := true }
  else
    { d with
      options := { d.options with files := files.map String.ofList }
      hasFiles := true }

/-- An attached double hyphen is dropped and leaves the option without its value. -/
def setValue (flag : Flag) (t : Text) (d : Draft) : Except Refusal Draft :=
  let o := d.options
  let s := if t = ['-', '-'] then none else some (String.ofList t)
  match flag with
  | .encoding => .ok { d with options := { o with encoding := s } }
  | .json => .ok { d with options := { o with json := s } }
  | .csv => .ok { d with options := { o with csv := s } }
  | .units =>
    match s.map fun s => UnitSetting.presets.lookup s with
    | none => .ok { d with options := { o with units := none } }
    | some (some units) => .ok { d with options := { o with units } }
    | some none => .error .usage
  | _ => .error .usage

def setFlag (d : Draft) (flag : Flag) : Except Refusal Draft :=
  let o := d.options
  match flag with
  | .help => .error .help
  | .abortOnError => .ok { d with options := { o with abortOnError := true } }
  | .list => .ok { d with options := { o with list := true } }
  | .verbose => .ok { d with options := { o with verbose := true } }
  | _ => .error .usage

/-- An option without a value and the letters behind it, of which each has to be an
option. -/
def setLetters (flag : Flag) (letters : Text) (d : Draft) : Except Refusal Draft :=
  match letters.mapM fun letter => spellings.lookup ['-', letter] with
  | none => .error .usage
  | some more => (flag :: more).foldlM setFlag d

def finish (d : Draft) : Except Refusal Options :=
  if d.surplus || !d.hasFiles then .error .usage else .ok d.options

end Draft

/-- The arguments up to the next option. A double hyphen is dropped, and nothing after
it is an option. -/
def stretch : List Text → List Text × List Text
  | [] => ([], [])
  | t :: rest =>
    if t = ['-', '-'] then (rest, [])
    else
      match Argument.ofText t with
      | .value _ =>
        let (files, rest) := stretch rest
        (t :: files, rest)
      | _ => ([], t :: rest)

/-- Reads arguments from the left; each round takes at least one of them. -/
def readFrom : Nat → Draft → List Text → Except Refusal Options
  | 0, d, _ => d.finish
  | _ + 1, d, [] => d.finish
  | fuel + 1, d, t :: rest =>
    if t = ['-', '-'] then (d.addFiles rest).finish
    else
      match Argument.ofText t with
      | .value _ =>
        let (files, rest) := stretch (t :: rest)
        readFrom fuel (d.addFiles files) rest
      | .ambiguous => .error .usage
      | .unknown => readFrom fuel { d with surplus := true } rest
      | .option flag attached isLetter =>
        match flag.takesValue, attached, rest with
        | true, some value, rest => do readFrom fuel (← d.setValue flag value) rest
        | true, none, next :: rest =>
          match Argument.ofText next with
          | .value value =>
            if next = ['-', '-'] then .error .usage
            else do readFrom fuel (← d.setValue flag value) rest
          | _ => .error .usage
        | true, none, [] => .error .usage
        | false, none, rest => do readFrom fuel (← d.setFlag flag) rest
        | false, some letters, rest =>
          if isLetter && !letters.isEmpty then do readFrom fuel (← d.setLetters flag letters) rest
          else .error .usage

/-- Is there an argument before the double hyphen that could be several options? -/
def hasAmbiguous (args : List Text) : Bool :=
  (args.takeWhile (· != ['-', '-'])).any fun t => Argument.ofText t == .ambiguous

/-- What the arguments ask for, or why they ask for nothing. -/
def readArguments (args : List String) : Except Refusal Options :=
  let args := args.map String.toList
  if hasAmbiguous args then .error .usage else readFrom args.length {} args

end Airspaces.CommandLine
