import Airspaces.Measurement
import Airspaces.Text.Quoted
/-! What can go wrong in an airspace file. A line error concerns one line and can be
skipped over; its cause says which part of a directive was missing or unreadable.
`ParseError` is the form in which errors are reported, with a kind that is a special
case of other kinds. -/
namespace Airspaces

/-- Which part of a line could not be read. -/
inductive LineCause where
  | malformedPoint
  | malformedCenter
  | malformedArcStart
  | missingArcEnd
  | malformedArcEnd
  | missingCircleRadius
  | malformedCircleRadius
  | missingCircleCentre
  | malformedCircleCenter
  | arcWithoutPoint
  | missingArcCentre
  | malformedArcCenter
  | missingArcTarget
  deriving Repr, DecidableEq

namespace LineCause

def message : LineCause → String
  | malformedPoint => "Malformed point"
  | malformedCenter => "Malformed center"
  | malformedArcStart => "Malformed arc start"
  | missingArcEnd => "Missing arc end"
  | malformedArcEnd => "Malformed arc end"
  | missingCircleRadius => "Missing circle RADIUS="
  | malformedCircleRadius => "Malformed circle radius"
  | missingCircleCentre => "Missing circle CENTRE="
  | malformedCircleCenter => "Malformed circle center"
  | arcWithoutPoint => "Arc without a previous point"
  | missingArcCentre => "Missing arc CENTRE="
  | malformedArcCenter => "Malformed arc center"
  | missingArcTarget => "Missing arc TO="

/-- Is a coordinate at fault, or the line as a whole? -/
def isCoordinate : LineCause → Bool
  | malformedPoint | malformedCenter | malformedArcStart | missingArcEnd | malformedArcEnd
  | malformedCircleCenter | malformedArcCenter => true
  | _ => false

end LineCause

structure LineError where
  cause : LineCause
  line : Text
  deriving Repr, DecidableEq

inductive ErrorKind where
  | parse
  | line
  | malformedCoordinate
  | malformedLine
  | unknownFileType
  | aborted
  deriving Repr, DecidableEq

namespace ErrorKind

/-- The kind that a kind is a special case of. -/
def parent? : ErrorKind → Option ErrorKind
  | parse => none
  | line => some parse
  | malformedCoordinate => some line
  | malformedLine => some line
  | unknownFileType => some parse
  | aborted => some parse

/-- Is every error of the first kind one of the second? -/
def isA (k wide : ErrorKind) : Bool :=
  k == wide || match k.parent? with
    | none => false
    | some p => p == wide || p.parent? == some wide

end ErrorKind

/-- What is attached to an error besides its message. -/
inductive Detail where
  | nothing
  | flag (b : Bool)
  | text (t : Text)
  | number (n : Int)
  | measure (x : Float)
  | many (items : List Detail)
  | named (fields : List (Text × Detail))
  deriving Inhabited

namespace Detail

mutual

/-- The detail inside a list or under a name, where texts stand in quotes. -/
def quoted : Detail → Text
  | nothing => "None".toList
  | flag b => (if b then "True" else "False").toList
  | text t => Text.quoted t
  | number n => (toString n).toList
  | measure x => (Measurement.text x).toList
  | many items => '[' :: quotedItems items ++ [']']
  | named fields => '\x7b' :: quotedFields fields ++ ['\x7d']

def quotedItems : List Detail → Text
  | [] => []
  | [item] => quoted item
  | item :: rest => quoted item ++ ',' :: ' ' :: quotedItems rest

def quotedFields : List (Text × Detail) → Text
  | [] => []
  | [(name, d)] => Text.quoted name ++ ':' :: ' ' :: quoted d
  | (name, d) :: rest =>
    Text.quoted name ++ ':' :: ' ' :: (quoted d ++ ',' :: ' ' :: quotedFields rest)

end

/-- The detail by itself, a text as it is. -/
def shown : Detail → Text
  | text t => t
  | d => d.quoted

end Detail

structure ParseError where
  kind : ErrorKind
  message : Text
  detail : Detail := .nothing

namespace ParseError

/-- What an error is about; only line errors say it. -/
def subject? (e : ParseError) : Option Detail :=
  if e.kind.isA .line then
    match e.detail with
    | .nothing => none
    | d => some d
  else none

/-- The message, with the line in quotes if there is one. -/
def text (e : ParseError) : Text :=
  match e.subject? with
  | some d => e.message ++ ": \"".toList ++ d.shown ++ ['"']
  | none => e.message

def aborted (message : Text) (number : Int) (line : Text) : ParseError :=
  ⟨.aborted, message, .many [.number number, .text line]⟩

end ParseError

def LineError.report (e : LineError) : ParseError :=
  ⟨if e.cause.isCoordinate then .malformedCoordinate else .malformedLine,
    e.cause.message.toList, .text e.line⟩

end Airspaces
