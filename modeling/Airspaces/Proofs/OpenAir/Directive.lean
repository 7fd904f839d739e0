import Airspaces.Dialect.OpenAir
import Airspaces.Proofs.Curves
import Airspaces.Proofs.Feed
import Airspaces.Proofs.Text.Head
import Airspaces.Proofs.Text.Part
/-! What an OpenAir line says, whatever record it meets. Reading a line and doing what it
says is one step of the dialect, so that every law about steps is a law about directives. -/
namespace Airspaces.OpenAir

variable {α : Type} [Scalar α]

inductive Directive (α : Type) [Scalar α] where
  /-- A class directive with a well-formed value. -/
  | opens (value : Text)
  | name (value : Text)
  | base (value : Text)
  | top (value : Text)
  | radio (value : Text)
  | point (position : Position α)
  /-- The radius is in nautical miles. -/
  | circle (radius : α)
  | sector (radius first last : α)
  | arc (start stop : Position α)
  | center (position : Position α)
  | turn (sense : Sense)
  /-- A coordinate that the directive needs cannot be read. -/
  | unreadable (cause : LineCause)
  /-- A line without characters. -/
  | empty
  /-- A line that is passed over. -/
  | idle

namespace Directive

/-- What a line says of its value, which is blank or follows one space. With anything else in the
place of the space the line is passed over. -/
def ofValue (tells : Text → Directive α) : Text → Directive α
  | [] => tells []
  | ' ' :: value => tells value
  | _ => idle

def located (value : Text) : Directive α :=
  match Position.ofSexagesimal? value with
  | none => unreadable .malformedPoint
  | some position => point position

def ofCircle (t : Text) : Directive α :=
  match Numeral.scan? t with
  | none => idle
  | some (radius, _) => circle radius

/-- Three numbers. Between two of them stands one character of any kind. -/
def ofSector (t : Text) : Directive α :=
  match Numeral.scan? t with
  | none => idle
  | some (radius, t) =>
    match Numeral.scan? (t.drop 1) with
    | none => idle
    | some (first, t) =>
      match Numeral.scan? (t.drop 1) with
      | none => idle
      | some (last, _) => sector radius first last

/-- Two positions with a comma between them, after one character of any kind. -/
def ofArc (t : Text) : Directive α :=
  match Position.ofSexagesimal? (t.drop 1) with
  | none => unreadable .malformedArcStart
  | some start =>
    match Text.after? ',' t with
    | none => unreadable .missingArcEnd
    | some rest =>
      match Position.ofSexagesimal? rest with
      | none => unreadable .malformedArcEnd
      | some stop => arc start stop

def ofVariable (t : Text) : Directive α :=
  let setting := Text.upper t
  if ['X', '='].isPrefixOf setting then
    match Position.ofSexagesimal? (t.drop 2) with
    | none => unreadable .malformedCenter
    | some position => center position
  else if ['D', '=', '-'].isPrefixOf setting then turn .counterClockwise
  else if ['D', '=', '+'].isPrefixOf setting then turn .clockwise
  else idle

/-- What a line says by its two letters, which stand in either case. The second character of a
variable line is not looked at. -/
def ofLine : Text → Directive α
  | [] => empty
  | [_] => idle
  | c :: d :: rest =>
    let head := Text.upper [c, d]
    if head = ['A', 'C'] then ofValue opens rest
    else if head = ['A', 'N'] then ofValue name rest
    else if head = ['A', 'L'] then ofValue base rest
    else if head = ['A', 'H'] then ofValue top rest
    else if head = ['A', 'R'] then ofValue radio rest
    else if head = ['D', 'P'] then ofValue located rest
    else if head = ['D', 'C'] then ofCircle rest
    else if head = ['D', 'A'] then ofSector rest
    else if head = ['D', 'B'] then ofArc rest
    else if Text.capital c = ['V'] then ofVariable rest
    else idle

example (value : Text) : (ofLine ('A' :: 'c' :: ' ' :: value) : Directive α) = opens value := rfl

example (value : Text) : (ofLine ('A' :: 'C' :: 'X' :: value) : Directive α) = idle := rfl

/-- What a directive does to the record. The line is there for its error only. -/
def perform (g : Geodesy α) (line : Text) (r : Record α) : Directive α → Step α (Record α)
  | opens value => { state := r.start (classOf value), finished := r.pending }
  | name value => .leave { r with name := value }
  | base value => .leave { r with base := Altitude.read value }
  | top value => .leave { r with top := Altitude.read value }
  | radio value => .leave { r with radio := value }
  | point position => .leave (r.addPoints [position])
  | circle radius =>
    { state := r.reset
      finished := [r.airspace (.circle r.center (LengthUnit.nauticalMiles.store radius))] }
  | sector radius first last =>
    addCurve r (Arc.sector g r.center (LengthUnit.nauticalMiles.store radius) first last r.rotation)
  | arc start stop => addCurve r (Arc.between g r.center start stop r.rotation)
  | center position => .leave { r with center := position }
  | turn sense => .leave { r with rotation := sense.rotation }
  | unreadable cause => .reject r cause line
  | empty => .crash r .emptyLine
  | idle => .leave r

theorem ofValue_eq (tells : Text → Directive α) (t : Text) :
    ofValue tells t = (value? t).elim idle tells := by
  cases t with
  | nil => rfl
  | cons c rest =>
    by_cases space : c = ' '
    · subst space
      rfl
    · simp [ofValue, value?, space]

theorem letter_pair (c d : Char) (rest : Text) : letter (c :: d :: rest) = Text.capital d :=
  List.flatMap_singleton Text.capital d

section
variable (g : Geodesy α) (c d : Char) (rest : Text) (r : Record α)

theorem perform_located :
    (ofValue located rest).perform g (c :: d :: rest) r = pointLine (c :: d :: rest) r := by
  rw [pointLine, ofValue_eq]
  dsimp only [List.drop]
  cases value? rest with
  | none => rfl
  | some value =>
    dsimp only [Option.elim, located]
    cases Position.ofSexagesimal? (α := α) value <;> rfl

theorem perform_ofCircle :
    (ofCircle rest).perform g (c :: d :: rest) r = circleLine (c :: d :: rest) r := by
  rw [ofCircle, circleLine]
  dsimp only [List.drop]
  cases Numeral.scan? (α := α) rest <;> rfl

theorem perform_ofSector :
    (ofSector rest).perform g (c :: d :: rest) r = sectorLine g (c :: d :: rest) r := by
  rw [ofSector, sectorLine, sectorValues?]
  dsimp only [List.drop]
  cases Numeral.scan? (α := α) rest with
  | none => rfl
  | some found =>
    dsimp only [Option.bind_eq_bind, Option.bind_some]
    cases Numeral.scan? (α := α) (found.2.drop 1) with
    | none => rfl
    | some found =>
      dsimp only [Option.bind_some]
      cases Numeral.scan? (α := α) (found.2.drop 1) <;> rfl

variable {c d} in
theorem perform_ofArc (first : c ≠ ',') (second : d ≠ ',') :
    (ofArc rest).perform g (c :: d :: rest) r = arcLine g (c :: d :: rest) r := by
  rw [ofArc, arcLine, Text.after?_cons first, Text.after?_cons second]
  dsimp only [List.drop]
  cases Position.ofSexagesimal? (α := α) (rest.drop 1) with
  | none => rfl
  | some start =>
    cases Text.after? ',' rest with
    | none => rfl
    | some rest =>
      dsimp only
      cases Position.ofSexagesimal? (α := α) rest <;> rfl

theorem perform_ofVariable :
    (ofVariable rest).perform g (c :: d :: rest) r = variableLine (c :: d :: rest) r := by
  unfold ofVariable variableLine
  dsimp only [List.drop]
  split_ifs
  · cases Position.ofSexagesimal? (α := α) (rest.drop 2) <;> rfl
  all_goals rfl

end

/-- An attribute has its value first and its letter second. -/
theorem perform_attribute (g : Geodesy α) {c : Char} (first : Text.capital c = ['A']) (d : Char)
    (rest : Text) (r : Record α) :
    (ofLine (c :: d :: rest)).perform g (c :: d :: rest) r = attributeLine (c :: d :: rest) r := by
  have told : (ofLine (c :: d :: rest) : Directive α) =
      if Text.capital d = ['C'] then ofValue opens rest
      else if Text.capital d = ['N'] then ofValue name rest
      else if Text.capital d = ['L'] then ofValue base rest
      else if Text.capital d = ['H'] then ofValue top rest
      else if Text.capital d = ['R'] then ofValue radio rest
      else idle := by simp [ofLine, Text.upper_pair_iff, first]
  rw [told, attributeLine, letter_pair]
  simp only [ofValue_eq, List.drop]
  cases value? rest with
  | none => split_ifs <;> rfl
  | some value =>
    dsimp only [Option.elim]
    split_ifs <;> rfl

theorem perform_boundary (g : Geodesy α) {c : Char} (first : Text.capital c = ['D']) (d : Char)
    (rest : Text) (r : Record α) :
    (ofLine (c :: d :: rest)).perform g (c :: d :: rest) r =
      boundaryLine g (c :: d :: rest) r := by
  have told : (ofLine (c :: d :: rest) : Directive α) =
      if Text.capital d = ['P'] then ofValue located rest
      else if Text.capital d = ['C'] then ofCircle rest
      else if Text.capital d = ['A'] then ofSector rest
      else if Text.capital d = ['B'] then ofArc rest
      else idle := by simp [ofLine, Text.upper_pair_iff, first]
  have letter₁ : c ≠ ',' := by
    rintro rfl
    cases first
  rw [told, boundaryLine, letter_pair]
  split_ifs with point circle sector arc
  · exact perform_located g c d rest r
  · exact perform_ofCircle g c d rest r
  · exact perform_ofSector g c d rest r
  · have letter₂ : d ≠ ',' := by
      rintro rfl
      cases arc
    exact perform_ofArc g rest r letter₁ letter₂
  · rfl

/-- A step of the dialect reads a line and does what it says. -/
theorem perform_ofLine (g : Geodesy α) (line : Text) (r : Record α) :
    (ofLine line).perform g line r = step g line r := by
  rcases line with _ | ⟨c, _ | ⟨d, rest⟩⟩
  · rfl
  · simp only [ofLine, step]
    split_ifs <;> rfl
  · dsimp only [step]
    split_ifs with boundary variable_line attribute_line
    · exact perform_boundary g boundary d rest r
    · rw [← perform_ofVariable g]
      simp [ofLine, Text.upper_pair_iff, variable_line]
    · exact perform_attribute g attribute_line d rest r
    · simp [ofLine, Text.upper_pair_iff, boundary, variable_line, attribute_line, perform]

/-- A directive of numbers and positions, or one that does nothing. -/
def isMeasured : Directive α → Bool
  | point _ | circle _ | sector .. | arc .. | center _ | turn _ | unreadable _ | idle => true
  | _ => false

theorem located_measured (t : Text) : (located t : Directive α).isMeasured = true := by
  rw [located]
  split <;> rfl

theorem ofCircle_measured (t : Text) : (ofCircle t : Directive α).isMeasured = true := by
  rw [ofCircle]
  split <;> rfl

theorem ofSector_measured (t : Text) : (ofSector t : Directive α).isMeasured = true := by
  rw [ofSector]
  repeat' split
  all_goals rfl

theorem ofArc_measured (t : Text) : (ofArc t : Directive α).isMeasured = true := by
  rw [ofArc]
  repeat' split
  all_goals rfl

theorem ofVariable_measured (t : Text) : (ofVariable t : Directive α).isMeasured = true := by
  unfold ofVariable
  dsimp only
  split_ifs
  · split <;> rfl
  all_goals rfl

/-- What a line can say by its two letters: an attribute with its value, or something that keeps
no text. -/
inductive Tells (c d : Char) (rest : Text) : Directive α → Prop where
  | opens {value : Text} (head : Text.upper [c, d] = ['A', 'C'])
    (found : value? rest = some value) : Tells c d rest (opens value)
  | name {value : Text} (head : Text.upper [c, d] = ['A', 'N'])
    (found : value? rest = some value) : Tells c d rest (name value)
  | base {value : Text} (head : Text.upper [c, d] = ['A', 'L'])
    (found : value? rest = some value) : Tells c d rest (base value)
  | top {value : Text} (head : Text.upper [c, d] = ['A', 'H'])
    (found : value? rest = some value) : Tells c d rest (top value)
  | radio {value : Text} (head : Text.upper [c, d] = ['A', 'R'])
    (found : value? rest = some value) : Tells c d rest (radio value)
  | measured {e : Directive α} (measured : e.isMeasured = true) : Tells c d rest e

theorem Tells.ofValue {c d : Char} {rest : Text} {tells : Text → Directive α}
    (found : ∀ value, value? rest = some value → Tells c d rest (tells value)) :
    Tells c d rest (ofValue tells rest) := by
  rw [ofValue_eq]
  cases read : value? rest with
  | none => exact .measured rfl
  | some value => exact found value read

theorem ofLine_tells (c d : Char) (rest : Text) :
    Tells c d rest (ofLine (c :: d :: rest) : Directive α) := by
  dsimp only [ofLine]
  split_ifs with opening naming low high calling
  · exact .ofValue fun _ => .opens opening
  · exact .ofValue fun _ => .name naming
  · exact .ofValue fun _ => .base low
  · exact .ofValue fun _ => .top high
  · exact .ofValue fun _ => .radio calling
  · exact .ofValue fun value _ => .measured (located_measured value)
  · exact .measured (ofCircle_measured rest)
  · exact .measured (ofSector_measured rest)
  · exact .measured (ofArc_measured rest)
  · exact .measured (ofVariable_measured rest)
  · exact .measured rfl

theorem ofLine_ne_empty {line : Text} (filled : line ≠ []) :
    ofLine line ≠ (empty : Directive α) := by
  intro same
  rcases line with _ | ⟨c, _ | ⟨d, rest⟩⟩
  · exact filled rfl
  · cases same
  · have told := ofLine_tells (α := α) c d rest
    rw [same] at told
    cases told with
    | measured measured => cases measured

end Directive
end Airspaces.OpenAir
