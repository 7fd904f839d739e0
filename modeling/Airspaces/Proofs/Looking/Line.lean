import Airspaces.Dialect.OpenAir
import Airspaces.Dialect.Tnp
import Airspaces.File.Kind
import Airspaces.Proofs.Looking.Altitude
import Airspaces.Proofs.Looking.Position
import Airspaces.Proofs.Tessellation
/-! Lines read by positions. A line is handed on in parts to the readers of values, coordinates and
altitudes, and to those of numbers, which look at no single character. All that a line itself is
looked at for is its first character, which the empty line has not. -/
namespace Airspaces

variable {α : Type} [Scalar α]

/-- The dialect of a line, from the character after a class directive if there is one. -/
def FileKind.detectAt (line : Text) : Looked FileKind :=
  if (Text.afterHead? line ['I', 'N', 'C', 'L', 'U', 'D', 'E', '=']).isSome ||
      (Text.afterHead? line ['T', 'Y', 'P', 'E', '=']).isSome then .ok tnp
  else
    match Text.afterHead? line ['A', 'C'] with
    | none => .ok unknown
    | some rest =>
      if rest = [] then .ok openAir
      else do
        if (← look rest 0) = ' ' then .ok openAir else .ok unknown

namespace OpenAir

/-- The value of a directive, from the character after the directive if there is one. -/
def valueAt (t : Text) : Looked (Option Text) :=
  if t = [] then .ok (some [])
  else do
    if (← look t 0) = ' ' then .ok (some (t.drop 1)) else .ok none

def pointLineAt (line : Text) (r : Record α) : Looked (Step α (Record α)) := do
  match ← valueAt (line.drop 2) with
  | none => .ok (.leave r)
  | some value =>
    match ← Position.ofSexagesimalAt value with
    | none => .ok (.reject r .malformedPoint line)
    | some point => .ok (.leave (r.addPoints [point]))

def arcLineAt (g : Geodesy α) (line : Text) (r : Record α) : Looked (Step α (Record α)) := do
  match ← Position.ofSexagesimalAt (line.drop 3) with
  | none => .ok (.reject r .malformedArcStart line)
  | some start =>
    match Text.after? ',' line with
    | none => .ok (.reject r .missingArcEnd line)
    | some rest =>
      match ← Position.ofSexagesimalAt rest with
      | none => .ok (.reject r .malformedArcEnd line)
      | some stop => .ok (addCurve r (Arc.between g r.center start stop r.rotation))

/-- Circles and sectors are read by their numbers alone. -/
def boundaryLineAt (g : Geodesy α) (line : Text) (r : Record α) : Looked (Step α (Record α)) :=
  let second := letter line
  if second = ['P'] then pointLineAt line r
  else if second = ['C'] then .ok (circleLine line r)
  else if second = ['A'] then .ok (sectorLine g line r)
  else if second = ['B'] then arcLineAt g line r
  else .ok (.leave r)

def variableLineAt (line : Text) (r : Record α) : Looked (Step α (Record α)) :=
  let setting := Text.upper (line.drop 2)
  if ['X', '='].isPrefixOf setting then do
    match ← Position.ofSexagesimalAt (line.drop 4) with
    | none => .ok (.reject r .malformedCenter line)
    | some center => .ok (.leave { r with center })
  else if ['D', '=', '-'].isPrefixOf setting then .ok (.leave { r with rotation := -1 })
  else if ['D', '=', '+'].isPrefixOf setting then .ok (.leave { r with rotation := 1 })
  else .ok (.leave r)

/-- The second letters of the attributes. No other line is looked at any further. -/
def attributes : List Text := [['C'], ['N'], ['L'], ['H'], ['R']]

def attributeLineAt (line : Text) (r : Record α) : Looked (Step α (Record α)) := do
  let second := letter line
  if second ∉ attributes then .ok (.leave r)
  else
    match ← valueAt (line.drop 2) with
    | none => .ok (.leave r)
    | some value =>
      if second = ['C'] then
        .ok { state := r.start (classOf value), finished := r.pending }
      else if second = ['N'] then .ok (.leave { r with name := value })
      else if second = ['L'] then
        let base ← Altitude.readAt value
        .ok (.leave { r with base })
      else if second = ['H'] then
        let top ← Altitude.readAt value
        .ok (.leave { r with top })
      else if second = ['R'] then .ok (.leave { r with radio := value })
      else .ok (.leave r)

/-- What one line does to the record, from its first character on. -/
def stepAt (g : Geodesy α) (line : Text) (r : Record α) : Looked (Step α (Record α)) := do
  let first := Text.capital (← look line 0)
  if first = ['D'] then boundaryLineAt g line r
  else if first = ['V'] then variableLineAt line r
  else if first = ['A'] then attributeLineAt line r
  else .ok (.leave r)

end OpenAir

namespace Tnp

/-- The last point, looked at by its index. -/
def lastPointAt (r : Record α) : Looked (Option (Position α)) :=
  if r.points.isEmpty then .ok none
  else do
    let point ← look r.points.toList (r.points.size - 1)
    .ok (some point)

def circleLineAt (t line : Text) (r : Record α) : Looked (Step α (Record α)) :=
  match Text.afterHead? t radiusHead with
  | none => .ok (.reject r .missingCircleRadius line)
  | some parameter =>
    match Numeral.scan? parameter with
    | none => .ok (.reject r .malformedCircleRadius line)
    | some (radius, _) =>
      match afterSpacedHead? centreHead parameter with
      | none => .ok (.reject r .missingCircleCentre line)
      | some parameter => do
        match ← Position.ofCompactAt parameter with
        | .error f => .ok (.crash r f)
        | .ok none => .ok (.reject r .malformedCircleCenter line)
        | .ok (some center) =>
          let r := { r with radius := LengthUnit.nauticalMiles.store radius, center }
          .ok { state := r.reset, finished := [r.circle] }

def arcLineAt (g : Geodesy α) (t line : Text) (r : Record α) : Looked (Step α (Record α)) := do
  match ← lastPointAt r with
  | none => .ok (.reject r .arcWithoutPoint line)
  | some start =>
    match afterSpacedHead? centreHead t with
    | none => .ok (.reject r .missingArcCentre line)
    | some parameter =>
      match ← Position.ofCompactAt parameter with
      | .error f => .ok (.crash r f)
      | .ok none => .ok (.reject r .malformedArcCenter line)
      | .ok (some center) =>
        match target? parameter with
        | none => .ok (.reject r .missingArcTarget line)
        | some parameter =>
          match ← Position.ofCompactAt parameter with
          | .error f => .ok (.crash r f)
          | .ok none => .ok (.reject r .malformedArcEnd line)
          | .ok (some stop) =>
            let r := { r with center }
            match Arc.between g center start stop r.rotation with
            | .error f => .ok (.crash r f)
            | .ok points => .ok (.leave (r.addPoints points))

def pointLineAt (t line : Text) (r : Record α) : Looked (Step α (Record α)) := do
  match ← Position.ofCompactAt t with
  | .error f => .ok (.crash r f)
  | .ok none => .ok (.reject r .malformedPoint line)
  | .ok (some point) => .ok (.leave (r.addPoints [point]))

/-- What a line with a keyword does. The values of the other keywords are taken as a whole. -/
def keywordLineAt (g : Geodesy α) (keyword : Keyword) (value line : Text) (r : Record α) :
    Looked (Step α (Record α)) :=
  match keyword with
  | .point => pointLineAt value line r
  | .circle => circleLineAt value line r
  | .clockwise => arcLineAt g value line { r with rotation := 1 }
  | .antiClockwise => arcLineAt g value line { r with rotation := -1 }
  | .tops => do
    let top ← Altitude.readAt value
    .ok (.leave { r with top })
  | .base => do
    let base ← Altitude.readAt value
    .ok (.leave { r with base })
  | keyword => .ok (keywordLine g keyword value line r)

/-- What one line does to the record and the switch. -/
def stepAt (g : Geodesy α) (line : Text) (s : State α) : Looked (Step α (State α)) :=
  match Text.afterHead? line includeHead with
  | some value => .ok (.leave { s with ignoring := ignoringAfter value s.ignoring })
  | none =>
    if s.ignoring then .ok (.leave s)
    else
      match keyword? line with
      | none => .ok (.leave s)
      | some (keyword, value) => do
        let done ← keywordLineAt g keyword value line s.record
        .ok (done.map fun r => { s with record := r })

end Tnp

theorem FileKind.detectAt_eq (line : Text) : detectAt line = .ok (detect line) := by
  unfold detectAt detect
  split
  · rfl
  · split
    · rename_i same
      rw [same]
    · rename_i rest same
      rw [same]
      cases rest with
      | nil => rfl
      | cons c rest =>
        rw [if_neg (List.cons_ne_nil c rest), look_of_drop (List.drop_zero ..)]
        simp only [bind, Except.bind]
        by_cases space : c = ' '
        · subst space
          rfl
        · simp [space]

namespace OpenAir

theorem valueAt_eq (t : Text) : valueAt t = .ok (value? t) := by
  cases t with
  | nil => rfl
  | cons c rest =>
    rw [valueAt, if_neg (List.cons_ne_nil c rest), look_of_drop (List.drop_zero ..)]
    simp only [bind, Except.bind]
    by_cases space : c = ' '
    · subst space
      rfl
    · simp [value?, space]

theorem pointLineAt_eq (line : Text) (r : Record α) :
    pointLineAt line r = .ok (pointLine line r) := by
  rw [pointLineAt, pointLine, valueAt_eq]
  cases value? (line.drop 2) with
  | none => rfl
  | some value =>
    simp only [bind, Except.bind, Position.ofSexagesimalAt_eq]
    cases (Position.ofSexagesimal? value : Option (Position α)) <;> rfl

theorem arcLineAt_eq (g : Geodesy α) (line : Text) (r : Record α) :
    arcLineAt g line r = .ok (arcLine g line r) := by
  rw [arcLineAt, arcLine]
  simp only [bind, Except.bind, Position.ofSexagesimalAt_eq]
  cases (Position.ofSexagesimal? (line.drop 3) : Option (Position α)) with
  | none => rfl
  | some start =>
    dsimp only
    cases Text.after? ',' line with
    | none => rfl
    | some rest =>
      dsimp only
      cases (Position.ofSexagesimal? rest : Option (Position α)) <;> rfl

theorem boundaryLineAt_eq (g : Geodesy α) (line : Text) (r : Record α) :
    boundaryLineAt g line r = .ok (boundaryLine g line r) := by
  simp only [boundaryLineAt, boundaryLine, pointLineAt_eq, arcLineAt_eq]
  split_ifs <;> rfl

theorem variableLineAt_eq (line : Text) (r : Record α) :
    variableLineAt line r = .ok (variableLine line r) := by
  simp only [variableLineAt, variableLine, bind, Except.bind, Position.ofSexagesimalAt_eq]
  cases (Position.ofSexagesimal? (line.drop 4) : Option (Position α)) <;> split_ifs <;> rfl

theorem attributeLineAt_eq (line : Text) (r : Record α) :
    attributeLineAt line r = .ok (attributeLine line r) := by
  simp only [attributeLineAt, attributeLine, bind, Except.bind, valueAt_eq, Altitude.readAt_eq]
  by_cases listed : letter line ∈ attributes
  · rw [if_neg (not_not.mpr listed)]
    cases value? (line.drop 2) with
    | none => rfl
    | some value =>
      dsimp only
      split_ifs <;> rfl
  · rw [if_pos listed]
    simp only [attributes, List.mem_cons, List.not_mem_nil, or_false, not_or] at listed
    obtain ⟨not_class, not_name, not_base, not_top, not_radio⟩ := listed
    simp only [if_neg not_class, if_neg not_name, if_neg not_base, if_neg not_top,
      if_neg not_radio]
    cases value? (line.drop 2) <;> rfl

/-- A line with a first character is read without a look beyond its end. -/
theorem stepAt_cons (g : Geodesy α) (c : Char) (rest : Text) (r : Record α) :
    stepAt g (c :: rest) r = .ok (step g (c :: rest) r) := by
  rw [stepAt, look_of_drop (List.drop_zero ..)]
  simp only [bind, Except.bind, boundaryLineAt_eq, variableLineAt_eq, attributeLineAt_eq, step]
  split_ifs <;> rfl

end OpenAir

namespace Tnp

theorem lastPointAt_eq (r : Record α) : lastPointAt r = .ok r.lastPoint? := by
  unfold lastPointAt Record.lastPoint?
  by_cases empty : r.points.isEmpty = true
  · rw [if_pos empty, Array.isEmpty_iff.mp empty]
    rfl
  · have some_point : r.points.size - 1 < r.points.toList.length := by
      have := Array.size_pos_iff.mpr (mt Array.isEmpty_iff.mpr empty)
      rw [Array.length_toList]
      omega
    rw [if_neg empty, look, dif_pos some_point, Array.back?_eq_getElem?,
      Array.getElem?_eq_getElem some_point]
    rfl

theorem circleLineAt_eq (t line : Text) (r : Record α) :
    circleLineAt t line r = .ok (circleLine t line r) := by
  simp only [circleLineAt, circleLine, bind, Except.bind, Position.ofCompactAt_eq]
  cases Text.afterHead? t radiusHead with
  | none => rfl
  | some parameter =>
    dsimp only
    cases (Numeral.scan? parameter : Option (α × Text)) with
    | none => rfl
    | some number =>
      dsimp only
      cases afterSpacedHead? centreHead parameter with
      | none => rfl
      | some parameter =>
        dsimp only
        rcases (Position.ofCompact parameter : Except (Fault α) (Option (Position α))) with
          f | _ | center <;> rfl

theorem arcLineAt_eq (g : Geodesy α) (t line : Text) (r : Record α) :
    arcLineAt g t line r = .ok (arcLine g t line r) := by
  simp only [arcLineAt, arcLine, bind, Except.bind, lastPointAt_eq, Position.ofCompactAt_eq]
  cases r.lastPoint? with
  | none => rfl
  | some start =>
    dsimp only
    cases afterSpacedHead? centreHead t with
    | none => rfl
    | some parameter =>
      dsimp only
      rcases (Position.ofCompact parameter : Except (Fault α) (Option (Position α))) with
        f | _ | center
      · rfl
      · rfl
      · dsimp only
        cases target? parameter with
        | none => rfl
        | some parameter =>
          dsimp only
          rcases (Position.ofCompact parameter : Except (Fault α) (Option (Position α))) with
            f | _ | stop
          · rfl
          · rfl
          · dsimp only
            cases Arc.between g center start stop r.rotation <;> rfl

theorem pointLineAt_eq (t line : Text) (r : Record α) :
    pointLineAt t line r = .ok (pointLine t line r) := by
  simp only [pointLineAt, pointLine, bind, Except.bind, Position.ofCompactAt_eq]
  rcases (Position.ofCompact t : Except (Fault α) (Option (Position α))) with f | _ | point <;> rfl

theorem keywordLineAt_eq (g : Geodesy α) (keyword : Keyword) (value line : Text) (r : Record α) :
    keywordLineAt g keyword value line r = .ok (keywordLine g keyword value line r) := by
  cases keyword with
  | point => exact pointLineAt_eq value line r
  | circle => exact circleLineAt_eq value line r
  | clockwise => exact arcLineAt_eq g value line _
  | antiClockwise => exact arcLineAt_eq g value line _
  | tops =>
    rw [keywordLineAt, Altitude.readAt_eq]
    rfl
  | base =>
    rw [keywordLineAt, Altitude.readAt_eq]
    rfl
  | _ => rfl

/-- A line is read without a look beyond its end. -/
theorem stepAt_eq (g : Geodesy α) (line : Text) (s : State α) :
    stepAt g line s = .ok (step g line s) := by
  simp only [stepAt, step, bind, Except.bind, keywordLineAt_eq]
  cases Text.afterHead? line includeHead with
  | some value => rfl
  | none =>
    dsimp only
    split_ifs
    · rfl
    · cases keyword? line <;> rfl

end Tnp

/-- Every reader by positions has an answer to every text, and so looks at no position but those
below its length: there is an answer to a look at these alone. The answer is that of the reader
that takes the text apart. An OpenAir line has to have a first character. Every word of an altitude
takes the position on, so that there are no more words than characters. -/
theorem looks_in_range (g : Geodesy α) :
    (∀ (t : Text) (pos : Nat), (∃ c, look t pos = .ok c) ↔ pos < t.length) ∧
    (∀ (t : Text) (pos : Nat), ∃ found : Option (α × Nat), Position.angleAt t pos = .ok found ∧
      ∀ x next, found = some (x, next) → next < t.length) ∧
    (∀ t : Text, Position.ofSexagesimalAt t = .ok (Position.ofSexagesimal? t : Option (Position α))) ∧
    (∀ t : Text, Position.ofCompactAt t =
      .ok (Position.ofCompact t : Except (Fault α) (Option (Position α)))) ∧
    (∀ t : Text, Altitude.readAt t = .ok (Altitude.read t : Altitude α)) ∧
    (∀ (t : Text) (pos : Nat), pos < t.length → ∃ token next,
      Altitude.Token.nextAt t pos = .ok (token, next) ∧ pos < next) ∧
    (∀ t : Text, (Altitude.Token.scan t).length ≤ t.length) ∧
    (∀ line : Text, FileKind.detectAt line = .ok (FileKind.detect line)) ∧
    (∀ (line : Text) (r : Record α),
      OpenAir.stepAt g line r = .ok (OpenAir.step g line r) ↔ line ≠ []) ∧
    ∀ (line : Text) (s : Tnp.State α), Tnp.stepAt g line s = .ok (Tnp.step g line s) := by
  refine ⟨fun _ _ => exists_look_iff, ?_, Position.ofSexagesimalAt_eq, Position.ofCompactAt_eq,
    Altitude.readAt_eq, fun _ _ => Altitude.Token.nextAt_advances, Altitude.Token.scan_length_le,
    FileKind.detectAt_eq, ?_, Tnp.stepAt_eq g⟩
  · intro t pos
    obtain ⟨found, read, tracked⟩ := Position.angleAt_tracks (α := α) t pos
    refine ⟨found, read, ?_⟩
    rintro x next rfl
    obtain ⟨-, nothing⟩ | ⟨_, _, _, _, -, same, left⟩ := tracked.nothing_or_unread
    · cases nothing
    · cases same
      exact lt_length_of_drop left
  · intro line r
    cases line with
    | nil => exact iff_of_false nofun (not_not.mpr rfl)
    | cons c rest => exact iff_of_true (OpenAir.stepAt_cons g c rest r) (List.cons_ne_nil c rest)

/-- Texts that break off before the letter, the digits or the sign that would come next. -/
theorem looks_in_range_of_cut_texts :
    let point := "53:20:41 N 010:24:41 ".toList
    let group := "N542500 E".toList
    let level := "2500F".toList
    Position.ofSexagesimalAt point = .ok (none : Option (Position Rat)) ∧
      Position.ofCompactAt group = .ok (.ok none : Except (Fault Rat) (Option (Position Rat))) ∧
      4 < level.length ∧
      (∃ token next, Altitude.Token.nextAt level 4 = .ok (token, next) ∧ 4 < next) ∧
      (∃ top : Altitude Rat, Altitude.readAt level = .ok top ∧ top.metres = 762) ∧
      OpenAir.stepAt .still ['D', 'P'] .fresh = .ok (OpenAir.step .still ['D', 'P'] .fresh) ∧
      OpenAir.stepAt .still [] .fresh ≠ .ok (OpenAir.step .still [] .fresh) := by
  intro point group level
  obtain ⟨-, -, sexagesimal, compact, altitude, word, -, -, line, -⟩ :=
    looks_in_range Geodesy.still
  have unread : (Position.ofSexagesimal? point : Option (Position Rat)) = none :=
    Option.isNone_iff_eq_none.mp (by decide +kernel)
  have ungrouped : (Position.ofCompact group : Except (Fault Rat) (Option (Position Rat))) =
      .ok none := rfl
  have more : 4 < level.length := by decide
  have scaled : (Altitude.read level : Altitude Rat).metres = 762 := by decide +kernel
  refine ⟨?_, ?_, more, word level 4 more, ⟨_, altitude level, scaled⟩, ?_, ?_⟩
  · rw [sexagesimal, unread]
  · rw [compact, ungrouped]
  · exact (line ['D', 'P'] .fresh).mpr (List.cons_ne_nil _ _)
  · exact fun same => (line [] .fresh).mp same rfl

end Airspaces
