import Airspaces.Position.Sexagesimal
import Airspaces.Proofs.Number.Scan
/-! Coordinates with colons as they are written. A reader accepts exactly an angle and a character
in the place of its letter, twice, and looks no further, so that a text which ends before the
second letter is never read. -/
namespace Airspaces.Position

variable {α : Type} [Scalar α]

open Numeral (Lead Spelling Entry)

/-- Degrees, with or without minutes, and these with or without seconds. -/
inductive Angle (π : Type) where
  | degrees (degrees : π)
  | minutes (degrees minutes : π)
  | seconds (degrees minutes seconds : π)

namespace Angle

variable {π : Type}

def text (spell : π → Text) : Angle π → Text
  | degrees d => spell d
  | minutes d m => spell d ++ ':' :: spell m
  | seconds d m s => spell d ++ ':' :: (spell m ++ ':' :: spell s)

/-- The angle in degrees. -/
def size (value : π → α) : Angle π → α
  | degrees d => value d
  | minutes d m => value d + value m / 60.0
  | seconds d m s => value d + value m / 60.0 + value s / 3600.0

def last : Angle π → π
  | degrees d => d
  | minutes _ m => m
  | seconds _ _ s => s

def hasSeconds : Angle π → Bool
  | seconds _ _ _ => true
  | _ => false

/-- A character that does not go on with an angle. A colon does, unless there are seconds. -/
def Stops (a : Angle Entry) (c : Char) : Prop :=
  a.last.number.Stops c ∧ (c = ':' → a.hasSeconds = true)

/-- Only digits, points and colons go on with angles. -/
theorem stops_of_apart (a : Angle Entry) {c : Char}
    (apart : c.isDigit = false ∧ c ≠ '.' ∧ c ≠ ':') : a.Stops c := by
  obtain ⟨no_digit, no_point, no_colon⟩ := apart
  exact ⟨⟨no_digit, fun point => absurd point no_point⟩, fun colon => absurd colon no_colon⟩

end Angle

/-- A number and the character after it. -/
theorem part?_eq_some {t rest : Text} {x : α} {c : Char} :
    part? t = some (x, c, rest) ↔
      ∃ e : Entry, t = e.text ++ c :: rest ∧ e.number.Stops c ∧ x = e.value := by
  constructor
  · intro read
    unfold part? at read
    split at read
    · rename_i scanned
      cases read
      obtain ⟨e, parts, stops, valued⟩ := Numeral.scan?_eq_some.mp scanned
      exact ⟨e, parts, stops c rfl, valued⟩
    · cases read
  · rintro ⟨e, rfl, stops, rfl⟩
    have stops_head : ∀ d ∈ (c :: rest).head?, e.number.Stops d := by
      rintro d ⟨⟩
      exact stops
    have scanned := Numeral.scan?_eq_some (α := α).mpr ⟨e, rfl, stops_head, rfl⟩
    unfold part?
    rw [scanned]

theorem part?_text (e : Entry) {c : Char} (stops : e.number.Stops c) (rest : Text) :
    part? (e.text ++ c :: rest) = some ((e.value : α), c, rest) :=
  part?_eq_some.mpr ⟨e, rfl, stops, rfl⟩

theorem part?_colon (e : Entry) (rest : Text) :
    part? (e.text ++ ':' :: rest) = some ((e.value : α), ':', rest) :=
  part?_text e ⟨by decide, by rintro ⟨⟩⟩ rest

namespace Angle

/-- An angle is read as a whole, if the next character does not go on with it. -/
theorem angle?_text (a : Angle Entry) {c : Char} (stops : a.Stops c) (rest : Text) :
    angle? (a.text Entry.text ++ c :: rest) = some ((a.size Entry.value : α), c, rest) := by
  obtain ⟨stops, full⟩ := stops
  cases a with
  | degrees d =>
    have ended : c ≠ ':' := fun colon => Bool.false_ne_true (full colon)
    simp only [angle?, text, part?_text d stops, bind, Option.bind, if_neg ended]
    rfl
  | minutes d m =>
    have ended : c ≠ ':' := fun colon => Bool.false_ne_true (full colon)
    simp only [angle?, text, List.append_assoc, List.cons_append, part?_colon, part?_text m stops,
      bind, Option.bind, if_neg ended]
    rfl
  | seconds d m s =>
    simp only [angle?, text, List.append_assoc, List.cons_append, part?_colon, part?_text s stops,
      bind, Option.bind]
    rfl

theorem exists_of_angle? {t rest : Text} {x : α} {c : Char}
    (read : angle? t = some (x, c, rest)) : ∃ a : Angle Entry,
      t = a.text Entry.text ++ c :: rest ∧ a.Stops c ∧ x = a.size Entry.value := by
  obtain ⟨⟨d, c₁, after⟩, first, read⟩ := Option.bind_eq_some_iff.mp read
  obtain ⟨degrees, rfl, stops, rfl⟩ := part?_eq_some.mp first
  dsimp only at read
  split_ifs at read with colon
  · obtain ⟨⟨m, c₂, after⟩, second, read⟩ := Option.bind_eq_some_iff.mp read
    obtain ⟨minutes, rfl, stops, rfl⟩ := part?_eq_some.mp second
    dsimp only at read
    split_ifs at read with colon'
    · obtain ⟨⟨s, c₃, after⟩, third, read⟩ := Option.bind_eq_some_iff.mp read
      obtain ⟨seconds, rfl, stops, rfl⟩ := part?_eq_some.mp third
      cases read
      refine ⟨.seconds degrees minutes seconds, ?_, ⟨stops, fun _ => rfl⟩, rfl⟩
      simp [text, colon, colon']
    · cases read
      refine ⟨.minutes degrees minutes, ?_, ⟨stops, fun same => absurd same colon'⟩, rfl⟩
      simp [text, colon]
  · cases read
    exact ⟨.degrees degrees, rfl, ⟨stops, fun same => absurd same colon⟩, rfl⟩

end Angle

/-- A character that is no part of an angle and no space. -/
def Alone (c : Char) : Prop := c ≠ ' ' ∧ c.isDigit = false ∧ c ≠ '.' ∧ c ≠ ':'

instance (c : Char) : Decidable (Alone c) := inferInstanceAs (Decidable (_ ∧ _))

/-- One space or none. -/
def gap (spaced : Bool) : Text := if spaced then [' '] else []

/-- An angle and the character in the place of its hemisphere letter, whichever it is. -/
structure Axis where
  angle : Angle Entry
  spaced : Bool
  letter : Char
  closed : spaced = false → letter ≠ ' ' ∧ angle.Stops letter

namespace Axis

def text (a : Axis) : Text := a.angle.text Entry.text ++ (gap a.spaced ++ [a.letter])

def signed (negative : Char → Bool) (a : Axis) : α :=
  if negative a.letter then -a.angle.size Entry.value else a.angle.size Entry.value

variable {negative : Char → Bool} {t rest : Text} {x : α} {c : Char}

theorem signedAngle?_of_unspaced (read : angle? t = some (x, c, rest)) (unspaced : c ≠ ' ') :
    signedAngle? negative t = some (if negative c then -x else x, rest) := by
  simp only [signedAngle?, read, bind, Option.bind]
  split
  · exact absurd rfl unspaced
  · exact absurd rfl unspaced
  · rfl

/-- An axis is read as a whole, whatever follows it. -/
theorem signedAngle?_text (negative : Char → Bool) (a : Axis) (rest : Text) :
    signedAngle? negative (a.text ++ rest) = some ((a.signed negative : α), rest) := by
  obtain ⟨angle, spaced, letter, closed⟩ := a
  cases spaced with
  | true =>
    have read := angle.angle?_text (α := α) (angle.stops_of_apart (c := ' ') (by decide))
      (letter :: rest)
    simp only [signedAngle?, text, gap, if_true, List.append_assoc, List.cons_append,
      List.nil_append, read, bind, Option.bind]
    rfl
  | false =>
    obtain ⟨unspaced, stops⟩ := closed rfl
    rw [text, List.append_assoc]
    exact signedAngle?_of_unspaced (angle.angle?_text stops rest) unspaced

theorem exists_of_signedAngle? (read : signedAngle? negative t = some (x, rest)) :
    ∃ a : Axis, t = a.text ++ rest ∧ x = a.signed negative := by
  obtain ⟨⟨degrees, c, after⟩, found, finish⟩ := Option.bind_eq_some_iff.mp read
  obtain ⟨angle, rfl, stops, rfl⟩ := Angle.exists_of_angle? found
  by_cases spaced : c = ' '
  · cases spaced
    cases after with
    | nil => cases finish
    | cons letter after =>
      cases finish
      exact ⟨⟨angle, true, letter, nofun⟩, by simp [text, gap], rfl⟩
  · rw [signedAngle?_of_unspaced found spaced] at read
    cases read
    exact ⟨⟨angle, false, c, fun _ => ⟨spaced, stops⟩⟩, by simp [text, gap], rfl⟩

end Axis

/-- A pair of axes is read as a whole, and the only other condition is on the latitude. -/
theorem ofSexagesimal?_text (latitude longitude : Axis) (rest : Text) :
    (ofSexagesimal? (latitude.text ++ (longitude.text ++ rest)) : Option (Position α)) =
      (of? (latitude.signed isSouth) (longitude.signed isWest)).map normalize := by
  simp only [ofSexagesimal?, Axis.signedAngle?_text, bind, Option.bind]
  cases (of? (latitude.signed isSouth) (longitude.signed isWest) : Option (Position α)) <;> rfl

theorem ofSexagesimal?_eq_some {t : Text} {p : Position α} :
    ofSexagesimal? t = some p ↔ ∃ (latitude longitude : Axis) (rest : Text),
      t = latitude.text ++ (longitude.text ++ rest) ∧
        (of? (latitude.signed isSouth) (longitude.signed isWest)).map normalize = some p := by
  constructor
  · intro read
    obtain ⟨⟨north, after⟩, first, seconds⟩ := Option.bind_eq_some_iff.mp read
    obtain ⟨latitude, rfl, rfl⟩ := Axis.exists_of_signedAngle? first
    obtain ⟨⟨east, rest⟩, second, _⟩ := Option.bind_eq_some_iff.mp seconds
    obtain ⟨longitude, rfl, rfl⟩ := Axis.exists_of_signedAngle? second
    rw [ofSexagesimal?_text] at read
    exact ⟨latitude, longitude, rest, rfl, read⟩
  · rintro ⟨latitude, longitude, rest, rfl, located⟩
    rw [ofSexagesimal?_text, located]

/-- A text that ends before its second letter is never read. -/
theorem ofSexagesimal?_cut (latitude longitude : Axis) {cut more : Text}
    (whole : cut ++ more = latitude.text ++ longitude.text) (shorter : more ≠ []) :
    (ofSexagesimal? cut : Option (Position α)) = none := by
  cases read : (ofSexagesimal? cut : Option (Position α)) with
  | none => rfl
  | some p =>
    obtain ⟨latitude', longitude', rest, rfl, _⟩ := ofSexagesimal?_eq_some.mp read
    have first : signedAngle? isSouth (latitude.text ++ longitude.text) =
        some ((latitude.signed isSouth : α), longitude.text) := Axis.signedAngle?_text ..
    rw [← whole, List.append_assoc, Axis.signedAngle?_text] at first
    obtain ⟨_, same⟩ := Prod.mk.inj (Option.some.inj first)
    have second : signedAngle? isWest (longitude.text ++ []) =
        some ((longitude.signed isWest : α), []) := Axis.signedAngle?_text ..
    rw [List.append_nil, ← same, List.append_assoc, Axis.signedAngle?_text] at second
    obtain ⟨_, empty⟩ := Prod.mk.inj (Option.some.inj second)
    exact absurd (List.append_eq_nil_iff.mp empty).2 shorter

namespace Angle

/-- An angle of unsigned numerals, the first of them after a lead. -/
def led (l : Lead) : Angle Spelling → Angle Entry
  | degrees d => degrees ⟨l, d⟩
  | minutes d m => minutes ⟨l, d⟩ ⟨.empty, m⟩
  | seconds d m s => seconds ⟨l, d⟩ ⟨.empty, m⟩ ⟨.empty, s⟩

theorem text_led (l : Lead) (a : Angle Spelling) :
    (a.led l).text Entry.text = l.text ++ a.text Spelling.text := by
  cases a <;> simp [led, text, Entry.text]

theorem size_led {l : Lead} (unsigned : l.minus = none) (a : Angle Spelling) :
    ((a.led l).size Entry.value : α) = a.size fun s => s.numeral.value := by
  have bare := Entry.value_unsigned (α := α) Lead.minus_empty
  cases a <;> simp only [led, size, Entry.value_unsigned unsigned, bare]

/-- An angle with its letter, the first of its numerals after a lead. -/
def axis (a : Angle Spelling) (l : Lead) (spaced : Bool) (letter : Char)
    (apart : spaced = false → Alone letter) : Axis where
  angle := a.led l
  spaced := spaced
  letter := letter
  closed unspaced := ⟨(apart unspaced).1, stops_of_apart _ (apart unspaced).2⟩

variable {a : Angle Spelling} {l : Lead} {spaced : Bool} {letter : Char}

theorem text_axis (apart : spaced = false → Alone letter) :
    (a.axis l spaced letter apart).text =
      l.text ++ (a.text Spelling.text ++ (gap spaced ++ [letter])) := by
  rw [Axis.text, axis, text_led, List.append_assoc]

theorem signed_axis (apart : spaced = false → Alone letter) (unsigned : l.minus = none)
    (negative : Char → Bool) :
    ((a.axis l spaced letter apart).signed negative : α) =
      if negative letter then -a.size (fun s => s.numeral.value)
      else a.size fun s => s.numeral.value := by
  rw [Axis.signed, axis, size_led unsigned]

end Angle
end Airspaces.Position
