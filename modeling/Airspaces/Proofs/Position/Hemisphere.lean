import Airspaces.Proofs.Position.Compact
import Mathlib.Data.Bool.AllAny
/-! Hemisphere letters. Neither form of a coordinate pair is looked at for real letters: any
character that does not go on with a number may stand in the place of one, and counts as north or
east unless it is an S or a W. -/
namespace Airspaces.Position

variable {α : Type} [Scalar α]

open Numeral (Entry)

/-- The real letters that characters count as. -/
def northOrSouth (c : Char) : Char := if isSouth c then 'S' else 'N'

def eastOrWest (c : Char) : Char := if isWest c then 'W' else 'E'

theorem isSouth_northOrSouth (c : Char) : isSouth (northOrSouth c) = isSouth c := by
  cases south : isSouth c <;> simp [northOrSouth, south] <;> decide

theorem isWest_eastOrWest (c : Char) : isWest (eastOrWest c) = isWest c := by
  cases west : isWest c <;> simp [eastOrWest, west] <;> decide

theorem alone_northOrSouth (c : Char) : Alone (northOrSouth c) := by
  unfold northOrSouth
  split <;> decide

theorem alone_eastOrWest (c : Char) : Alone (eastOrWest c) := by
  unfold eastOrWest
  split <;> decide

namespace Axis

/-- What stands before the letter. -/
def body (a : Axis) : Text := a.angle.text Entry.text ++ gap a.spaced

theorem text_eq (a : Axis) (rest : Text) : a.text ++ rest = a.body ++ a.letter :: rest := by
  simp [text, body]

/-- The axis with another character in the place of its letter. -/
def relettered (a : Axis) {letter : Char} (alone : Alone letter) : Axis :=
  { a with letter, closed := fun _ => ⟨alone.1, a.angle.stops_of_apart alone.2⟩ }

theorem signed_relettered {negative : Char → Bool} {a : Axis} {letter : Char} (alone : Alone letter)
    (same : negative letter = negative a.letter) :
    ((a.relettered alone).signed negative : α) = a.signed negative := by
  simp only [signed, relettered, same]

end Axis

namespace Group

def body (g : Group) : Text := g.lead.text ++ g.digits

/-- The group with another character in the place of its letter. -/
def relettered (g : Group) (letter : Char) : Group := { g with letter }

theorem signed_relettered {negative : Char → Bool} {g : Group} {letter : Char}
    (same : negative letter = negative g.letter) :
    ((g.relettered letter).signed negative : Except (Fault α) α) = g.signed negative := by
  simp only [signed, relettered, same]

end Group

/-- A pair with colons is read like the one that has real letters in their places. -/
theorem ofSexagesimal?_relettered (latitude longitude : Axis) (rest : Text) :
    (ofSexagesimal? (latitude.body ++ northOrSouth latitude.letter ::
        (longitude.body ++ eastOrWest longitude.letter :: rest)) : Option (Position α)) =
      ofSexagesimal? (latitude.text ++ (longitude.text ++ rest)) := by
  let north := latitude.relettered (alone_northOrSouth latitude.letter)
  let east := longitude.relettered (alone_eastOrWest longitude.letter)
  have parts : latitude.body ++ northOrSouth latitude.letter ::
      (longitude.body ++ eastOrWest longitude.letter :: rest) =
        north.text ++ (east.text ++ rest) := by
    rw [north.text_eq, east.text_eq]
    rfl
  rw [parts, ofSexagesimal?_text, ofSexagesimal?_text,
    Axis.signed_relettered _ (isSouth_northOrSouth _), Axis.signed_relettered _ (isWest_eastOrWest _)]

/-- So is a compact pair, whether it is read or not. -/
theorem ofCompact_relettered (latitude longitude : Group) {spaced : Bool} {rest : Text}
    (apart : Apart spaced longitude) (ended : ∀ c ∈ rest.head?, c.isDigit = false) :
    (ofCompact (northOrSouth latitude.letter :: (latitude.body ++ (gap spaced ++
        eastOrWest longitude.letter :: (longitude.body ++ rest)))) : Except (Fault α) _) =
      ofCompact (latitude.text ++ (gap spaced ++ (longitude.text ++ rest))) := by
  let north := latitude.relettered (northOrSouth latitude.letter)
  let east := longitude.relettered (eastOrWest longitude.letter)
  have apart' : Apart spaced east := fun _ =>
    ⟨(alone_eastOrWest longitude.letter).1, (alone_eastOrWest longitude.letter).2.1⟩
  have whole := ofCompact_text (α := α) north east apart' ended
  rw [Group.signed_relettered (isSouth_northOrSouth _),
    Group.signed_relettered (isWest_eastOrWest _)] at whole
  exact whole.trans (ofCompact_text latitude longitude apart ended).symm

/-- Neither reader asks for real letters. It reads a text if it reads the one with real letters in
their places, and as the same position: an S or a W in either case counts as what it is, every
other character as north or east. -/
theorem accepted_with_any_letters :
    (∀ (t : Text) (p : Position α), ofSexagesimal? t = some p ↔
      ∃ (latitude longitude : Axis) (rest : Text),
        t = latitude.body ++ latitude.letter ::
          (longitude.body ++ longitude.letter :: rest) ∧
        ofSexagesimal? (latitude.body ++ northOrSouth latitude.letter ::
          (longitude.body ++ eastOrWest longitude.letter :: rest)) = some p) ∧
    ∀ (t : Text) (p : Position α), ofCompact t = .ok (some p) ↔
      ∃ (latitude longitude : Group) (spaced : Bool) (rest : Text),
        (t = latitude.letter :: (latitude.body ++ (gap spaced ++
          longitude.letter :: (longitude.body ++ rest))) ∧
          Apart spaced longitude ∧ ∀ c ∈ rest.head?, c.isDigit = false) ∧
        ofCompact (northOrSouth latitude.letter :: (latitude.body ++ (gap spaced ++
          eastOrWest longitude.letter :: (longitude.body ++ rest)))) = .ok (some p) := by
  constructor
  · intro t p
    rw [ofSexagesimal?_eq_some]
    refine exists_congr fun latitude => exists_congr fun longitude => exists_congr fun rest => ?_
    rw [ofSexagesimal?_relettered, ofSexagesimal?_text, longitude.text_eq, latitude.text_eq]
  · intro t p
    constructor
    · intro read
      obtain ⟨latitude, longitude, spaced, rest, rfl, apart, ended⟩ := exists_of_ofCompact read
      refine ⟨latitude, longitude, spaced, rest, ⟨rfl, apart, ended⟩, ?_⟩
      rw [ofCompact_relettered latitude longitude apart ended, read]
    · rintro ⟨latitude, longitude, spaced, rest, ⟨rfl, apart, ended⟩, read⟩
      rw [ofCompact_relettered latitude longitude apart ended] at read
      exact read

/-- Texts without any letter for the latitude, or without any letter at all, in which a digit is
taken for one and left out of its number. -/
theorem digits_in_the_place_of_letters :
    (∀ c ∈ "53:20:00 151:12:36 E".toList, c ∉ ['N', 'n', 'S', 's']) ∧
    (∃ p : Position Rat, ofSexagesimal? "53:20:00 151:12:36 E".toList = some p ∧
      p.latitude = 160 / 3 ∧ p.longitude = 5121 / 100) ∧
    (∀ c ∈ "542500 0105000".toList, c ∉ ['N', 'n', 'S', 's', 'E', 'e', 'W', 'w']) ∧
    ∃ p : Position Rat, ofCompact "542500 0105000".toList = .ok (some p) ∧
      p.latitude = 53 / 12 ∧ p.longitude = 65 / 6 := by
  refine ⟨List.all_iff_forall_prop.mp (by decide), ?_,
    List.all_iff_forall_prop.mp (by decide), ?_⟩
  · have located : (ofSexagesimal? "53:20:00 151:12:36 E".toList : Option (Position Rat)).map
        (fun p => (p.latitude, p.longitude)) = some (160 / 3, 5121 / 100) := by decide +kernel
    obtain ⟨p, read, same⟩ := Option.map_eq_some_iff.mp located
    obtain ⟨north, east⟩ := Prod.mk.inj same
    exact ⟨p, read, north, east⟩
  · have located : ((ofCompact "542500 0105000".toList : Except (Fault Rat) _).toOption.join).map
        (fun p => (p.latitude, p.longitude)) = some (53 / 12, 65 / 6) := by decide +kernel
    match read : (ofCompact "542500 0105000".toList : Except (Fault Rat) _) with
    | .ok (some p) =>
      rw [read] at located
      obtain ⟨north, east⟩ := Prod.mk.inj (Option.some.inj located)
      exact ⟨p, rfl, north, east⟩
    | .ok none =>
      rw [read] at located
      cases located
    | .error f =>
      rw [read] at located
      cases located

end Airspaces.Position
