import Airspaces.Position.Compact
import Airspaces.Proofs.Looking.Basic
/-! Coordinates read by positions. An angle ends before a character, so that this one is looked at
without asking first; a digit group may end the text, so that it is asked after each of them. Either
reader comes to the end of every text that is cut off, with the answer of the one that takes the
text apart. -/
namespace Airspaces.Position

variable {α : Type} [Scalar α]

open Text (Tracks unread)

/-- A number at a position, if the text does not end after it. -/
def partAt (t : Text) (pos : Nat) : Option (α × Nat) :=
  match Numeral.scanAt t pos with
  | (some x, next) => if next < t.length then some (x, next) else none
  | (none, _) => none

/-- Seconds after a colon at a position, if there is one. -/
def secondsAt (t : Text) (pos : Nat) (degrees : α) : Looked (Option (α × Nat)) := do
  if (← look t pos) = ':' then
    match partAt t (pos + 1) with
    | none => .ok none
    | some (seconds, pos) => .ok (some (degrees + seconds / 3600.0, pos))
  else .ok (some (degrees, pos))

/-- Minutes after a colon at a position, if there is one, with their seconds. -/
def minutesAt (t : Text) (pos : Nat) (degrees : α) : Looked (Option (α × Nat)) := do
  if (← look t pos) = ':' then
    match partAt t (pos + 1) with
    | none => .ok none
    | some (minutes, pos) => secondsAt t pos (degrees + minutes / 60.0)
  else .ok (some (degrees, pos))

/-- The angle at a position. The character after a number is looked at without asking whether it
is there, since the text does not end after the number. -/
def angleAt (t : Text) (pos : Nat) : Looked (Option (α × Nat)) :=
  match partAt t pos with
  | none => .ok none
  | some (degrees, pos) => minutesAt t pos degrees

/-- An angle and its hemisphere letter. Whether there is a character after the angle is not asked
again. -/
def signedAngleAt (negative : Char → Bool) (t : Text) (pos : Nat) : Looked (Option (α × Nat)) := do
  match ← angleAt t pos with
  | none => .ok none
  | some (degrees, pos) =>
    let pos := if (← look t pos) = ' ' then pos + 1 else pos
    if t.length ≤ pos then .ok none
    else
      let letter ← look t pos
      .ok (some (if negative letter then -degrees else degrees, pos + 1))

/-- The position with colons at the start of a text. -/
def ofSexagesimalAt (t : Text) : Looked (Option (Position α)) := do
  match ← signedAngleAt isSouth t 0 with
  | none => .ok none
  | some (latitude, pos) =>
    if t.length ≤ pos then .ok none
    else
      match ← signedAngleAt isWest t pos with
      | none => .ok none
      | some (longitude, _) => .ok ((of? latitude longitude).map normalize)

/-- The character in the place of a hemisphere letter, and the digits of its group. -/
def groupAt (t : Text) (pos : Nat) : Looked (Option ((Char × Text) × Nat)) :=
  if t.length ≤ pos then .ok none
  else do
    let letter ← look t pos
    match Text.findAt Numeral.wholeDigits? t (pos + 1) with
    | none => .ok none
    | some (digits, pos) => .ok (some ((letter, digits), pos))

/-- The position after one space, if there is one. A group may end the text, so that this is asked
first. -/
def spaceAt (t : Text) (pos : Nat) : Looked Nat :=
  if pos < t.length then do
    if (← look t pos) = ' ' then .ok (pos + 1) else .ok pos
  else .ok pos

/-- The compact position at the start of a text. A first group without a value comes before all that
is wrong with the second one. -/
def ofCompactAt (t : Text) : Looked (Except (Fault α) (Option (Position α))) := do
  match ← groupAt t 0 with
  | none => .ok (.ok none)
  | some ((letter, digits), pos) =>
    match ofGroup digits with
    | .error f => .ok (.error f)
    | .ok degrees =>
      let latitude : α := if isSouth letter then -degrees else degrees
      match ← groupAt t (← spaceAt t pos) with
      | none => .ok (.ok none)
      | some ((letter, digits), _) =>
        match ofGroup digits with
        | .error f => .ok (.error f)
        | .ok degrees =>
          let longitude := if isWest letter then -degrees else degrees
          .ok (.ok ((of? latitude longitude).map normalize))

theorem partAt_tracks (t : Text) (pos : Nat) :
    Tracks t ((part? (t.drop pos)).map unread) (partAt t pos : Option (α × Nat)) := by
  unfold part? partAt
  cases read : (Numeral.scan? (t.drop pos) : Option (α × Text)) with
  | none =>
    rw [Numeral.scanAt, read]
    exact .nothing
  | some found =>
    obtain ⟨x, rest⟩ := found
    obtain ⟨next, read_at, left⟩ := Numeral.scanAt_of_scan? read
    rw [read_at]
    dsimp only
    cases rest with
    | nil =>
      rw [if_neg (not_lt.mpr (List.drop_eq_nil_iff.mp left))]
      exact .nothing
    | cons c rest =>
      rw [if_pos (lt_length_of_drop left)]
      exact .found left

/-- Seconds as they are taken from a text after the minutes and a character. -/
def secondsAfter? (degrees : α) (c : Char) (rest : Text) : Option (α × Char × Text) :=
  if c = ':' then do
    let (seconds, c, rest) ← part? rest
    some (degrees + seconds / 3600.0, c, rest)
  else some (degrees, c, rest)

/-- Minutes as they are taken from a text after the degrees and a character. -/
def minutesAfter? (degrees : α) (c : Char) (rest : Text) : Option (α × Char × Text) :=
  if c = ':' then do
    let (minutes, c, rest) ← part? rest
    secondsAfter? (degrees + minutes / 60.0) c rest
  else some (degrees, c, rest)

theorem angle?_eq_bind (t : Text) :
    (angle? t : Option (α × Char × Text)) =
      (part? t).bind fun (degrees, c, rest) => minutesAfter? degrees c rest := rfl

section Places

variable {t rest : Text} {pos : Nat} {c : Char}

theorem secondsAt_tracks (left : t.drop pos = c :: rest) (degrees : α) :
    ∃ found, secondsAt t pos degrees = .ok found ∧
      Tracks t ((secondsAfter? degrees c rest).map unread) found := by
  simp only [secondsAt, secondsAfter?, look_of_drop left, bind, Except.bind]
  by_cases colon : c = ':'
  · rw [if_pos colon, if_pos colon, ← drop_succ_of_drop left]
    obtain ⟨taken, found⟩ | ⟨seconds, c, rest, next, taken, found, left⟩ :=
      (partAt_tracks (α := α) t (pos + 1)).nothing_or_unread
    · rw [taken, found]
      exact ⟨none, rfl, .nothing⟩
    · rw [taken, found]
      exact ⟨_, rfl, .found left⟩
  · rw [if_neg colon, if_neg colon]
    exact ⟨_, rfl, .found left⟩

theorem minutesAt_tracks (left : t.drop pos = c :: rest) (degrees : α) :
    ∃ found, minutesAt t pos degrees = .ok found ∧
      Tracks t ((minutesAfter? degrees c rest).map unread) found := by
  simp only [minutesAt, minutesAfter?, look_of_drop left, bind, Except.bind]
  by_cases colon : c = ':'
  · rw [if_pos colon, if_pos colon, ← drop_succ_of_drop left]
    obtain ⟨taken, found⟩ | ⟨minutes, c, rest, next, taken, found, left⟩ :=
      (partAt_tracks (α := α) t (pos + 1)).nothing_or_unread
    · rw [taken, found]
      exact ⟨none, rfl, .nothing⟩
    · rw [taken, found]
      exact secondsAt_tracks left _
  · rw [if_neg colon, if_neg colon]
    exact ⟨_, rfl, .found left⟩

end Places

/-- An angle is read without a look beyond the end, and the text does not end after it. -/
theorem angleAt_tracks (t : Text) (pos : Nat) :
    ∃ found : Option (α × Nat), angleAt t pos = .ok found ∧
      Tracks t ((angle? (t.drop pos)).map unread) found := by
  rw [angle?_eq_bind, angleAt]
  obtain ⟨taken, found⟩ | ⟨degrees, c, rest, next, taken, found, left⟩ :=
    (partAt_tracks (α := α) t pos).nothing_or_unread
  · rw [taken, found]
    exact ⟨none, rfl, .nothing⟩
  · rw [taken, found]
    exact minutesAt_tracks left _

theorem signedAngleAt_tracks (negative : Char → Bool) (t : Text) (pos : Nat) :
    ∃ found : Option (α × Nat), signedAngleAt negative t pos = .ok found ∧
      Tracks t (signedAngle? negative (t.drop pos)) found := by
  obtain ⟨found, read, tracked⟩ := angleAt_tracks (α := α) t pos
  unfold signedAngleAt signedAngle?
  rw [read]
  obtain ⟨taken, rfl⟩ | ⟨degrees, c, rest, next, taken, rfl, left⟩ := tracked.nothing_or_unread
  · rw [taken]
    exact ⟨none, rfl, .nothing⟩
  simp only [taken, bind, Except.bind, Option.bind, look_of_drop left]
  by_cases space : c = ' '
  · subst space
    rw [if_pos rfl]
    have left_letter := drop_succ_of_drop left
    cases rest with
    | nil =>
      rw [if_pos (List.drop_eq_nil_iff.mp left_letter)]
      exact ⟨none, rfl, .nothing⟩
    | cons letter rest =>
      rw [if_neg (not_le.mpr (lt_length_of_drop left_letter)), look_of_drop left_letter]
      exact ⟨_, rfl, .found (drop_succ_of_drop left_letter)⟩
  · rw [if_neg space, if_neg (not_le.mpr (lt_length_of_drop left)), look_of_drop left]
    refine ⟨_, rfl, ?_⟩
    split
    · exact absurd rfl space
    · exact absurd rfl space
    · exact .found (drop_succ_of_drop left)

/-- A position with colons is read without a look beyond the end. -/
theorem ofSexagesimalAt_eq (t : Text) :
    ofSexagesimalAt t = .ok (ofSexagesimal? t : Option (Position α)) := by
  obtain ⟨found, read, tracked⟩ := signedAngleAt_tracks (α := α) isSouth t 0
  rw [List.drop_zero] at tracked
  unfold ofSexagesimalAt ofSexagesimal?
  rw [read]
  obtain ⟨taken, rfl⟩ | ⟨latitude, next, taken, rfl⟩ := tracked.nothing_or_found
  · rw [taken]
    rfl
  simp only [taken, bind, Except.bind, Option.bind]
  by_cases ended : t.length ≤ next
  · rw [if_pos ended, List.drop_eq_nil_iff.mpr ended]
    rfl
  · rw [if_neg ended]
    obtain ⟨found, read, tracked⟩ := signedAngleAt_tracks (α := α) isWest t next
    rw [read]
    obtain ⟨taken, rfl⟩ | ⟨longitude, next, taken, rfl⟩ := tracked.nothing_or_found
    · rw [taken]
    · rw [taken]
      dsimp only
      cases (of? latitude longitude : Option (Position α)) <;> rfl

/-- A group as it is taken from a text. -/
def group? : Text → Option ((Char × Text) × Text)
  | [] => none
  | letter :: rest =>
    (Numeral.wholeDigits? rest).map fun (digits, rest) => ((letter, digits), rest)

theorem signedGroup_eq (negative : Char → Bool) (t : Text) :
    (signedGroup negative t : Except (Fault α) (Option (α × Text))) =
      match group? t with
      | none => .ok none
      | some ((letter, digits), rest) =>
        (ofGroup digits).map fun degrees =>
          some (if negative letter then -degrees else degrees, rest) := by
  cases t with
  | nil => rfl
  | cons letter t =>
    simp only [signedGroup, group?]
    cases Numeral.wholeDigits? t with
    | none => rfl
    | some parts =>
      dsimp only [Option.map]
      cases (ofGroup parts.1 : Except (Fault α) α) <;> rfl

theorem groupAt_tracks (t : Text) (pos : Nat) :
    ∃ found, groupAt t pos = .ok found ∧ Tracks t (group? (t.drop pos)) found := by
  unfold groupAt
  cases left : t.drop pos with
  | nil =>
    rw [if_pos (List.drop_eq_nil_iff.mp left)]
    exact ⟨none, rfl, .nothing⟩
  | cons letter rest =>
    rw [if_neg (not_le.mpr (lt_length_of_drop left)), look_of_drop left, group?,
      ← drop_succ_of_drop left]
    obtain ⟨taken, found⟩ | ⟨digits, next, taken, found⟩ :=
      (Text.findAt_tracks Numeral.wholeDigits?_suffix t (pos + 1)).nothing_or_found
    · rw [taken, found]
      exact ⟨none, rfl, .nothing⟩
    · rw [taken, found]
      exact ⟨_, rfl, .found rfl⟩

theorem spaceAt_tracks (t : Text) (pos : Nat) :
    ∃ next, spaceAt t pos = .ok next ∧ t.drop next = dropSpace (t.drop pos) := by
  unfold spaceAt
  cases left : t.drop pos with
  | nil =>
    rw [if_neg (not_lt.mpr (List.drop_eq_nil_iff.mp left))]
    exact ⟨pos, rfl, left⟩
  | cons c rest =>
    simp only [if_pos (lt_length_of_drop left), look_of_drop left, bind, Except.bind]
    by_cases space : c = ' '
    · subst space
      exact ⟨pos + 1, rfl, drop_succ_of_drop left⟩
    · rw [if_neg space]
      refine ⟨pos, rfl, left.trans ?_⟩
      unfold dropSpace
      split
      · rename_i same
        exact absurd (List.cons.inj same).1 space
      · rfl

/-- A compact position is read without a look beyond the end. -/
theorem ofCompactAt_eq (t : Text) :
    ofCompactAt t = .ok (ofCompact t : Except (Fault α) (Option (Position α))) := by
  obtain ⟨found, read, tracked⟩ := groupAt_tracks t 0
  rw [List.drop_zero] at tracked
  unfold ofCompactAt ofCompact
  rw [read, signedGroup_eq]
  obtain ⟨taken, rfl⟩ | ⟨⟨letter, digits⟩, next, taken, rfl⟩ := tracked.nothing_or_found
  · rw [taken]
    rfl
  simp only [taken, bind, Except.bind]
  cases (ofGroup digits : Except (Fault α) α) with
  | error f => rfl
  | ok degrees =>
    obtain ⟨after, spaced, left⟩ := spaceAt_tracks t next
    obtain ⟨found, read, tracked⟩ := groupAt_tracks t after
    rw [left] at tracked
    simp only [spaced, read, Except.map, signedGroup_eq]
    obtain ⟨taken, rfl⟩ | ⟨⟨letter, digits⟩, next, taken, rfl⟩ := tracked.nothing_or_found
    · rw [taken]
    · rw [taken]
      dsimp only
      cases (ofGroup digits : Except (Fault α) α) <;> rfl

end Airspaces.Position
