import Airspaces.Position.Compact
import Airspaces.Proofs.Position.Axis
import Mathlib.Data.List.Infix
/-! Compact positions. A reader accepts exactly a character in the place of a hemisphere letter
and its digit group, twice, and looks no further. It breaks off only at a group without a value,
which is too long, or too large for the arithmetic. -/
namespace Airspaces.Position

variable {α : Type} [Scalar α]

open Numeral (Lead)

theorem exists_of_bind_ok {ε β γ : Type} {x : Except ε β} {f : β → Except ε γ} {z : γ}
    (done : x >>= f = .ok z) : ∃ y, x = .ok y ∧ f y = .ok z := by
  cases x with
  | error e => cases done
  | ok y => exact ⟨y, rfl, done⟩

theorem of_bind_error {ε β γ : Type} {x : Except ε β} {f : β → Except ε γ} {e : ε}
    (broken : x >>= f = .error e) : x = .error e ∨ ∃ y, x = .ok y ∧ f y = .error e := by
  cases x with
  | error e =>
    cases broken
    exact .inl rfl
  | ok y => exact .inr ⟨y, rfl, broken⟩

/-- A digit group and the character in the place of its hemisphere letter, whichever it is. -/
structure Group where
  letter : Char
  lead : Lead
  digits : Text
  filled : digits ≠ []
  isDigit : ∀ c ∈ digits, c.isDigit = true

namespace Group

def text (g : Group) : Text := g.letter :: (g.lead.text ++ g.digits)

/-- The degrees with the sign of the hemisphere. The sign before the digits is not one of them. -/
def signed (negative : Char → Bool) (g : Group) : Except (Fault α) α :=
  (ofGroup g.digits).map fun degrees => if negative g.letter then -degrees else degrees

variable {negative : Char → Bool}

/-- A group is read as a whole, if no digit follows it. -/
theorem signedGroup_text (negative : Char → Bool) (g : Group) {rest : Text}
    (ended : ∀ c ∈ rest.head?, c.isDigit = false) :
    signedGroup negative (g.text ++ rest) =
      (g.signed negative).map fun degrees : α => some (degrees, rest) := by
  have found : Numeral.wholeDigits? (g.lead.text ++ (g.digits ++ rest)) = some (g.digits, rest) :=
    Numeral.wholeDigits?_eq_some.mpr ⟨g.lead, rfl, g.filled, g.isDigit, ended⟩
  simp only [text, signed, signedGroup, List.cons_append, List.append_assoc, found]
  cases (ofGroup g.digits : Except (Fault α) α) <;> rfl

/-- A text starts with no group, or its group is read as far as the digits go. -/
theorem signedGroup_cases (negative : Char → Bool) (t : Text) :
    (signedGroup negative t : Except (Fault α) _) = .ok none ∨
      ∃ (g : Group) (rest : Text), t = g.text ++ rest ∧ (∀ c ∈ rest.head?, c.isDigit = false) ∧
        signedGroup negative t =
          (g.signed negative).map fun degrees : α => some (degrees, rest) := by
  cases t with
  | nil => exact .inl rfl
  | cons letter t =>
    cases found : Numeral.wholeDigits? t with
    | none =>
      left
      simp only [signedGroup, found]
    | some parts =>
      obtain ⟨digits, rest⟩ := parts
      obtain ⟨lead, rfl, filled, isDigit, ended⟩ := Numeral.wholeDigits?_eq_some.mp found
      let g : Group := ⟨letter, lead, digits, filled, isDigit⟩
      have parts : letter :: (lead.text ++ (digits ++ rest)) = g.text ++ rest := by simp [g, text]
      rw [parts]
      exact .inr ⟨g, rest, rfl, ended, g.signedGroup_text negative ended⟩

/-- Only groups are read. -/
theorem exists_of_signedGroup {t rest : Text} {degrees : α}
    (read : signedGroup negative t = .ok (some (degrees, rest))) :
    ∃ g : Group, t = g.text ++ rest ∧ ∀ c ∈ rest.head?, c.isDigit = false := by
  obtain nothing | ⟨g, after, parts, ended, same⟩ := signedGroup_cases (α := α) negative t
  · cases nothing.symm.trans read
  · rw [same] at read
    cases valued : (g.signed negative : Except (Fault α) α) with
    | error f =>
      rw [valued] at read
      cases read
    | ok value =>
      rw [valued] at read
      cases read
      exact ⟨g, parts, ended⟩

end Group

/-- What keeps a second group apart from the first one. -/
def Apart (spaced : Bool) (g : Group) : Prop :=
  spaced = false → g.letter ≠ ' ' ∧ g.letter.isDigit = false

theorem dropSpace_gap {spaced : Bool} {g : Group} (apart : Apart spaced g) (rest : Text) :
    dropSpace (gap spaced ++ (g.text ++ rest)) = g.text ++ rest := by
  cases spaced with
  | true => rfl
  | false =>
    unfold dropSpace
    split
    · rename_i same
      exact absurd (List.cons.inj same).1 (apart rfl).1
    · rfl

theorem exists_dropSpace (t : Text) : ∃ spaced, t = gap spaced ++ dropSpace t ∧
    (spaced = false → ∀ c ∈ (dropSpace t).head?, c ≠ ' ') := by
  unfold dropSpace
  split
  · exact ⟨true, rfl, nofun⟩
  · rename_i unspaced
    refine ⟨false, rfl, ?_⟩
    rintro - c first rfl
    obtain ⟨rest, rfl⟩ := List.head?_eq_some_iff.mp first
    exact unspaced rest rfl

theorem ended_gap {spaced : Bool} {g : Group} (apart : Apart spaced g) (rest : Text) :
    ∀ c ∈ (gap spaced ++ (g.text ++ rest)).head?, c.isDigit = false := by
  cases spaced with
  | true =>
    rintro c ⟨⟩
    decide
  | false =>
    rintro c ⟨⟩
    exact (apart rfl).2

/-- A pair of groups is read as a whole, if both have a value. -/
theorem ofCompact_text (latitude longitude : Group) {spaced : Bool} {rest : Text}
    (apart : Apart spaced longitude) (ended : ∀ c ∈ rest.head?, c.isDigit = false) :
    (ofCompact (latitude.text ++ (gap spaced ++ (longitude.text ++ rest))) :
        Except (Fault α) (Option (Position α))) =
      (latitude.signed isSouth).bind fun north =>
        (longitude.signed isWest).map fun east => (of? north east).map normalize := by
  rw [ofCompact, latitude.signedGroup_text isSouth (ended_gap apart rest)]
  cases (latitude.signed isSouth : Except (Fault α) α) with
  | error f => rfl
  | ok north =>
    simp only [Except.map, bind, Except.bind, dropSpace_gap apart,
      longitude.signedGroup_text isWest ended]
    cases (longitude.signed isWest : Except (Fault α) α) <;> rfl

theorem exists_of_ofCompact {t : Text} {p : Position α} (read : ofCompact t = .ok (some p)) :
    ∃ (latitude longitude : Group) (spaced : Bool) (rest : Text),
      t = latitude.text ++ (gap spaced ++ (longitude.text ++ rest)) ∧ Apart spaced longitude ∧
        ∀ c ∈ rest.head?, c.isDigit = false := by
  obtain ⟨found, first, next⟩ := exists_of_bind_ok read
  rcases found with _ | ⟨north, after⟩
  · cases next
  obtain ⟨found, second, last⟩ := exists_of_bind_ok next
  rcases found with _ | ⟨east, rest⟩
  · cases last
  obtain ⟨latitude, rfl, ended⟩ := Group.exists_of_signedGroup first
  obtain ⟨longitude, same, ended'⟩ := Group.exists_of_signedGroup second
  obtain ⟨spaced, parts, unspaced⟩ := exists_dropSpace after
  rw [same] at parts unspaced
  refine ⟨latitude, longitude, spaced, rest, by rw [← parts], ?_, ended'⟩
  rintro rfl
  refine ⟨unspaced rfl _ rfl, ended _ ?_⟩
  rw [parts]
  rfl

/-- Somewhere in a text there is a digit group without a value. -/
def GroupFault (t : Text) (f : Fault α) : Prop :=
  ∃ digits, digits <:+: t ∧ (∀ c ∈ digits, c.isDigit = true) ∧
    (ofGroup digits : Except (Fault α) α) = .error f

theorem GroupFault.mono {t u : Text} {f : Fault α} (fault : GroupFault t f) (part : t <:+: u) :
    GroupFault u f := by
  obtain ⟨digits, within, all_digits, broken⟩ := fault
  exact ⟨digits, within.trans part, all_digits, broken⟩

/-- A digit group has a value unless it is too long or its degrees are out of range. -/
theorem ofGroup_readable {digits : Text} (short : digits.length ≤ groupLimit)
    (inRange : (Scalar.ofNat? (Digits.value digits / 10000) : Option α).isSome) :
    ∃ degrees, (ofGroup digits : Except (Fault α) α) = .ok degrees := by
  obtain ⟨degrees, whole⟩ := Option.isSome_iff_exists.mp inRange
  unfold ofGroup
  rw [if_neg (Nat.not_lt.mpr short)]
  dsimp only
  rw [whole]
  exact ⟨_, rfl⟩

theorem signedGroup_error {negative : Char → Bool} {t : Text} {f : Fault α}
    (broken : (signedGroup negative t : Except (Fault α) _) = .error f) : GroupFault t f := by
  obtain nothing | ⟨g, rest, rfl, _, same⟩ := Group.signedGroup_cases (α := α) negative t
  · cases nothing.symm.trans broken
  · refine ⟨g.digits, ⟨g.letter :: g.lead.text, rest, by simp [Group.text]⟩, g.isDigit, ?_⟩
    rw [same, Group.signed] at broken
    cases valued : (ofGroup g.digits : Except (Fault α) α) with
    | error e =>
      rw [valued] at broken
      cases broken
      rfl
    | ok degrees =>
      rw [valued] at broken
      cases broken

/-- A compact position is read or refused, unless one of its groups has no value. -/
theorem ofCompact_error {t : Text} {f : Fault α}
    (broken : (ofCompact t : Except (Fault α) _) = .error f) : GroupFault t f := by
  obtain north | ⟨found, first, broken⟩ := of_bind_error broken
  · exact signedGroup_error north
  rcases found with _ | ⟨north, after⟩
  · cases broken
  obtain east | ⟨found, _, broken⟩ := of_bind_error broken
  · obtain ⟨latitude, rfl, _⟩ := Group.exists_of_signedGroup first
    obtain ⟨spaced, parts, _⟩ := exists_dropSpace after
    have within : dropSpace after <:+ latitude.text ++ after :=
      .trans ⟨gap spaced, parts.symm⟩ (List.suffix_append latitude.text after)
    exact (signedGroup_error east).mono within.isInfix
  · rcases found with _ | _ <;> cases broken

/-- A compact position as it is written: a letter and its digits, twice, with one space between
the two groups or none. The letters are neither spaces nor digits, whichever they are. -/
structure Compact where
  letters : Char × Char
  digits : Text × Text
  spaced : Bool
  isLetter : ∀ c ∈ [letters.1, letters.2], c ≠ ' ' ∧ c.isDigit = false
  filled : digits.1 ≠ [] ∧ digits.2 ≠ []
  isDigit : ∀ d ∈ digits.1 ++ digits.2, d.isDigit = true

namespace Compact

def latitude (c : Compact) : Text := c.letters.1 :: c.digits.1

def longitude (c : Compact) : Text := c.letters.2 :: c.digits.2

def text (c : Compact) : Text := c.latitude ++ (gap c.spaced ++ c.longitude)

theorem isDigit_latitude (c : Compact) : ∀ d ∈ c.digits.1, d.isDigit = true :=
  fun d member => c.isDigit d (List.mem_append_left _ member)

theorem isDigit_longitude (c : Compact) : ∀ d ∈ c.digits.2, d.isDigit = true :=
  fun d member => c.isDigit d (List.mem_append_right _ member)

/-- No space stands inside a group. -/
theorem spaceless {letter : Char} {digits : Text} (other : letter ≠ ' ')
    (isDigit : ∀ d ∈ digits, d.isDigit = true) : ' ' ∉ letter :: digits := by
  have absent : ' ' ∉ digits := by
    intro member
    cases isDigit ' ' member
  simp [other.symm, absent]

theorem spaceless_latitude (c : Compact) : ' ' ∉ c.latitude :=
  spaceless (c.isLetter _ (by simp)).1 c.isDigit_latitude

theorem spaceless_longitude (c : Compact) : ' ' ∉ c.longitude :=
  spaceless (c.isLetter _ (by simp)).1 c.isDigit_longitude

/-- Of what follows a position only more digits would count. -/
theorem ofCompact_append (c : Compact) {rest : Text}
    (ended : ∀ d ∈ rest.head?, d.isDigit = false) :
    (ofCompact (c.text ++ rest) : Except (Fault α) _) = ofCompact c.text := by
  let north : Group := ⟨c.letters.1, .empty, c.digits.1, c.filled.1, c.isDigit_latitude⟩
  let east : Group := ⟨c.letters.2, .empty, c.digits.2, c.filled.2, c.isDigit_longitude⟩
  have apart : Apart c.spaced east := fun _ => c.isLetter c.letters.2 (by simp)
  have ended_nil : ∀ d ∈ ([] : Text).head?, d.isDigit = false := nofun
  have whole := ofCompact_text (α := α) north east apart ended
  have alone := ofCompact_text (α := α) north east apart ended_nil
  rw [List.append_nil] at alone
  rw [text, List.append_assoc, List.append_assoc]
  exact whole.trans alone.symm

end Compact

end Airspaces.Position
