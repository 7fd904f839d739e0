import Airspaces.Number.Binary64
import Airspaces.Proofs.Altitude.Text
import Airspaces.Proofs.Number.Amount
/-! A number with its unit and the word for its datum, in either order. A number without a unit is
in feet, whatever the datum, but for the flight levels of `STD`, which takes what was read so far
for metres. The foot sign scales the height above mean sea level: it comes too late for a number
that stands after `AGL`. -/
namespace Airspaces

/-- The word for a datum, and none for one that is left open. -/
def Datum.word : Datum → Text
  | .undefined => []
  | .meanSea => ['M', 'S', 'L']
  | .standard => ['S', 'T', 'D']
  | .terrain => ['A', 'G', 'L']

theorem LengthUnit.store_feet_zero :
    feet.store (Scalar.ofDecimal 0 0 : Float) = Scalar.ofDecimal 0 0 ∧
      feet.store (Scalar.ofDecimal 0 0 : Rat) = Scalar.ofDecimal 0 0 := by
  decide +kernel

namespace Altitude

variable {α : Type} [Scalar α]

/-- The word as it is scanned. -/
def Token.ofDatum : Datum → Token
  | .undefined => blank
  | .meanSea => meanSea
  | .standard => standard
  | .terrain => aboveGround

/-- The sign of a unit after a number, or none. -/
inductive Mark where
  | bare
  | feet
  | foot
  | metres
  deriving DecidableEq

namespace Mark

def text : Mark → Text
  | bare => []
  | feet => ['f', 't']
  | foot => ['F']
  | metres => ['m']

def token : Mark → Token
  | bare => .blank
  | feet | foot => .feet
  | metres => .metres

theorem ends (mark : Mark) {rest : Text} (ended : ∀ c ∈ rest.head?, c = ' ') :
    Numeral.Ends (mark.text ++ rest) := by
  intro c first
  cases mark with
  | bare =>
    obtain rfl : c = ' ' := ended c first
    decide
  | feet | foot | metres =>
    cases first
    decide

end Mark

/-- A number with the sign of its unit. -/
structure Quantity where
  number : Numeral.Amount
  mark : Mark

namespace Quantity

def text (q : Quantity) : Text := q.number.text ++ q.mark.text

/-- The number that is read: a point before its first digit is passed over. -/
def numeral (q : Quantity) : Numeral := q.number.unpointed.numeral

/-- Its size in metres. -/
def metres (q : Quantity) : α :=
  match q.mark with
  | .metres => q.numeral.value
  | .bare | .feet | .foot => LengthUnit.feet.store q.numeral.value

theorem metres_of_ne {q : Quantity} (feet : q.mark ≠ .metres) :
    (q.metres : α) = LengthUnit.feet.store q.numeral.value := by
  unfold metres
  cases mark : q.mark with
  | metres => exact absurd mark feet
  | bare | feet | foot => rfl

end Quantity

/-- The altitude at a height above the terrain or above mean sea level. -/
def above (datum : Datum) (height : α) : Altitude α :=
  let zero : α := Scalar.ofDecimal 0 0
  match datum with
  | .terrain => ⟨zero, zero, height, .terrain⟩
  | _ => ⟨height, zero, zero, .meanSea⟩

/-- The flight level of a height in metres. -/
def atLevel (x : α) : Altitude α :=
  ⟨x, LengthUnit.flightLevel.display x, Scalar.ofDecimal 0 0, .standard⟩

/-- Only at nought are metres feet. -/
theorem atLevel_feet_iff (x : Rat) : atLevel x = atLevel (LengthUnit.feet.store x) ↔ x = 0 := by
  constructor
  · intro same
    have metres : x = LengthUnit.feet.store x := congrArg Altitude.metres same
    rw [LengthUnit.store_feet] at metres
    linarith
  · rintro rfl
    rw [LengthUnit.store_feet, zero_mul]

theorem level_atLevel_feet (x : Rat) : (atLevel (LengthUnit.feet.store x)).level = x / 100 := by
  change LengthUnit.flightLevel.display (LengthUnit.feet.store x) = _
  rw [LengthUnit.display_flightLevel, LengthUnit.store_feet]
  ring

namespace Draft

/-- The draft after the words of a text. -/
def after (d : Draft α) (t : Text) : Draft α := (Token.scan t).foldl take d

theorem after_of_next {c : Char} {t rest : Text} {token : Token}
    (found : Token.next c t = (token, rest)) (d : Draft α) :
    d.after (c :: t) = (d.take token).after rest :=
  congrArg (List.foldl take d) (Token.scan_of_next found)

theorem after_nil (d : Draft α) : d.after [] = d := by
  rw [after, Token.scan, List.foldl_nil]

theorem after_blank (d : Draft α) (rest : Text) : d.after (' ' :: rest) = d.after rest :=
  after_of_next rfl d

theorem after_number (d : Draft α) (a : Numeral.Amount) {rest : Text}
    (ended : Numeral.Ends rest) :
    d.after (a.text ++ rest) = (d.take (.number a.unpointed.numeral)).after rest := by
  have read : d.after (a.unpointed.text ++ rest) =
      (d.take (.number a.unpointed.numeral)).after rest :=
    congrArg (List.foldl take d)
      (Token.scan_number (Numeral.Amount.withPower?_text a.unpointed_whole ended))
  obtain ⟨_, same⟩ | ⟨_, pointed⟩ := a.unpointed_cases
  · rw [same] at read ⊢
    exact read
  · rw [pointed, ← read]
    exact after_of_next rfl d

/-- No letter follows, which could be of one word with a sign: `FL` and `MSL` come before it. -/
theorem after_mark (d : Draft α) (mark : Mark) {rest : Text} (ended : ∀ c ∈ rest.head?, c = ' ') :
    d.after (mark.text ++ rest) = (d.take mark.token).after rest := by
  cases mark with
  | bare => rfl
  | feet => exact after_of_next rfl d
  | foot | metres =>
    cases rest with
    | nil => exact after_of_next rfl d
    | cons c rest =>
      obtain rfl : c = ' ' := ended c rfl
      exact after_of_next rfl d

theorem after_word (d : Draft α) (datum : Datum) (rest : Text) :
    d.after (datum.word ++ rest) = (d.take (.ofDatum datum)).after rest := by
  cases datum with
  | undefined => rfl
  | meanSea | standard | terrain => exact after_of_next rfl d

end Draft

theorem Quantity.read_then_datum (q : Quantity) (datum : Datum) :
    (read (q.text ++ ' ' :: datum.word) : Altitude α) =
      (((Draft.start.take (.number q.numeral)).take q.mark.token).take
        (.ofDatum datum)).finish := by
  have ended : ∀ c ∈ (' ' :: datum.word).head?, c = ' ' := by
    rintro c ⟨⟩
    rfl
  change (Draft.start.after _).finish = _
  rw [Quantity.text, List.append_assoc, Draft.after_number _ _ (q.mark.ends ended),
    Draft.after_mark _ _ ended, Draft.after_blank, ← List.append_nil datum.word, Draft.after_word,
    Draft.after_nil]
  rfl

theorem Quantity.read_after_datum (q : Quantity) (datum : Datum) :
    (read (datum.word ++ ' ' :: q.text) : Altitude α) =
      (((Draft.start.take (.ofDatum datum)).take (.number q.numeral)).take
        q.mark.token).finish := by
  have ended : ∀ c ∈ ([] : Text).head?, c = ' ' := by nofun
  change (Draft.start.after _).finish = _
  rw [Draft.after_word, Draft.after_blank, Quantity.text, ← List.append_nil q.mark.text,
    Draft.after_number _ _ (q.mark.ends ended), Draft.after_mark _ _ ended, Draft.after_nil]
  rfl

theorem Quantity.read_then_standard (a : Numeral.Amount) :
    (read (text ⟨a, .bare⟩ ++ ' ' :: Datum.standard.word) : Altitude α) =
        atLevel a.unpointed.numeral.value ∧
      (read (text ⟨a, .feet⟩ ++ ' ' :: Datum.standard.word) : Altitude α) =
        atLevel (LengthUnit.feet.store a.unpointed.numeral.value) := by
  rw [read_then_datum, read_then_datum]
  exact ⟨rfl, rfl⟩

section

-- The sizes that were not read are scaled too, and stay nought in any arithmetic of the program.
variable (nothing : LengthUnit.feet.store (Scalar.ofDecimal 0 0 : α) = Scalar.ofDecimal 0 0)
include nothing

theorem Quantity.read_then_heard (q : Quantity) {datum : Datum} (heard : datum ≠ .standard) :
    (read (q.text ++ ' ' :: datum.word) : Altitude α) = above datum q.metres := by
  rw [read_then_datum, metres]
  cases datum with
  | standard => exact absurd rfl heard
  | undefined | meanSea =>
    cases q.mark with
    | bare => exact congrArg (Altitude.mk _ _ · _) nothing
    | feet | foot | metres => rfl
  | terrain =>
    cases q.mark with
    | bare => exact congrArg (Altitude.mk · _ _ _) nothing
    | feet | foot | metres => rfl

theorem Quantity.read_bare_then_heard (a : Numeral.Amount) {datum : Datum}
    (heard : datum ≠ .standard) :
    (read (text ⟨a, .bare⟩ ++ ' ' :: datum.word) : Altitude α) =
      read (text ⟨a, .feet⟩ ++ ' ' :: datum.word) := by
  rw [read_then_heard nothing _ heard, read_then_heard nothing _ heard]
  rfl

theorem Quantity.read_after_terrain (q : Quantity) (scaled : q.mark.token = .feet) :
    (read (Datum.terrain.word ++ ' ' :: q.text) : Altitude α) = above .terrain q.numeral.value := by
  rw [read_after_datum, scaled]
  exact congrArg (Altitude.mk · _ _ _) nothing

end

/-- A number without a unit is read as the same number of feet if `STD` does not follow, which
takes it for metres. -/
theorem read_bare_number (a : Numeral.Amount) (datum : Datum) :
    let bare : Text := Quantity.text ⟨a, .bare⟩ ++ ' ' :: datum.word
    let feet : Text := Quantity.text ⟨a, .feet⟩ ++ ' ' :: datum.word
    let n := a.unpointed.numeral
    (datum ≠ .standard → (read bare : Altitude Float) = read feet) ∧
    ((read bare : Altitude Rat) = read feet ↔ datum ≠ .standard ∨ (n.value : Rat) = 0) ∧
    (datum = .standard →
      (∀ (α : Type) [Scalar α], (read bare : Altitude α) = atLevel n.value ∧
        (read feet : Altitude α) = atLevel (LengthUnit.feet.store n.value)) ∧
      (read bare : Altitude Rat).level = n.value / 30.48 ∧
      (read feet : Altitude Rat).level = n.value / 100) := by
  intro bare feet n
  by_cases closed : datum = .standard
  · subst closed
    have levels (α : Type) [Scalar α] := Quantity.read_then_standard (α := α) a
    obtain ⟨plain, scaled⟩ := levels Rat
    refine ⟨fun other => absurd rfl other, ?_, fun _ => ⟨levels, ?_, ?_⟩⟩
    · have nought := atLevel_feet_iff (n.value : Rat)
      rw [← plain, ← scaled] at nought
      exact nought.trans (or_iff_right (not_not.mpr rfl)).symm
    · rw [plain]
      exact LengthUnit.display_flightLevel _
    · rw [scaled]
      exact level_atLevel_feet _
  · obtain ⟨float, exact_zero⟩ := LengthUnit.store_feet_zero
    have same := Quantity.read_bare_then_heard exact_zero a closed
    exact ⟨Quantity.read_bare_then_heard float a, iff_of_true same (.inl closed),
      fun other => absurd other closed⟩

/-- Above mean sea level the two are the same altitude. -/
theorem read_bare_number_above_sea :
    (read "1500.5 MSL".toList : Altitude Float) = read "1500.5ft MSL".toList := by
  let number : Numeral.Spelling :=
    ⟨"1500".toList, some "5".toList, List.all_eq_true.mp (by decide), by decide⟩
  exact (read_bare_number ⟨number, none⟩ .meanSea).1 (by decide)

/-- `STD` makes ten thousand metres of the number, the level 328 and not 100. -/
theorem bare_flight_level :
    (read "10000 STD".toList : Altitude Float) ≠ read "10000ft STD".toList := by
  intro same
  have level := congrArg Altitude.level same
  revert level
  decide +kernel

/-- A datum before a quantity is read as the one after it, but for feet above the terrain: a foot
sign then leaves the height as it is. -/
theorem read_datum_first (q : Quantity) (datum : Datum)
    (height : datum = .meanSea ∨ datum = .terrain) :
    let last : Text := q.text ++ ' ' :: datum.word
    let first : Text := datum.word ++ ' ' :: q.text
    let n := q.numeral
    (∀ (α : Type) [Scalar α], datum = .meanSea ∨ q.mark.token ≠ .feet →
      (read first : Altitude α) = read last) ∧
    (q.mark ≠ .metres →
      (read last : Altitude Float) = above datum (LengthUnit.feet.store n.value) ∧
      (read last : Altitude Rat) = above datum (n.value * 0.3048)) ∧
    (datum = .terrain → q.mark.token = .feet →
      (read first : Altitude Float) = above .terrain n.value ∧
      (read first : Altitude Rat) = above .terrain n.value) := by
  intro last first n
  obtain ⟨float, exact_zero⟩ := LengthUnit.store_feet_zero
  refine ⟨?_, ?_, ?_⟩
  · intro α _ unscaled
    rw [Quantity.read_then_datum, Quantity.read_after_datum]
    obtain rfl | rfl := height
    · cases q.mark <;> rfl
    · have other := unscaled.resolve_left nofun
      cases mark : q.mark with
      | bare | metres => rfl
      | feet | foot => exact absurd (congrArg Mark.token mark) other
  · intro counted
    have heard : datum ≠ .standard := by
      rintro rfl
      cases height <;> contradiction
    have exact_size : (q.metres : Rat) = n.value * 0.3048 :=
      (Quantity.metres_of_ne counted).trans (LengthUnit.store_feet _)
    constructor
    · rw [q.read_then_heard float heard, Quantity.metres_of_ne counted]
    · rw [q.read_then_heard exact_zero heard, exact_size]
  · rintro rfl scaled
    exact ⟨q.read_after_terrain float scaled, q.read_after_terrain exact_zero scaled⟩

/-- Three hundred metres above the terrain, and a thousand feet with the datum last. -/
theorem read_datum_first_of_heights :
    (read "AGL 300m".toList : Altitude Float) = read "300m AGL".toList ∧
    (read "1000ft AGL".toList : Altitude Rat) = above .terrain (1000 * 0.3048) := by
  let few : Numeral.Spelling :=
    ⟨"300".toList, none, List.all_eq_true.mp (by decide), by decide⟩
  let many : Numeral.Spelling :=
    ⟨"1000".toList, none, List.all_eq_true.mp (by decide), by decide⟩
  let low : Quantity := ⟨⟨few, none⟩, .metres⟩
  let high : Quantity := ⟨⟨many, none⟩, .feet⟩
  have thousand : (high.numeral.value : Rat) = 1000 := by decide +kernel
  constructor
  · exact (read_datum_first low .terrain (.inr rfl)).1 Float (.inr (by decide))
  · rw [← thousand]
    exact ((read_datum_first high .terrain (.inr rfl)).2.1 (by decide)).2

/-- The same height after its datum is a thousand metres. -/
theorem feet_after_terrain :
    (read "AGL 1000ft".toList : Altitude Float) ≠ read "1000ft AGL".toList := by
  intro same
  have height := congrArg Altitude.aboveTerrain same
  revert height
  decide +kernel

end Altitude
end Airspaces
