import Airspaces.Altitude.Reader
import Airspaces.Proofs.Altitude.Size
/-! The text of an altitude that was read. In exact numbers it is read as an altitude with the
same text: the one size that counts is rounded when it is first written, and then no more. -/
namespace Airspaces.Altitude

namespace Token

theorem scan_of_next {c : Char} {rest after : Text} {token : Token}
    (found : next c rest = (token, after)) : scan (c :: rest) = token :: scan after := by
  rw [scan, found]

theorem scan_number {t rest : Text} {n : Numeral} (found : Numeral.withPower? t = some (n, rest)) :
    scan t = .number n :: scan rest := by
  cases t with
  | nil => cases found
  | cons c t =>
    by_cases digit : c.isDigit
    · have letter : c ≠ ' ' := by
        rintro rfl
        cases digit
      apply scan_of_next
      simp [next, letter, digit, found]
    · have nothing : Numeral.withPower? (c :: t) = none := by
        simp [Numeral.withPower?, Numeral.startingWithDigit?, Digits.split, digit]
      cases nothing.symm.trans found

theorem scan_surface : scan ['S', 'F', 'C'] = [.surface] := by
  rw [scan_of_next (show next 'S' ['F', 'C'] = (.surface, []) by decide +kernel), scan]

theorem scan_meanSea : scan ['M', 'S', 'L'] = [.meanSea] := by
  rw [scan_of_next (show next 'M' ['S', 'L'] = (.meanSea, []) by decide +kernel), scan]

theorem scan_aboveGround : scan ['A', 'G', 'L'] = [.aboveGround] := by
  rw [scan_of_next (show next 'A' ['G', 'L'] = (.aboveGround, []) by decide +kernel), scan]

theorem scan_blank (rest : Text) : scan (' ' :: rest) = .blank :: scan rest := scan_of_next rfl

theorem scan_level (rest : Text) : scan ('F' :: 'L' :: rest) = .level :: scan rest :=
  scan_of_next rfl

/-- The word for the letters of a unit. -/
def ofUnit : AltitudeUnit → Token
  | .feet => feet
  | .metres => metres

theorem scan_unit (u : AltitudeUnit) (rest : Text) :
    scan (u.length.symbol.toList ++ ' ' :: rest) = ofUnit u :: .blank :: scan rest := by
  cases u
  · exact (scan_of_next (show next 'm' (' ' :: rest) = (.metres, ' ' :: rest) from rfl)).trans
      (congrArg _ (scan_blank rest))
  · exact (scan_of_next (show next 'f' ('t' :: ' ' :: rest) = (.feet, ' ' :: rest) from rfl)).trans
      (congrArg _ (scan_blank rest))

end Token

/-- No size is negative but the mark of the surface, which no unit is applied to. -/
structure Draft.Sound (d : Draft Rat) : Prop where
  metres : 0 ≤ d.metres
  level : 0 ≤ d.level
  terrain : d.datum = .terrain →
    0 ≤ d.aboveTerrain ∨ d.aboveTerrain = surfaceMark ∧ d.hasUnit = true

theorem Draft.start_sound : (start : Draft Rat).Sound where
  metres := le_rfl
  level := le_rfl
  terrain := nofun

theorem Draft.Sound.take {d : Draft Rat} (sound : d.Sound) (token : Token) :
    (d.take token).Sound := by
  have surface : d.atSurface.Sound := ⟨le_rfl, le_rfl, fun _ => .inr ⟨rfl, rfl⟩⟩
  cases token with
  | blank | other => exact sound
  | number n =>
    have value := n.value_nonneg
    unfold Draft.take
    dsimp only
    split
    · exact ⟨sound.metres, value, sound.terrain⟩
    · exact ⟨sound.metres, sound.level, fun _ => .inl value⟩
    · exact ⟨value, sound.level, sound.terrain⟩
  | ground =>
    unfold Draft.take
    dsimp only
    split_ifs
    · exact ⟨le_rfl, sound.level, fun _ => .inl sound.metres⟩
    · exact surface
  | surface => exact surface
  | level => exact ⟨sound.metres, sound.level, nofun⟩
  | feet =>
    refine ⟨LengthUnit.store_nonneg sound.metres, sound.level, ?_⟩
    intro terrain
    exact (sound.terrain terrain).imp_right fun mark => ⟨mark.1, rfl⟩
  | meanSea => exact ⟨sound.metres, sound.level, nofun⟩
  | metres =>
    refine ⟨sound.metres, sound.level, ?_⟩
    intro terrain
    exact (sound.terrain terrain).imp_right fun mark => ⟨mark.1, rfl⟩
  | aboveGround => exact ⟨le_rfl, sound.level, fun _ => .inl sound.metres⟩
  | standard => exact ⟨sound.metres, LengthUnit.display_nonneg sound.metres, nofun⟩
  | unlimited => exact ⟨Scalar.ofDecimal_nonneg _ _, sound.level, nofun⟩

theorem Draft.Sound.foldl {d : Draft Rat} (sound : d.Sound) (tokens : List Token) :
    (tokens.foldl Draft.take d).Sound := by
  induction tokens generalizing d with
  | nil => exact sound
  | cons token tokens ih => exact ih (sound.take token)

/-- No size is negative but the mark of the surface. -/
structure Sound (a : Altitude Rat) : Prop where
  datum : a.datum ≠ .undefined
  metres : 0 ≤ a.metres
  level : 0 ≤ a.level
  terrain : a.datum = .terrain → 0 ≤ a.aboveTerrain ∨ a.aboveTerrain = Draft.surfaceMark

theorem Draft.Sound.applyUnit {d : Draft Rat} (sound : d.Sound) :
    0 ≤ d.applyUnit.metres ∧ 0 ≤ d.applyUnit.level ∧
      (d.applyUnit.datum = .terrain →
        0 ≤ d.applyUnit.aboveTerrain ∨ d.applyUnit.aboveTerrain = surfaceMark) := by
  unfold Draft.applyUnit
  split_ifs with bare
  · refine ⟨LengthUnit.store_nonneg sound.metres, sound.level, ?_⟩
    intro terrain
    obtain nonneg | ⟨_, unit⟩ := sound.terrain terrain
    · exact .inl (LengthUnit.store_nonneg nonneg)
    · simp [unit] at bare
  · exact ⟨sound.metres, sound.level, fun terrain => (sound.terrain terrain).imp_right And.left⟩

theorem Draft.Sound.finish {d : Draft Rat} (sound : d.Sound) : d.finish.Sound := by
  obtain ⟨metres, level, terrain⟩ := sound.applyUnit
  by_cases open_datum : d.applyUnit.datum = .undefined
  · have settled : d.finish.datum = .meanSea := if_pos open_datum
    exact ⟨by rw [settled]; decide, metres, level, by rw [settled]; nofun⟩
  · have settled : d.finish.datum = d.applyUnit.datum := if_neg open_datum
    exact ⟨by rwa [settled], metres, level, by rwa [settled]⟩

theorem read_sound (t : Text) : (read t : Altitude Rat).Sound :=
  (Draft.start_sound.foldl (Token.scan t)).finish

/-- The size that counts for the datum. -/
def size (a : Altitude Rat) : Rat :=
  match a.datum with
  | .standard => a.level
  | .terrain => a.aboveTerrain
  | _ => a.metres

/-- One of the units that the text of an altitude counts. -/
def unitSize (u : AltitudeUnit) : Datum → Rat
  | .standard => 1
  | _ => u.length.store 1

/-- The number in the text of an altitude. -/
def shown (u : AltitudeUnit) (a : Altitude Rat) : Rat :=
  match a.datum with
  | .standard => a.size
  | _ => u.length.display a.size

theorem unitSize_pos (u : AltitudeUnit) (datum : Datum) : 0 < unitSize u datum := by
  cases datum with
  | standard => exact one_pos
  | undefined | meanSea | terrain => exact div_pos one_pos u.length.factor_pos

theorem size_eq (u : AltitudeUnit) (a : Altitude Rat) :
    a.size = a.shown u * unitSize u a.datum := by
  have unit : u.length.display a.size * u.length.store 1 = a.size := by
    have factor := u.length.factor_pos.ne'
    change a.size * u.length.factor * (1 / u.length.factor) = a.size
    rw [mul_assoc, mul_one_div_cancel factor, mul_one]
  unfold shown
  cases a.datum with
  | standard => exact (mul_one _).symm
  | undefined | meanSea | terrain => exact unit.symm

theorem isSurface_iff (a : Altitude Rat) :
    a.isSurface = true ↔ a.datum = .terrain ∧ a.aboveTerrain < 0 := by
  have zero : (Scalar.ofDecimal 0 0 : Rat) = 0 := Scalar.ofDecimal_zero 0
  simp [isSurface, zero]

/-- A number with the letters for a datum and a unit. -/
def labelled (u : AltitudeUnit) (number : Text) : Datum → Text
  | .standard => 'F' :: 'L' :: number
  | .terrain => number ++ (u.length.symbol.toList ++ [' ', 'A', 'G', 'L'])
  | .undefined | .meanSea => number ++ (u.length.symbol.toList ++ [' ', 'M', 'S', 'L'])

theorem text_of_surface {a : Altitude Rat} (surface : a.isSurface = true) (u : AltitudeUnit) :
    a.text u = ['S', 'F', 'C'] := by
  obtain ⟨datum, _⟩ := a.isSurface_iff.mp surface
  simp [text, datum, surface]

theorem text_of_above {a : Altitude Rat} (above : a.isSurface = false) (u : AltitudeUnit) :
    a.text u = labelled u (sizeText (a.shown u)) a.datum := by
  have quantity : ∀ x : Rat,
      quantityText u x = sizeText (u.length.display x) ++ u.length.symbol.toList := by
    cases u <;> exact fun _ => rfl
  unfold text labelled shown size
  cases a.datum <;> simp [above, quantity]

theorem Sound.shown_nonneg {a : Altitude Rat} (sound : a.Sound) (above : a.isSurface = false)
    (u : AltitudeUnit) : 0 ≤ a.shown u := by
  cases datum : a.datum with
  | standard => simpa only [shown, size, datum] using sound.level
  | terrain =>
    have nonneg : 0 ≤ a.aboveTerrain := by
      by_contra negative
      have surface := a.isSurface_iff.mpr ⟨datum, not_le.mp negative⟩
      cases above.symm.trans surface
    simpa only [shown, size, datum] using LengthUnit.display_nonneg nonneg
  | undefined | meanSea =>
    simpa only [shown, size, datum] using LengthUnit.display_nonneg sound.metres

/-- The draft of a number with a unit. -/
def Draft.ofQuantity (u : AltitudeUnit) (n : Numeral) : Draft Rat :=
  { Draft.start with metres := u.length.store n.value, hasUnit := true }

theorem Draft.foldl_quantity (u : AltitudeUnit) (n : Numeral) :
    [.number n, Token.ofUnit u, .blank].foldl Draft.take Draft.start = Draft.ofQuantity u n := by
  cases u with
  | metres =>
    have same : AltitudeUnit.metres.length.store n.value = (n.value : Rat) :=
      LengthUnit.store_metres _
    rw [Draft.ofQuantity, same]
    rfl
  | feet => rfl

/-- The text of an altitude that is not at the surface is read as its number in hundredths. -/
theorem Sound.read_text {a : Altitude Rat} (sound : a.Sound) (above : a.isSurface = false)
    (u : AltitudeUnit) :
    let b : Altitude Rat := read (a.text u)
    b.datum = a.datum ∧ b.isSurface = false ∧ b.shown u = hundredths (a.shown u) / 100 := by
  obtain ⟨n, value, found⟩ := exists_numeral (hundredths (a.shown u))
  have number : ∀ rest, Numeral.Ends rest →
      Token.scan (sizeText (a.shown u) ++ rest) = .number n :: Token.scan rest := by
    intro rest ended
    rw [sizeText_of_nonneg (sound.shown_nonneg above u)]
    exact Token.scan_number (found rest ended)
  have quantity : ∀ label,
      read (sizeText (a.shown u) ++ (u.length.symbol.toList ++ ' ' :: label)) =
        ((Token.scan label).foldl Draft.take (Draft.ofQuantity u n)).finish := by
    intro label
    rw [read, number _ (ends_symbol u _), Token.scan_unit, ← Draft.foldl_quantity]
    rfl
  have nonneg := LengthUnit.store_nonneg (u := u.length) n.value_nonneg
  have undone := u.length.display_store n.value
  rw [← value, text_of_above above]
  dsimp only
  cases datum : a.datum with
  | undefined => exact absurd datum sound.datum
  | standard =>
    have whole : read ('F' :: 'L' :: sizeText (a.shown u)) =
        (⟨0, n.value, 0, .standard⟩ : Altitude Rat) := by
      rw [read, Token.scan_level, ← List.append_nil (sizeText _), number [] (by nofun), Token.scan]
      rfl
    rw [labelled, whole]
    exact ⟨rfl, rfl, rfl⟩
  | terrain =>
    have surfaceless :
        (⟨0, 0, u.length.store n.value, .terrain⟩ : Altitude Rat).isSurface = false := by
      rw [Bool.eq_false_iff, Ne, isSurface_iff]
      exact fun surface => not_lt.mpr nonneg surface.2
    rw [labelled, quantity, Token.scan_aboveGround]
    exact ⟨rfl, surfaceless, undone⟩
  | meanSea =>
    rw [labelled, quantity, Token.scan_meanSea]
    exact ⟨rfl, rfl, undone⟩

/-- What is read from any text has no negative size, and its text is read as the same altitude
to half a hundredth of the unit that is written, with the same text. -/
theorem text_reread (t : Text) (u : AltitudeUnit) :
    let a : Altitude Rat := read t
    let b : Altitude Rat := read (a.text u)
    a.datum ≠ .undefined ∧ 0 ≤ a.metres ∧ 0 ≤ a.level ∧
      b.datum = a.datum ∧ b.isSurface = a.isSurface ∧
      |b.size - a.size| ≤ 1 / 200 * unitSize u a.datum ∧ b.text u = a.text u := by
  intro a b
  have sound : a.Sound := read_sound t
  refine ⟨sound.datum, sound.metres, sound.level, ?_⟩
  have unit := unitSize_pos u a.datum
  cases surface : a.isSurface with
  | true =>
    obtain ⟨terrain, negative⟩ := a.isSurface_iff.mp surface
    have written := text_of_surface surface u
    have same : b.datum = .terrain ∧ b.isSurface = true ∧ b.aboveTerrain = Draft.surfaceMark := by
      have whole : b = Draft.start.atSurface.finish := by
        change ((Token.scan (a.text u)).foldl Draft.take Draft.start).finish = _
        rw [written, Token.scan_surface]
        rfl
      rw [whole]
      decide +kernel
    obtain ⟨datum, marked, above⟩ := same
    have mark : a.aboveTerrain = Draft.surfaceMark :=
      (sound.terrain terrain).resolve_left (not_le.mpr negative)
    refine ⟨datum.trans terrain.symm, marked, ?_, ?_⟩
    · have none : b.size - a.size = 0 := by simp [size, datum, terrain, above, mark]
      rw [none, abs_zero]
      positivity
    · rw [text_of_surface marked, written]
  | false =>
    obtain ⟨datum, above, shown⟩ :
        b.datum = a.datum ∧ b.isSurface = false ∧ b.shown u = hundredths (a.shown u) / 100 :=
      sound.read_text surface u
    have nonneg := sound.shown_nonneg surface u
    refine ⟨datum, above, ?_, ?_⟩
    · rw [size_eq u b, size_eq u a, datum, shown, ← sub_mul, abs_mul, abs_of_pos unit]
      exact mul_le_mul_of_nonneg_right (hundredths_near nonneg) unit.le
    · have same : sizeText (b.shown u) = sizeText (a.shown u) := by
        rw [sizeText_of_nonneg nonneg, shown, sizeText_of_nonneg (by positivity), hundredths_div]
      rw [text_of_above above, text_of_above surface, datum, same]

/-- A half goes to the even neighbour. -/
example : (read "FL 95.125".toList : Altitude Rat).text .feet = "FL95.12".toList := by
  decide +kernel

end Airspaces.Altitude
