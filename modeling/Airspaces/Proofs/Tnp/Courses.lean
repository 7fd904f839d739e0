import Airspaces.Proofs.Tessellation
import Airspaces.Proofs.Text.LetterCase
import Airspaces.Proofs.Text.Part
import Airspaces.Proofs.Tnp.Titles
/-! Positions on arc and circle lines. The parts of such a line are told apart by their spaces, of
which a position may have one itself. A circle is found whether its center has one or not, and so
is the end of an arc, but an arc whose center has none is refused. -/
namespace Airspaces.Tnp

open Position (Compact gap)

variable {α : Type} [Scalar α]

/-- What an arc line starts with. -/
def arcHead : Sense → Text
  | .clockwise => "CLOCKWISE ".toList
  | .counterClockwise => "ANTI-CLOCKWISE ".toList

def arcKeyword : Sense → Keyword
  | .clockwise => .clockwise
  | .counterClockwise => .antiClockwise

def circleHead : Text := "CIRCLE ".toList

/-- The parts of an arc line after its keyword. -/
def courseText (radius : Text) (center target : Compact) : Text :=
  radiusHead ++ (radius ++ (centreHead ++ (center.text ++ (targetHead ++ target.text))))

def arcText (sense : Sense) (radius : Text) (center target : Compact) : Text :=
  arcHead sense ++ courseText radius center target

def circleText (radius : Text) (center : Compact) : Text :=
  circleHead ++ (radiusHead ++ (radius ++ (centreHead ++ center.text)))

/-- A head is found after the first space, which is its own. -/
theorem afterSpacedHead?_text {t : Text} (spaceless : ' ' ∉ t) (head rest : Text) :
    afterSpacedHead? (' ' :: head) (t ++ (' ' :: head ++ rest)) = some rest := by
  rw [afterSpacedHead?, List.cons_append, Text.from?_text spaceless]
  exact Text.afterHead?_text (' ' :: head) rest

/-- The target is found after the space inside the center. -/
theorem target?_of_spaced {center : Compact} (spaced : center.spaced = true) (rest : Text) :
    target? (center.text ++ (targetHead ++ rest)) = some rest := by
  have parts : center.text ++ (targetHead ++ rest) =
      center.latitude ++ ' ' :: (center.longitude ++ (targetHead ++ rest)) := by
    simp [Compact.text, spaced, gap]
  rw [target?, parts, Text.after?_text center.spaceless_latitude]
  exact afterSpacedHead?_text center.spaceless_longitude _ rest

/-- A letter with a digit after it is no target. -/
theorem afterHead?_longitude (c : Compact) :
    Text.afterHead? (' ' :: c.longitude) targetHead = none := by
  obtain ⟨d, more, digits⟩ := List.exists_cons_of_ne_nil c.filled.2
  have digit : d.isDigit = true := c.isDigit_longitude d (by simp [digits])
  have absent : d ∉ Text.upper targetHead := by
    intro member
    have no_digit : (Text.upper targetHead).any Char.isDigit = false := by decide
    have plain := List.any_eq_false.mp no_digit d member
    exact plain digit
  refine if_neg fun same => absent ?_
  rw [← same]
  simp [Compact.longitude, digits, targetHead, Text.upper, Text.capital_of_isDigit digit]

/-- Without that space the target is taken for the rest of the center. -/
theorem target?_of_unspaced {center : Compact} (unspaced : center.spaced = false)
    (target : Compact) : target? (center.text ++ (targetHead ++ target.text)) = none := by
  have one_word : ' ' ∉ center.text := by
    simp [Compact.text, unspaced, gap, center.spaceless_latitude, center.spaceless_longitude]
  have first : Text.after? ' ' (center.text ++ (targetHead ++ target.text)) =
      some (['T', 'O', '='] ++ target.text) := Text.after?_text one_word _
  have left : ' ' ∉ ['T', 'O', '='] ++ target.latitude := by simp [target.spaceless_latitude]
  rw [target?, first, Option.bind_eq_bind, Option.bind_some, afterSpacedHead?, Compact.text,
    ← List.append_assoc]
  cases target.spaced with
  | true =>
    rw [show gap true ++ target.longitude = ' ' :: target.longitude from rfl,
      Text.from?_text left]
    exact afterHead?_longitude target
  | false =>
    have absent : ' ' ∉ (['T', 'O', '='] ++ target.latitude) ++ target.longitude := by
      rw [List.mem_append]
      exact not_or.mpr ⟨left, target.spaceless_longitude⟩
    rw [show gap false ++ target.longitude = target.longitude from rfl,
      Text.from?_of_not_mem absent]
    rfl

section
variable {center target : Compact} {p q : Position α} {radius : Text}

theorem afterSpacedHead?_centre (spaceless : ' ' ∉ radius) (rest : Text) :
    afterSpacedHead? centreHead (radius ++ (centreHead ++ rest)) = some rest :=
  afterSpacedHead?_text spaceless _ rest

theorem positionOf_append (located : Position.ofCompact center.text = .ok (some p))
    {rest : Text} (ended : ∀ d ∈ rest.head?, d.isDigit = false) (cause : LineCause) :
    positionOf (center.text ++ rest) cause = .ok p := by
  simp only [positionOf, center.ofCompact_append ended, located]

theorem positionOf_text (located : Position.ofCompact center.text = .ok (some p))
    (cause : LineCause) : positionOf center.text cause = .ok p := by
  simp only [positionOf, located]

/-- A course is read up to its target. -/
theorem courseOf_text (spaceless : ' ' ∉ radius)
    (located : Position.ofCompact center.text = .ok (some p))
    (located' : Position.ofCompact target.text = .ok (some q)) :
    (courseOf (courseText radius center target) : Except (Obstacle α) _) =
      if center.spaced then .ok (p, q) else .error (.cause .missingArcTarget) := by
  have before : ' ' ∉ radiusHead ++ radius := by
    rw [List.mem_append]
    exact not_or.mpr ⟨by decide, spaceless⟩
  have target_letter : ∀ d ∈ (targetHead ++ target.text).head?, d.isDigit = false := by
    rintro d ⟨⟩
    rfl
  rw [courseText, ← List.append_assoc, courseOf, afterSpacedHead?_centre before]
  dsimp only
  rw [positionOf_append located target_letter]
  dsimp only
  cases spaced : center.spaced with
  | true =>
    rw [target?_of_spaced spaced]
    dsimp only
    rw [positionOf_text located']
    rfl
  | false =>
    rw [target?_of_unspaced spaced]
    rfl

theorem ofCircle_text {radius : Numeral.Entry} (spaceless : ' ' ∉ radius.text)
    (located : Position.ofCompact center.text = .ok (some p)) :
    Directive.ofCircle (radiusHead ++ (radius.text ++ (centreHead ++ center.text))) =
      .circle (radius.value : α) p := by
  have stops : ∀ d ∈ (centreHead ++ center.text).head?, radius.number.Stops d := by
    rintro d ⟨⟩
    exact ⟨by decide, by rintro ⟨⟩⟩
  have scanned := Numeral.scan?_eq_some (α := α).mpr ⟨radius, rfl, stops, rfl⟩
  simp only [Directive.ofCircle, Text.afterHead?_text, scanned, afterSpacedHead?_centre spaceless,
    positionOf_text located]

end

theorem keyword?_arc (sense : Sense) (t : Text) :
    keyword? (arcHead sense ++ t) = some (arcKeyword sense, t) := by
  cases sense <;> rfl

theorem keyword?_circle (t : Text) : keyword? (circleHead ++ t) = some (.circle, t) := rfl

theorem step_arc (g : Geodesy α) (sense : Sense) (t : Text) (r : Record α) :
    step g (arcHead sense ++ t) ⟨r, false⟩ =
      (drawArc g (arcHead sense ++ t) { r with rotation := sense.rotation } (courseOf t)).map
        fun r => ⟨r, false⟩ := by
  rw [step_keyword (keyword?_arc sense t) rfl, ← Directive.fill_ofKeyword]
  cases sense <;> rfl

theorem step_circleText (g : Geodesy α) (t : Text) (r : Record α) :
    step g (circleHead ++ t) ⟨r, false⟩ =
      ((Directive.ofCircle t).fill g (circleHead ++ t) r).map fun r => ⟨r, false⟩ := by
  rw [step_keyword (keyword?_circle t) rfl, ← Directive.fill_ofKeyword]
  rfl

/-- With any center that can be read a circle line hands out its circle. An arc line adds its points
to the record if there is a space inside its center, and ends at any target that can be read. If
there is none the line is refused as one without a target. -/
theorem center_with_or_without_space (g : Geodesy α) {radius : Numeral.Entry}
    (spaceless : ' ' ∉ radius.text) {center target : Compact} {p q start : Position α}
    (located : Position.ofCompact center.text = .ok (some p))
    (located' : Position.ofCompact target.text = .ok (some q))
    {r : Record α} (started : r.lastPoint? = some start) :
    (∀ sense : Sense,
      let line := arcText sense radius.text center target
      let turned := { r with rotation := sense.rotation }
      (center.spaced = true → ∀ points, Arc.between g p start q sense.rotation = .ok points →
        step g line ⟨r, false⟩ = .leave ⟨{ turned with center := p }.addPoints points, false⟩ ∧
          ∃ inner, points = start :: inner ++ [q]) ∧
      (center.spaced = false →
        step g line ⟨r, false⟩ = .reject ⟨turned, false⟩ .missingArcTarget line)) ∧
    step g (circleText radius.text center) ⟨r, false⟩ =
      { state := ⟨r.reset, false⟩
        finished := [r.airspace (.circle p (LengthUnit.nauticalMiles.store radius.value))] } := by
  constructor
  · intro sense line turned
    have last : turned.lastPoint? = some start := started
    have course := courseOf_text spaceless located located'
    have done : step g line ⟨r, false⟩ = (drawArc g line turned _).map fun r => ⟨r, false⟩ :=
      step_arc g sense _ r
    rw [done, course]
    constructor
    · intro spaced points drawn
      refine ⟨?_, Arc.between_ends drawn⟩
      have curve : Arc.between g p start q turned.rotation = .ok points := drawn
      simp only [spaced, if_true, drawArc, last, curve]
      rfl
    · intro unspaced
      simp only [unspaced, drawArc, last]
      rfl
  · rw [circleText, step_circleText, ofCircle_text spaceless located]
    rfl

/-- An arc from a center with a space to a target without one, and the circle around it. -/
theorem center_with_space :
    let radius : Numeral.Entry :=
      ⟨.empty, ⟨"10".toList, some "00".toList, List.all_eq_true.mp (by decide), by decide⟩⟩
    let center : Compact :=
      ⟨('N', 'E'), ("533500".toList, "0100000".toList), true, by simp, by decide,
        List.all_eq_true.mp (by decide)⟩
    let target : Compact :=
      ⟨('n', 'e'), ("533000".toList, "0095000".toList), false, by simp, by decide,
        List.all_eq_true.mp (by decide)⟩
    let r : Record Rat := { points := #[.origin], waiting := false }
    ' ' ∉ radius.text ∧ r.lastPoint? = some .origin ∧
      ∃ p q points, Position.ofCompact center.text = .ok (some p) ∧
        Position.ofCompact target.text = .ok (some q) ∧
        Arc.between .still p .origin q (-1) = .ok points ∧
        step .still (arcText .counterClockwise radius.text center target) ⟨r, false⟩ =
          .leave ⟨{ r with rotation := -1, center := p }.addPoints points, false⟩ ∧
        (step .still (circleText radius.text center) ⟨r, false⟩).finished.length = 1 := by
  intro radius center target r
  have read (c : Compact)
      (reads : (Position.ofCompact c.text : Except (Fault Rat) _).toOption.join.isSome = true) :
      ∃ p : Position Rat, Position.ofCompact c.text = .ok (some p) := by
    match found : (Position.ofCompact c.text : Except (Fault Rat) _) with
    | .ok (some p) => exact ⟨p, rfl⟩
    | .ok none | .error f =>
      rw [found] at reads
      cases reads
  have spaceless : ' ' ∉ radius.text := by decide
  have started : r.lastPoint? = some .origin := rfl
  obtain ⟨p, located⟩ := read center (by decide +kernel)
  obtain ⟨q, located'⟩ := read target (by decide +kernel)
  obtain ⟨points, drawn⟩ :=
    Geodesy.still_total.tessellates.between p .origin q .counterClockwise
  obtain ⟨arc, circle⟩ :=
    center_with_or_without_space .still spaceless located located' started
  refine ⟨spaceless, started, p, q, points, located, located', drawn, ?_, ?_⟩
  · exact ((arc .counterClockwise).1 rfl points drawn).1
  · rw [circle]
    rfl

/-- An arc line is refused although its center, its target and its points can be read. -/
theorem center_without_space :
    let center := "N533500E0100000".toList
    let target := "N533000 E0095000".toList
    let line := "CLOCKWISE RADIUS=10.00 CENTRE=".toList ++ center ++ " TO=".toList ++ target
    let r : Record Rat := { points := #[.origin], waiting := false }
    (∀ t ∈ [center, target],
      (Position.ofCompact t : Except (Fault Rat) _).toOption.join.isSome = true) ∧
      Geodesy.still.Tessellates ∧ (step .still line ⟨r, false⟩).rejects = true ∧
      (step .still line ⟨r, false⟩).state.record.points.size = 1 :=
  ⟨by decide +kernel, Geodesy.still_total.tessellates, by decide +kernel, by decide +kernel⟩

end Airspaces.Tnp
