import Airspaces.Proofs.OpenAir.LetterCase
import Airspaces.Proofs.Tessellation
import Airspaces.Proofs.Text.Part
/-! OpenAir directives without a space before their value. Points and attributes are passed over,
but the numbers of a circle or a sector are read as if the space were there, and an arc loses the
character in the place of it. -/
namespace Airspaces.OpenAir

variable {α : Type} [Scalar α]

/-- Directives whose value has to follow a space. -/
def spacedHeads : List Text :=
  [['D', 'P'], ['A', 'C'], ['A', 'N'], ['A', 'L'], ['A', 'H'], ['A', 'R']]

/-- Blanks before a number do not count, so that a missing one does not either. -/
theorem scan?_blank (t : Text) :
    (Numeral.scan? (' ' :: t) : Option (α × Text)) = Numeral.scan? t :=
  rfl

theorem circleLine_blank (c d : Char) (rest : Text) (r : Record α) :
    circleLine (c :: d :: ' ' :: rest) r = circleLine (c :: d :: rest) r := by
  simp only [circleLine, List.drop, scan?_blank]

theorem sectorLine_blank (g : Geodesy α) (c d : Char) (rest : Text) (r : Record α) :
    sectorLine g (c :: d :: ' ' :: rest) r = sectorLine g (c :: d :: rest) r := by
  simp only [sectorLine, sectorValues?, List.drop, scan?_blank]

theorem Directive.ofValue_unspaced {x : Char} (unspaced : x ≠ ' ') (tells : Text → Directive α)
    (rest : Text) : ofValue tells (x :: rest) = idle := by
  simp [ofValue, unspaced]

theorem ofLine_spaced {c d x : Char} {rest : Text} (unspaced : x ≠ ' ')
    (head : Text.upper [c, d] ∈ spacedHeads) :
    (Directive.ofLine (c :: d :: x :: rest) : Directive α) = .idle := by
  simp only [spacedHeads, List.mem_cons, List.not_mem_nil, or_false] at head
  rcases head with same | same | same | same | same | same
  all_goals
    simp only [Directive.ofLine, same]
    exact Directive.ofValue_unspaced unspaced _ rest

/-- Points that are added change a record. -/
theorem addPoints_ne {points : List (Position α)} (some_point : points ≠ []) (r : Record α) :
    r.addPoints points ≠ r := by
  intro same
  have longer := congrArg (fun r : Record α => r.points.toList) same
  exact some_point (by simpa [Record.addPoints] using longer)

theorem addCurve_ne {r : Record α} {curve : Except (Fault α) (List (Position α))}
    (drawn : ∀ points, curve = .ok points → points ≠ []) : addCurve r curve ≠ .leave r := by
  cases curve with
  | error f => nofun
  | ok points =>
    intro same
    exact addPoints_ne (drawn points rfl) r (congrArg Step.state same)

section
variable (g : Geodesy α) (line t : Text) (r : Record α)

/-- A circle is passed over only if its radius cannot be read. -/
theorem circle_skipped_iff :
    (Directive.ofCircle t).perform g line r = .leave r ↔
      (Numeral.scan? t : Option (α × Text)) = none := by
  rw [Directive.ofCircle]
  cases (Numeral.scan? t : Option (α × Text)) with
  | none => exact iff_of_true rfl rfl
  | some found =>
    apply iff_of_false
    · intro same
      cases congrArg Step.finished same
    · intro unread
      cases unread

/-- A sector is passed over only if one of its numbers cannot be read. -/
theorem sector_skipped_iff :
    sectorLine g line r = .leave r ↔ (sectorValues? line : Option (α × α × α)) = none := by
  rw [sectorLine]
  cases (sectorValues? line : Option (α × α × α)) with
  | none => exact iff_of_true rfl rfl
  | some values =>
    apply iff_of_false
    · apply addCurve_ne
      intro points drawn
      obtain ⟨before, end_point, rfl⟩ := Arc.sector_last drawn
      simp
    · intro unread
      cases unread

/-- An arc is never passed over. -/
theorem arc_not_skipped : (Directive.ofArc t).perform g line r ≠ .leave r := by
  rw [Directive.ofArc]
  repeat' split
  · intro same
    cases congrArg Step.stop same
  · intro same
    cases congrArg Step.stop same
  · intro same
    cases congrArg Step.stop same
  · apply addCurve_ne
    intro points drawn
    obtain ⟨inner, rfl⟩ := Arc.between_ends drawn
    exact List.cons_ne_nil _ _

end

/-- What a directive without its space does. A point or an attribute is passed over. A circle or a
sector does the same as with the space, so that it is passed over only if its numbers cannot be
read. An arc never is: it does the same as with a space in the place of its third character, unless
that is the comma before its end. -/
theorem step_without_space (g : Geodesy α) {c d x : Char} (unspaced : x ≠ ' ') (rest : Text)
    (r : Record α) :
    let head := Text.upper [c, d]
    let line := c :: d :: x :: rest
    (head ∈ spacedHeads → step g line r = .leave r) ∧
    (head = ['D', 'C'] → step g line r = step g (c :: d :: ' ' :: x :: rest) r ∧
      (step g line r = .leave r ↔ (Numeral.scan? (x :: rest) : Option (α × Text)) = none)) ∧
    (head = ['D', 'A'] → step g line r = step g (c :: d :: ' ' :: x :: rest) r ∧
      (step g line r = .leave r ↔ (sectorValues? line : Option (α × α × α)) = none)) ∧
    (head = ['D', 'B'] → step g line r ≠ .leave r ∧
      (x ≠ ',' → (step g line r).Like (step g (c :: d :: ' ' :: rest) r))) := by
  intro head line
  simp only [← Directive.perform_ofLine]
  refine ⟨?_, ?_, ?_, ?_⟩
  · intro spaced
    rw [ofLine_spaced unspaced spaced]
    rfl
  · intro circle
    have circles (t : Text) : (Directive.ofLine (c :: d :: t) : Directive α) = .ofCircle t := by
      simp only [Directive.ofLine, show Text.upper [c, d] = ['D', 'C'] from circle]
      rfl
    rw [circles, circles]
    refine ⟨?_, circle_skipped_iff g line (x :: rest) r⟩
    rw [Directive.perform_ofCircle, Directive.perform_ofCircle, circleLine_blank]
  · intro sector
    have sectors (t : Text) : (Directive.ofLine (c :: d :: t) : Directive α) = .ofSector t := by
      simp only [Directive.ofLine, show Text.upper [c, d] = ['D', 'A'] from sector]
      rfl
    rw [sectors, sectors, Directive.perform_ofSector, Directive.perform_ofSector, sectorLine_blank]
    exact ⟨rfl, sector_skipped_iff g line r⟩
  · intro arc
    have arcs (t : Text) : (Directive.ofLine (c :: d :: t) : Directive α) = .ofArc t := by
      simp only [Directive.ofLine, show Text.upper [c, d] = ['D', 'B'] from arc]
      rfl
    rw [arcs, arcs]
    refine ⟨arc_not_skipped g line (x :: rest) r, ?_⟩
    intro other
    have same : (Directive.ofArc (x :: rest) : Directive α) = .ofArc (' ' :: rest) := by
      rw [Directive.ofArc, Directive.ofArc, Text.after?_cons other, Text.after?_cons (by decide)]
      rfl
    rw [same]
    exact Directive.perform_like g _ _ r _

/-- A point is passed over and an arc loses a digit, whatever the record holds. -/
theorem step_without_space_of_point_and_arc :
    let r : Record Rat := { name := "ED-R 123".toList, points := #[.origin], waiting := false }
    let point := 'd' :: 'P' :: '5' :: "0:00:00 N 010:00:00 E".toList
    let arc (x : Char) := 'D' :: 'B' :: x :: "3:13:00 N 008:47:00 E,53:03:00 N 008:57:00 E".toList
    ('5' ≠ ' ' ∧ Text.upper ['d', 'P'] ∈ spacedHeads ∧ step .still point r = .leave r) ∧
      '5' ≠ ',' ∧ Text.upper ['D', 'B'] = ['D', 'B'] ∧ step .still (arc '5') r ≠ .leave r ∧
        (step .still (arc '5') r).Like (step .still (arc ' ') r) := by
  intro r point arc
  have digit : '5' ≠ ' ' := by decide
  obtain ⟨skipped, -⟩ := step_without_space .still (c := 'd') (d := 'P') digit
    "0:00:00 N 010:00:00 E".toList r
  obtain ⟨-, -, -, drawn⟩ := step_without_space .still (c := 'D') (d := 'B') digit
    "3:13:00 N 008:47:00 E,53:03:00 N 008:57:00 E".toList r
  obtain ⟨kept, shifted⟩ := drawn (by decide)
  exact ⟨⟨digit, by decide, skipped (by decide)⟩, by decide, by decide, kept, shifted (by decide)⟩

/-- A circle is handed out without its space, and the first digit of an arc is lost with it. -/
theorem numbers_without_space :
    let r : Record Rat := Record.fresh.start .restricted
    let circle := "DC2.5".toList
    let sector := "DA5,0,90".toList
    let arc := "DB53:13:00 N 008:47:00 E,53:03:00 N 008:57:00 E".toList
    (∀ line ∈ [circle, sector, arc], step .still line r ≠ .leave r) ∧
      (step .still circle r).finished.length = 1 ∧
      ∃ p, (step .still arc r).state.points[0]? = some p ∧ p.latitude = 3 + 13 / 60 := by
  intro r circle sector arc
  have encircled : (step .still circle r).finished.length = 1 := by decide +kernel
  have bent : (step .still sector r).state.points.size ≠ r.points.size := by decide +kernel
  have joined : (step .still arc r).state.points.size ≠ r.points.size := by decide +kernel
  have start : (step .still arc r).state.points[0]?.map (·.latitude) = some (3 + 13 / 60) := by
    decide +kernel
  refine ⟨?_, encircled, Option.map_eq_some_iff.mp start⟩
  intro line member same
  simp only [List.mem_cons, List.not_mem_nil, or_false] at member
  rcases member with rfl | rfl | rfl
  · rw [same] at encircled
    cases encircled
  · exact bent (by rw [same]; rfl)
  · exact joined (by rw [same]; rfl)

end Airspaces.OpenAir
