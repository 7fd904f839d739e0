import Airspaces.Proofs.Tessellation
import Airspaces.Proofs.Tnp.Directive
/-! The airspaces of a TNP file, told from the history of its directives. A record reaches
from one boundary to the next: class, radio, days and points come from the directives since
the last boundary, title, base and top from the whole history. -/
namespace Airspaces.Tnp

open History

variable {α : Type} [Scalar α]

namespace Directive

/-- The type value of a boundary, which a circle does not have. -/
def boundary? : Directive α → Option (Option Text)
  | opens value => some (some value)
  | circle .. => some none
  | _ => none

def title? : Directive α → Option Text
  | title value => some value
  | _ => none

def base? : Directive α → Option (Altitude α)
  | base value => some (Altitude.read value)
  | _ => none

def tops? : Directive α → Option (Altitude α)
  | tops value => some (Altitude.read value)
  | _ => none

def radio? : Directive α → Option Text
  | radio value => some value
  | _ => none

def active? : Directive α → Option Activity
  | active activity => some activity
  | _ => none

/-- The class that a value starts with the capital of. -/
def classStart? : Text → Option AirspaceClass
  | 'A' :: _ => some .a
  | 'B' :: _ => some .b
  | 'C' :: _ => some .c
  | 'D' :: _ => some .d
  | 'E' :: _ => some .e
  | 'F' :: _ => some .f
  | 'G' :: _ => some .g
  | _ => none

/-- The class of a class letter, if it is one of the seven. -/
def letter? : Directive α → Option AirspaceClass
  | classLetter value => classStart? value
  | _ => none

end Directive

open Directive

/-- The class of the type, or of the first class letter if the type is of no class. -/
def classAfter (history : List (Directive α)) : AirspaceClass :=
  let opened := (opened? boundary? history).elim .other typeOf
  if opened = .other then ((window boundary? history).findSome? letter?).getD .other else opened

/-- What cannot be read adds no points, unless it is a fault. -/
def Obstacle.drawn : Obstacle α → Except (Fault α) (List (Position α))
  | cause _ => .ok []
  | fault f => .error f

/-- The points that a directive adds to a boundary. An arc starts at the last point. -/
def drawn (g : Geodesy α) (points : List (Position α)) :
    Directive α → Except (Fault α) (List (Position α))
  | .point position => .ok [position]
  | .arc sense course =>
    match points.getLast?, course with
    | none, _ => .ok []
    | some _, .error obstacle => obstacle.drawn
    | some start, .ok (center, stop) => Arc.between g center start stop sense.rotation
  | .unreadable obstacle => obstacle.drawn
  | _ => .ok []

/-- The boundary points of a window, in the order of its directives. -/
def pointsOf (g : Geodesy α) (window : List (Directive α)) : List (Position α) :=
  window.foldl (fun points d => points ++ (drawn g points d).toOption.getD []) []

/-- An airspace that is handed out after a history. -/
def airspaceOf (history : List (Directive α)) (shape : Shape α) : Airspace α :=
  { name := (latest? title? history).getD []
    airspaceClass := classAfter history
    base := (latest? base? history).getD .unset
    top := (latest? tops? history).getD .unset
    radio := (latest? radio? (window boundary? history)).getD []
    activity := (latest? active? (window boundary? history)).getD .everyday
    shape }

/-- The polygon of the open record. Without points there is none. -/
def polygonOf (g : Geodesy α) (history : List (Directive α)) : List (Airspace α) :=
  let points := pointsOf g (window boundary? history)
  if (opened? boundary? history).isNone || points.isEmpty then []
  else [airspaceOf history (.polygon points)]

/-- What a directive hands out: a type the polygon of the record before it, a circle
itself. -/
def handed (g : Geodesy α) (history : List (Directive α)) : Directive α → List (Airspace α)
  | .opens _ => polygonOf g history
  | .circle radius center =>
    [airspaceOf history (.circle center (LengthUnit.nauticalMiles.store radius))]
  | _ => []

/-- Why a directive cannot be carried out, if it cannot. -/
def fault? (g : Geodesy α) (history : List (Directive α)) (d : Directive α) : Option (Fault α) :=
  Fault.of? (drawn g (pointsOf g (window boundary? history)) d)

def airspaces (g : Geodesy α) (ds : List (Directive α)) : List (Airspace α) :=
  accumulate (handed g) ds ++ polygonOf g ds

/-- The record after a history, except for center and rotation. A circle brings a center of
its own, and an arc sets both before they are used. -/
def told (g : Geodesy α) (history : List (Directive α)) : Record α :=
  { name := (latest? title? history).getD []
    radio := (latest? radio? (window boundary? history)).getD []
    airspaceClass := classAfter history
    base := (latest? base? history).getD .unset
    top := (latest? tops? history).getD .unset
    activity := (latest? active? (window boundary? history)).getD .everyday
    points := (pointsOf g (window boundary? history)).toArray
    waiting := (opened? boundary? history).isNone }

/-- What lines hand out, and at their end the polygon of the record that is open. -/
def readLines (g : Geodesy α) (lines : List Text) : Except (Fault α) (List (Airspace α)) :=
  (feed (step g) {} lines).map fun (s, out) => out ++ s.record.pending

section
variable (g : Geodesy α) (history : List (Directive α))

theorem told_airspace (shape : Shape α) :
    (told g history).airspace shape = airspaceOf history shape := rfl

theorem told_pending : (told g history).pending = polygonOf g history := by
  simp only [Record.pending, Record.polygon, polygonOf, told_airspace]
  simp only [told, List.isEmpty_toArray]
  cases (opened? boundary? history).isNone <;> simp

@[simp] theorem pointsOf_nil : pointsOf g ([] : List (Directive α)) = [] := rfl

@[simp] theorem pointsOf_concat (d : Directive α) :
    pointsOf g (history ++ [d]) =
      pointsOf g history ++ (drawn g (pointsOf g history) d).toOption.getD [] := by
  simp [pointsOf]

theorem classStart?_eq (value : Text) : classStart? value = classes.lookup (value.take 1) := by
  unfold classStart?
  split
  case h_8 a b c d e f g =>
    cases value with
    | nil => rfl
    | cons letter rest =>
      have unlisted : classes.lookup [letter] = none := by
        rw [List.lookup_eq_none_iff]
        simp_all [classes]
      exact unlisted.symm
  all_goals rfl

theorem letter?_ne_other {d : Directive α} {k : AirspaceClass} (found : d.letter? = some k) :
    k ≠ .other := by
  cases d with
  | classLetter value =>
    rw [letter?, classStart?_eq] at found
    obtain ⟨before, after, entries, _⟩ := List.lookup_eq_some_iff.mp found
    have entry : (value.take 1, k) ∈ classes := by simp [entries]
    rintro rfl
    simp [classes] at entry
  | _ => cases found

/-- Only the first class letter counts, and only where the type is of no class. -/
theorem classAfter_inner {d : Directive α} (inner : d.boundary? = none) :
    classAfter (history ++ [d]) =
      if classAfter history = .other then d.letter?.getD .other else classAfter history := by
  have outer := opened?_inner history inner
  unfold classAfter
  simp only [outer, window_concat, inner, Option.isSome_none, Bool.false_eq_true, if_false,
    List.findSome?_append]
  by_cases none_opened : (opened? boundary? history).elim .other typeOf = .other
  · simp only [none_opened, if_true]
    cases found : (window boundary? history).findSome? letter? with
    | none => cases h : d.letter? <;> simp [h]
    | some k =>
      obtain ⟨_, e, _, _, letter, _⟩ := List.findSome?_eq_some_iff.mp found
      simp [letter?_ne_other letter]
  · simp only [none_opened, if_false]

/-- A type opens a record of its own. -/
theorem told_opens (value : Text) :
    told g (history ++ [.opens value]) = (told g history).start (typeOf value) := by
  have named : classAfter (history ++ [.opens value]) = typeOf value := by
    simpa [classAfter, boundary?] using Eq.symm
  simp [told, named, Record.start, Record.reset, boundary?, title?, base?, tops?]

theorem told_circle (radius : α) (center : Position α) :
    told g (history ++ [.circle radius center]) = (told g history).reset := by
  have unnamed : classAfter (history ++ [.circle radius center]) = .other := by
    simp [classAfter, boundary?]
  simp [told, unnamed, Record.reset, boundary?, title?, base?, tops?]

/-- What a directive inside a record changes. -/
theorem told_inner {d : Directive α} (inner : d.boundary? = none) :
    told g (history ++ [d]) =
      { told g history with
        name := d.title?.getD (told g history).name
        base := d.base?.getD (told g history).base
        top := d.tops?.getD (told g history).top
        radio := d.radio?.getD (told g history).radio
        activity := d.active?.getD (told g history).activity
        airspaceClass :=
          if classAfter history = .other then d.letter?.getD .other else classAfter history
        points := (told g history).points ++
          (drawn g (pointsOf g (window boundary? history)) d).toOption.getD [] } := by
  have outer := opened?_inner history inner
  simp [told, outer, inner, classAfter_inner, Option.getD_or]

/-- What a directive inside a record changes that is no class letter. -/
theorem told_plain {d : Directive α} (inner : d.boundary? = none) (plain : d.letter? = none) :
    told g (history ++ [d]) =
      { told g history with
        name := d.title?.getD (told g history).name
        base := d.base?.getD (told g history).base
        top := d.tops?.getD (told g history).top
        radio := d.radio?.getD (told g history).radio
        activity := d.active?.getD (told g history).activity
        points := (told g history).points ++
          (drawn g (pointsOf g (window boundary? history)) d).toOption.getD [] } := by
  have kept : (if classAfter history = .other then .other else classAfter history) =
      classAfter history := by simp +contextual
  rw [told_inner g history inner, plain, Option.getD_none, kept]
  rfl

/-- The history as an account of what fills the record. -/
def filling : Account α (Record α) (Directive α) where
  fault? := fault? g
  handed := handed g
  Agrees history r := ∃ center rotation, r = { told g history with center, rotation }

/-- The history as an account of the dialect's runs in which no line is passed over. -/
def account : Account α (State α) (Directive α) where
  fault? := fault? g
  handed := handed g
  Agrees history s := s.ignoring = false ∧ (filling g).Agrees history s.record

variable {g history}

/-- An obstacle leaves the record as it was. -/
theorem covers_obstacle {d : Directive α} {obstacle : Obstacle α} {center : Position α}
    {rotation : Int} (line : Text) (quiet : handed g history d = [])
    (draws : drawn g (pointsOf g (window boundary? history)) d = obstacle.drawn)
    (same : drawn g (pointsOf g (window boundary? history)) d = .ok [] →
      told g (history ++ [d]) = told g history) :
    (filling g).Covers history d (halt { told g history with center, rotation } line obstacle) := by
  have fault : fault? g history d = Fault.of? obstacle.drawn := congrArg Fault.of? draws
  cases obstacle with
  | cause cause =>
    refine Account.covers_of_sound fault rfl quiet.symm ⟨center, rotation, ?_⟩
    rw [same draws]
    rfl
  | fault f => exact Account.covers_fault fault rfl

theorem covers_arc (line : Text) (sense : Sense)
    (course : Except (Obstacle α) (Position α × Position α)) (center : Position α) :
    (filling g).Covers history (.arc sense course)
      (drawArc g line { told g history with center, rotation := sense.rotation } course) := by
  have last : ({ told g history with center, rotation := sense.rotation } : Record α).lastPoint? =
      (pointsOf g (window boundary? history)).getLast? := by simp [Record.lastPoint?, told]
  have same := told_plain g history (d := .arc sense course) rfl rfl
  unfold drawArc
  rw [last]
  cases started : (pointsOf g (window boundary? history)).getLast? with
  | none =>
    -- Without a point to start from, even an unreadable course is no fault.
    have draws : drawn g (pointsOf g (window boundary? history)) (.arc sense course) = .ok [] := by
      simp only [drawn, started]
    rw [draws] at same
    exact Account.covers_of_sound (congrArg Fault.of? draws) rfl rfl ⟨_, _, by rw [same]; rfl⟩
  | some start =>
    cases course with
    | error obstacle =>
      have draws : drawn g (pointsOf g (window boundary? history)) (.arc sense (.error obstacle)) =
          obstacle.drawn := by simp only [drawn, started]
      exact covers_obstacle line rfl draws fun none_drawn => by
        rw [same, none_drawn]
        rfl
    | ok route =>
      obtain ⟨middle, stop⟩ := route
      have draws : drawn g (pointsOf g (window boundary? history))
          (.arc sense (.ok (middle, stop))) =
            Arc.between g middle start stop sense.rotation := by simp only [drawn, started]
      dsimp only
      cases curve : Arc.between g middle start stop sense.rotation with
      | error f => exact Account.covers_fault (congrArg Fault.of? (draws.trans curve)) rfl
      | ok points =>
        rw [draws.trans curve] at same
        exact Account.covers_of_sound (congrArg Fault.of? (draws.trans curve)) rfl rfl
          ⟨_, _, by rw [same]; rfl⟩

/-- A directive does to the record what its history says. -/
theorem fill_covers (line : Text) (d : Directive α) (center : Position α) (rotation : Int) :
    (filling g).Covers history d (d.fill g line { told g history with center, rotation }) := by
  cases d with
  | opens value =>
    exact Account.covers_of_sound rfl rfl (told_pending g history)
      ⟨.origin, 1, by rw [told_opens]; rfl⟩
  | circle radius center =>
    exact Account.covers_of_sound rfl rfl rfl ⟨.origin, 1, by rw [told_circle]; rfl⟩
  | classLetter value =>
    have same := told_inner g history (d := .classLetter value) rfl
    by_cases unnamed : classAfter history = .other
    · have done : (told g history).airspaceClass = .other := unnamed
      have letter : (letter? (.classLetter value : Directive α)).getD .other = classOf value :=
        congrArg (Option.getD · AirspaceClass.other) (classStart?_eq value)
      simp only [unnamed, if_true, letter] at same
      simp only [fill, done, if_true]
      exact Account.covers_of_sound rfl rfl rfl ⟨_, _, by rw [same]; rfl⟩
    · have done : ¬ (told g history).airspaceClass = .other := unnamed
      simp only [unnamed, if_false] at same
      simp only [fill, done, if_false]
      exact Account.covers_of_sound rfl rfl rfl ⟨_, _, by rw [same]; rfl⟩
  | arc sense course => exact covers_arc line sense course center
  | unreadable obstacle =>
    refine covers_obstacle line rfl rfl fun none_drawn => ?_
    rw [told_plain g history rfl rfl, none_drawn]
    rfl
  | _ =>
    exact Account.covers_of_sound rfl rfl rfl ⟨_, _, by rw [told_plain g history rfl rfl]; rfl⟩

/-- A line that does not set the switch does to the state what its history says. -/
theorem step_covers {line : Text} (plain : Text.afterHead? line includeHead = none) {s : State α}
    (agrees : (account g).Agrees history s) :
    (account g).Covers history (.ofLine line) (step g line s) := by
  obtain ⟨heard, center, rotation, same⟩ := agrees
  have filled : (filling g).Covers history (.ofLine line) _ :=
    fill_covers line (.ofLine line) center rotation
  rw [← same] at filled
  rw [← perform_ofLine, perform_of_ne_switch g line (ofLine_ne_switch plain), heard]
  exact ⟨filled.fault, filled.finished, fun sound => ⟨rfl, filled.agrees sound⟩⟩

end

/-- A run is told by its history, or broken off by the first directive that cannot be
carried out. -/
theorem readLines_eq (g : Geodesy α) {lines : List Text}
    (plain : ∀ line ∈ lines, Text.afterHead? line includeHead = none) :
    readLines g lines =
      match first? (fault? g) (lines.map Directive.ofLine) with
      | some f => .error f
      | none => .ok (airspaces g (lines.map Directive.ofLine)) := by
  apply (account g).feed_closed Directive.ofLine (step g) lines (fun s => s.record.pending)
    (polygonOf g)
  · rintro history s ⟨_, center, rotation, same⟩
    rw [same]
    exact told_pending g history
  · exact ⟨rfl, .origin, 1, rfl⟩
  · intro line member _ _ agrees
    exact step_covers (plain line member) agrees

/-- Why a number in a coordinate of the directive cannot be read, if it cannot. -/
def Directive.numberFault? : Directive α → Option (Fault α)
  | unreadable (.fault f) | arc _ (.error (.fault f)) => some f
  | _ => none

/-- Only numbers in coordinates and arcs without points are faults. -/
theorem fault?_eq_none {g : Geodesy α} (tessellates : g.Tessellates) (history : List (Directive α))
    {d : Directive α} (readable : d.numberFault? = none) : fault? g history d = none := by
  cases d with
  | arc sense course =>
    cases started : (pointsOf g (window boundary? history)).getLast? with
    | none =>
      have draws : drawn g (pointsOf g (window boundary? history)) (.arc sense course) =
          .ok [] := by simp only [drawn, started]
      exact congrArg Fault.of? draws
    | some start =>
      match course with
      | .error (.fault f) => cases readable
      | .error (.cause cause) =>
        have draws : drawn g (pointsOf g (window boundary? history))
            (.arc sense (.error (.cause cause))) = .ok [] := by
          simp only [drawn, started, Obstacle.drawn]
        exact congrArg Fault.of? draws
      | .ok (center, stop) =>
        obtain ⟨points, curve⟩ := tessellates.between center start stop sense
        have draws : drawn g (pointsOf g (window boundary? history))
            (.arc sense (.ok (center, stop))) = .ok points := by
          simpa only [drawn, started] using curve
        exact congrArg Fault.of? draws
  | unreadable obstacle =>
    cases obstacle with
    | cause cause => rfl
    | fault f => cases readable
  | _ => rfl

/-- The airspaces of a file are those that the history of its directives tells: at each
circle the circle itself, and at each type and at the end of the file the polygon of the
record that is open, if it has points. A run has no other outcome than this one or the
fault of the first line that cannot be carried out; with points for every arc that is a
line with a number in a coordinate that cannot be read. -/
theorem airspaces_of_plain_lines (g : Geodesy α) (lines : List Text)
    (plain : ∀ line ∈ lines, Text.afterHead? line includeHead = none) :
    (readLines g lines =
      match first? (fault? g) (lines.map Directive.ofLine) with
      | some f => .error f
      | none => .ok (airspaces g (lines.map Directive.ofLine))) ∧
    (g.Tessellates → (∀ line ∈ lines, (Directive.ofLine (α := α) line).numberFault? = none) →
      readLines g lines = .ok (airspaces g (lines.map Directive.ofLine))) := by
  refine ⟨readLines_eq g plain, ?_⟩
  intro tessellates readable
  have sound : first? (fault? g) (lines.map Directive.ofLine) = none := by
    apply first?_eq_none
    intro before d member
    obtain ⟨line, listed, rfl⟩ := List.mem_map.mp member
    exact fault?_eq_none tessellates before (readable line listed)
  rw [readLines_eq g plain, sound]

/-- Radio and days do not go over into the next record, but title and top do. A class letter
counts where the type is of no class. -/
theorem airspaces_of_arc_and_circle :
    let lines := [
      "TYPE=CTA/CTR".toList,
      "TITLE=HAMBURG CTR".toList,
      "CLASS=D".toList,
      "TOPS=2500ALT".toList,
      "Radio=120.100".toList,
      "ACTIVE=Weekday".toList,
      "POINT=N533813 E0095943".toList,
      "POINT=garbage".toList,
      "CLOCKWISE RADIUS=5 CENTRE=N533813 E0095943 TO=N523333 E0131603".toList,
      "TYPE=X".toList,
      "CLASS=D1".toList,
      "CIRCLE RADIUS=17.00 CENTRE=N000000 E0000000".toList]
    let read := (readLines .still lines).toOption.getD []
    readLines .still lines = .ok (airspaces .still (lines.map Directive.ofLine)) ∧
      read.map (fun a => (a.name, a.airspaceClass, a.radio)) =
        [("HAMBURG CTR".toList, .controlZone, "120.100".toList),
          ("HAMBURG CTR".toList, .d, [])] ∧
      read.map (·.activity.days) = [[0, 1, 2, 3, 4], [0, 1, 2, 3, 4, 5, 6]] ∧
      read.map (fun a => (a.base.datum, a.top.datum, a.top.metres)) =
        [(.undefined, .meanSea, 762), (.undefined, .meanSea, 762)] ∧
      read.map (fun a => a.shape.points.map fun p => (p.latitude, p.longitude)) =
        [[(53 + 38 / 60 + 13 / 3600, 9 + 59 / 60 + 43 / 3600),
          (53 + 38 / 60 + 13 / 3600, 9 + 59 / 60 + 43 / 3600),
          (52 + 33 / 60 + 33 / 3600, 13 + 16 / 60 + 3 / 3600)], []] ∧
      read.map (·.shape == .circle .origin 31484) = [false, true] := by
  intro lines read
  have plain : ∀ line ∈ lines, Text.afterHead? line includeHead = none := by decide +kernel
  have readable : ∀ line ∈ lines, (Directive.ofLine (α := Rat) line).numberFault? = none := by
    decide +kernel
  have total := (airspaces_of_plain_lines .still lines plain).2
  exact ⟨total Geodesy.still_total.tessellates readable, by decide +kernel⟩

/-- A point line with one digit more in a group than is read. -/
def overlongPoint : Text :=
  "POINT=N".toList ++ List.replicate (Position.groupLimit + 1) '9' ++ " E0095943".toList

/-- A digit group that is too long is no line error that a run skips over. -/
theorem readLines_overlongPoint :
    let lines := ["TYPE=R".toList, "POINT=N533813 E0095943".toList, overlongPoint]
    (∀ line ∈ lines, Text.afterHead? line includeHead = none) ∧ Geodesy.still.Tessellates ∧
      readLines .still lines ≠ .ok (airspaces .still (lines.map Directive.ofLine)) := by
  intro lines
  refine ⟨by decide +kernel, Geodesy.still_total.tessellates, ?_⟩
  have broken : (readLines .still lines).toOption = none := by decide +kernel
  intro read
  rw [read] at broken
  cases broken

end Airspaces.Tnp
