import Airspaces.Proofs.OpenAir.Directive
import Airspaces.Proofs.Tessellation
/-! The airspaces of an OpenAir file, told from the history of its directives. A record
reaches from one boundary to the next: class, radio, points, center and sense of turning
come from the directives since the last boundary, name, base and top from the whole
history. -/
namespace Airspaces.OpenAir

open History

variable {α : Type} [Scalar α]

namespace Directive

/-- The class value of a boundary, which a circle does not have. -/
def boundary? : Directive α → Option (Option Text)
  | opens value => some (some value)
  | circle _ => some none
  | _ => none

def name? : Directive α → Option Text
  | name value => some value
  | _ => none

def base? : Directive α → Option (Altitude α)
  | base value => some (Altitude.read value)
  | _ => none

def top? : Directive α → Option (Altitude α)
  | top value => some (Altitude.read value)
  | _ => none

def radio? : Directive α → Option Text
  | radio value => some value
  | _ => none

def center? : Directive α → Option (Position α)
  | center position => some position
  | _ => none

def turn? : Directive α → Option Sense
  | turn sense => some sense
  | _ => none

end Directive

open Directive

def centerOf (window : List (Directive α)) : Position α := (latest? center? window).getD .origin

def senseOf (window : List (Directive α)) : Sense := (latest? turn? window).getD .clockwise

/-- The boundary points that a directive adds after those of its window. -/
def drawn (g : Geodesy α) (window : List (Directive α)) :
    Directive α → Except (Fault α) (List (Position α))
  | .point position => .ok [position]
  | .sector radius first last =>
    Arc.sector g (centerOf window) (LengthUnit.nauticalMiles.store radius) first last
      (senseOf window).rotation
  | .arc start stop => Arc.between g (centerOf window) start stop (senseOf window).rotation
  | .empty => .error .emptyLine
  | _ => .ok []

/-- The boundary points of a window, in the order of its directives. -/
def pointsOf (g : Geodesy α) (window : List (Directive α)) : List (Position α) :=
  accumulate (fun before d => (drawn g before d).toOption.getD []) window

/-- An airspace that is handed out after a history. -/
def airspaceOf (history : List (Directive α)) (shape : Shape α) : Airspace α :=
  { name := (latest? name? history).getD []
    airspaceClass := (opened? boundary? history).elim .other classOf
    base := (latest? base? history).getD .unset
    top := (latest? top? history).getD .unset
    radio := (latest? radio? (window boundary? history)).getD []
    activity := .everyday
    shape }

/-- The polygon of the open record. Without points there is none. -/
def polygonOf (g : Geodesy α) (history : List (Directive α)) : List (Airspace α) :=
  let points := pointsOf g (window boundary? history)
  if (opened? boundary? history).isNone || points.isEmpty then []
  else [airspaceOf history (.polygon points)]

/-- What a directive hands out: a class directive the polygon of the record before it, a
circle itself. -/
def handed (g : Geodesy α) (history : List (Directive α)) : Directive α → List (Airspace α)
  | .opens _ => polygonOf g history
  | .circle radius =>
    [airspaceOf history
      (.circle (centerOf (window boundary? history)) (LengthUnit.nauticalMiles.store radius))]
  | _ => []

/-- Why a directive cannot be carried out, if it cannot. -/
def fault? (g : Geodesy α) (history : List (Directive α)) (d : Directive α) : Option (Fault α) :=
  Fault.of? (drawn g (window boundary? history) d)

def airspaces (g : Geodesy α) (ds : List (Directive α)) : List (Airspace α) :=
  accumulate (handed g) ds ++ polygonOf g ds

def told (g : Geodesy α) (history : List (Directive α)) : Record α :=
  { name := (latest? name? history).getD []
    radio := (latest? radio? (window boundary? history)).getD []
    airspaceClass := (opened? boundary? history).elim .other classOf
    base := (latest? base? history).getD .unset
    top := (latest? top? history).getD .unset
    points := (pointsOf g (window boundary? history)).toArray
    center := centerOf (window boundary? history)
    rotation := (senseOf (window boundary? history)).rotation
    waiting := (opened? boundary? history).isNone }

/-- What lines hand out, and at their end the polygon of the record that is open. -/
def readLines (g : Geodesy α) (lines : List Text) : Except (Fault α) (List (Airspace α)) :=
  (feed (step g) .fresh lines).map fun (r, out) => out ++ r.pending

section
variable (g : Geodesy α) (history : List (Directive α))

theorem told_airspace (shape : Shape α) :
    (told g history).airspace shape = airspaceOf history shape := rfl

theorem told_pending : (told g history).pending = polygonOf g history := by
  simp only [Record.pending, Record.polygon, polygonOf, told_airspace]
  simp only [told, List.isEmpty_toArray]
  cases (opened? boundary? history).isNone <;> simp

/-- A class directive opens a record of its own. -/
theorem told_opens (value : Text) :
    told g (history ++ [.opens value]) = (told g history).start (classOf value) := by
  simp [told, Record.start, Record.reset, boundary?, name?, base?, top?, centerOf, senseOf,
    pointsOf, Sense.rotation]

theorem told_circle (radius : α) :
    told g (history ++ [.circle radius]) = (told g history).reset := by
  simp [told, Record.reset, boundary?, name?, base?, top?, centerOf, senseOf, pointsOf,
    Sense.rotation]

/-- What a directive inside a record changes. -/
theorem told_inner {d : Directive α} (inner : d.boundary? = none) :
    told g (history ++ [d]) =
      { told g history with
        name := d.name?.getD (told g history).name
        base := d.base?.getD (told g history).base
        top := d.top?.getD (told g history).top
        radio := d.radio?.getD (told g history).radio
        center := d.center?.getD (told g history).center
        rotation := (d.turn?.getD (senseOf (window boundary? history))).rotation
        points := (told g history).points ++
          (drawn g (window boundary? history) d).toOption.getD [] } := by
  have outer := opened?_inner history inner
  simp [told, outer, inner, centerOf, senseOf, pointsOf, Option.getD_or]

/-- The history as an account of the dialect's runs. -/
def account : Account α (Record α) (Directive α) where
  fault? := fault? g
  handed := handed g
  Agrees history r := r = told g history

variable {g history}

theorem covers_curve {d : Directive α} {curve : Except (Fault α) (List (Position α))}
    (quiet : handed g history d = []) (draws : drawn g (window boundary? history) d = curve)
    (same : told g (history ++ [d]) = (told g history).addPoints (curve.toOption.getD [])) :
    (account g).Covers history d (addCurve (told g history) curve) := by
  have fault : fault? g history d = Fault.of? curve := congrArg Fault.of? draws
  cases curve with
  | ok points => exact Account.covers_of_sound fault rfl quiet.symm same.symm
  | error f => exact Account.covers_fault fault rfl

/-- A directive does to the record what its history says. -/
theorem perform_covers (line : Text) (d : Directive α) :
    (account g).Covers history d (d.perform g line (told g history)) := by
  cases d with
  | opens value =>
    exact Account.covers_of_sound rfl rfl (told_pending g history) (told_opens g history value).symm
  | circle radius => exact Account.covers_of_sound rfl rfl rfl (told_circle g history radius).symm
  | sector radius first last => exact covers_curve rfl rfl (told_inner g history rfl)
  | arc start stop => exact covers_curve rfl rfl (told_inner g history rfl)
  | empty => exact Account.covers_fault rfl rfl
  | _ => exact Account.covers_of_sound rfl rfl rfl (Eq.symm (told_inner g history rfl))

end

/-- A run is told by its history, or broken off by the first directive that cannot be
carried out. -/
theorem readLines_eq (g : Geodesy α) (lines : List Text) :
    readLines g lines =
      match first? (fault? g) (lines.map Directive.ofLine) with
      | some f => .error f
      | none => .ok (airspaces g (lines.map Directive.ofLine)) := by
  apply (account g).feed_closed Directive.ofLine (step g) lines Record.pending (polygonOf g)
  · rintro history _ rfl
    exact told_pending g history
  · rfl
  · rintro line _ history _ rfl
    rw [← perform_ofLine]
    exact perform_covers line (.ofLine line)

/-- Only lines without characters and curves without points are faults. -/
theorem fault?_eq_none (g : Geodesy α) (tessellates : g.Tessellates) (history : List (Directive α))
    {d : Directive α} (filled : d ≠ .empty) : fault? g history d = none := by
  cases d with
  | sector radius first last =>
    obtain ⟨points, drawn⟩ := tessellates.sector (centerOf (window boundary? history))
      (LengthUnit.nauticalMiles.store radius) first last (senseOf (window boundary? history))
    exact congrArg Fault.of? drawn
  | arc start stop =>
    obtain ⟨points, drawn⟩ := tessellates.between (centerOf (window boundary? history)) start stop
      (senseOf (window boundary? history))
    exact congrArg Fault.of? drawn
  | empty => exact absurd rfl filled
  | _ => rfl

/-- The airspaces of a file are those that the history of its directives tells: at each
circle the circle itself, and at each class directive and at the end of the file the polygon
of the record that is open, if it has points. A run has no other outcome than this one or
the fault of the first line that is empty or asks for a curve without points; with
characters in every line and points for every curve there is no such line. -/
theorem airspaces_of_lines (g : Geodesy α) (lines : List Text) :
    (readLines g lines =
      match first? (fault? g) (lines.map Directive.ofLine) with
      | some f => .error f
      | none => .ok (airspaces g (lines.map Directive.ofLine))) ∧
    (g.Tessellates → (∀ line ∈ lines, line ≠ []) →
      readLines g lines = .ok (airspaces g (lines.map Directive.ofLine))) := by
  refine ⟨readLines_eq g lines, ?_⟩
  intro tessellates filled
  have sound : first? (fault? g) (lines.map Directive.ofLine) = none := by
    apply first?_eq_none
    intro before d member
    obtain ⟨line, listed, rfl⟩ := List.mem_map.mp member
    exact fault?_eq_none g tessellates before (ofLine_ne_empty (filled line listed))
  rw [readLines_eq, sound]

/-- Points are drawn around the center that the record gives, and kept as they stand on `DP` lines.
Neither the radio nor the center goes over into the next record, but the name and the top do. -/
theorem airspaces_of_sector_and_circle :
    let lines := [
      "AC R".toList,
      "AN ED-R 123".toList,
      "ah FL100".toList,
      "AR 123.450".toList,
      "V X=53:20:00 N 010:00:00 E".toList,
      "DA 5,0,90".toList,
      "V D=-".toList,
      "DB 53:13:00 N 008:47:00 E,53:03:00 N 008:57:00 E".toList,
      "DP garbage".toList,
      "DP 53:30:00 N 010:15:00 E".toList,
      "AC Q".toList,
      "AR".toList,
      "ANED-Q 7".toList,
      "DC 2.5".toList]
    let read := (readLines .still lines).toOption.getD []
    readLines .still lines = .ok (airspaces .still (lines.map Directive.ofLine)) ∧
      read.map (fun a => (a.name, a.airspaceClass, a.radio)) =
        [("ED-R 123".toList, .restricted, "123.450".toList), ("ED-R 123".toList, .danger, [])] ∧
      read.map (·.activity.days) = [[0, 1, 2, 3, 4, 5, 6], [0, 1, 2, 3, 4, 5, 6]] ∧
      read.map (fun a => (a.base.datum, a.top.datum, a.top.level)) =
        [(.undefined, .standard, 100), (.undefined, .standard, 100)] ∧
      read.map (fun a => a.shape.points.getLast?.map fun p => (p.latitude, p.longitude)) =
        [some (53 + 1 / 2, 10 + 1 / 4), none] ∧
      read.map (·.shape.points.length) = [22, 0] ∧
      read.map (·.shape == .circle .origin 4630) = [false, true] := by
  intro lines read
  have filled : ∀ line ∈ lines, line ≠ [] := by decide +kernel
  refine ⟨(airspaces_of_lines .still lines).2 Geodesy.still_total.tessellates filled, ?_⟩
  decide +kernel

end Airspaces.OpenAir
