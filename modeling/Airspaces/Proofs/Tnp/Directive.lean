import Airspaces.Dialect.Tnp
import Airspaces.Proofs.Curves
import Airspaces.Proofs.Feed
import Airspaces.Proofs.Text.Head
/-! What a TNP line says, whatever record it meets. Reading a line and doing what it says is
one step of the dialect, so that every law about steps is a law about directives. -/
namespace Airspaces.Tnp

variable {α : Type} [Scalar α]

/-- Why a part of a line cannot be read. -/
inductive Obstacle (α : Type) where
  | cause (cause : LineCause)
  | fault (f : Fault α)

inductive Directive (α : Type) [Scalar α] where
  | switch (value : Text)
  | opens (value : Text)
  | classLetter (value : Text)
  | title (value : Text)
  | tops (value : Text)
  | base (value : Text)
  | radio (value : Text)
  | active (activity : Activity)
  | point (position : Position α)
  /-- The radius is in nautical miles. -/
  | circle (radius : α) (center : Position α)
  /-- The course is center and end. It is not looked at without a point to start from. -/
  | arc (sense : Sense) (course : Except (Obstacle α) (Position α × Position α))
  | unreadable (obstacle : Obstacle α)
  /-- A line that is passed over. -/
  | idle

def positionOf (t : Text) (cause : LineCause) : Except (Obstacle α) (Position α) :=
  match Position.ofCompact t with
  | .error f => .error (.fault f)
  | .ok none => .error (.cause cause)
  | .ok (some position) => .ok position

def courseOf (t : Text) : Except (Obstacle α) (Position α × Position α) :=
  match afterSpacedHead? centreHead t with
  | none => .error (.cause .missingArcCentre)
  | some parameter =>
    match positionOf parameter .malformedArcCenter with
    | .error obstacle => .error obstacle
    | .ok center =>
      match target? parameter with
      | none => .error (.cause .missingArcTarget)
      | some parameter =>
        match positionOf parameter .malformedArcEnd with
        | .error obstacle => .error obstacle
        | .ok stop => .ok (center, stop)

namespace Directive

def ofPoint (t : Text) : Directive α :=
  match positionOf t .malformedPoint with
  | .error obstacle => unreadable obstacle
  | .ok position => point position

def ofCircle (t : Text) : Directive α :=
  match Text.afterHead? t radiusHead with
  | none => unreadable (.cause .missingCircleRadius)
  | some parameter =>
    match Numeral.scan? parameter with
    | none => unreadable (.cause .malformedCircleRadius)
    | some (radius, _) =>
      match afterSpacedHead? centreHead parameter with
      | none => unreadable (.cause .missingCircleCentre)
      | some parameter =>
        match positionOf parameter .malformedCircleCenter with
        | .error obstacle => unreadable obstacle
        | .ok center => circle radius center

/-- The days of a word in any case. Any other word changes nothing. -/
def ofActive (value : Text) : Directive α :=
  let word := Text.upper value
  if word = ['W', 'E', 'E', 'K', 'E', 'N', 'D'] then active .weekend
  else if word = ['W', 'E', 'E', 'K', 'D', 'A', 'Y'] then active .weekdays
  else if word = ['E', 'V', 'E', 'R', 'Y', 'D', 'A', 'Y'] then active .everyday
  else idle

/-- The heads of lines, and what each tells of the rest of its line. -/
def heads : List (Text × (Text → Directive α)) := [
  (['I', 'N', 'C', 'L', 'U', 'D', 'E', '='], switch),
  (['P', 'O', 'I', 'N', 'T', '='], ofPoint),
  (['C', 'I', 'R', 'C', 'L', 'E', ' '], ofCircle),
  (['C', 'L', 'O', 'C', 'K', 'W', 'I', 'S', 'E', ' '], fun t => arc .clockwise (courseOf t)),
  (['A', 'N', 'T', 'I', '-', 'C', 'L', 'O', 'C', 'K', 'W', 'I', 'S', 'E', ' '],
    fun t => arc .counterClockwise (courseOf t)),
  (['T', 'I', 'T', 'L', 'E', '='], title),
  (['T', 'Y', 'P', 'E', '='], opens),
  (['C', 'L', 'A', 'S', 'S', '='], classLetter),
  (['T', 'O', 'P', 'S', '='], tops),
  (['B', 'A', 'S', 'E', '='], base),
  (['R', 'A', 'D', 'I', 'O', '='], radio),
  (['A', 'C', 'T', 'I', 'V', 'E', '='], ofActive)]

/-- What a line says by its head, which stands in either case. -/
def ofLine (line : Text) : Directive α :=
  (heads.findSome? fun entry => (Text.afterHead? line entry.1).map entry.2).getD idle

/-- What a keyword of the dialect tells of its value. -/
def ofKeyword (keyword : Keyword) (value : Text) : Directive α :=
  match keyword with
  | .point => ofPoint value
  | .circle => ofCircle value
  | .clockwise => arc .clockwise (courseOf value)
  | .antiClockwise => arc .counterClockwise (courseOf value)
  | .title => title value
  | .type => opens value
  | .classLetter => classLetter value
  | .tops => tops value
  | .base => base value
  | .radio => radio value
  | .active => ofActive value

theorem ofActive_eq (value : Text) :
    (ofActive value : Directive α) = (activityOf? value).elim idle active := by
  unfold ofActive activityOf?
  generalize Text.upper value = word
  dsimp only
  split_ifs with weekend weekday everyday
  · rw [weekend]
    rfl
  · rw [weekday]
    rfl
  · rw [everyday]
    rfl
  · have unlisted : activities.lookup word = none := by
      rw [List.lookup_eq_none_iff]
      simp [activities, weekend, weekday, everyday]
    rw [unlisted]
    rfl

/-- The heads are the switch and the keywords of the dialect. -/
theorem heads_eq :
    (heads : List (Text × (Text → Directive α))) =
      (includeHead, switch) :: keywords.map fun (head, keyword) => (head, ofKeyword keyword) :=
  rfl

theorem ofLine_eq (line : Text) :
    (ofLine line : Directive α) =
      match Text.afterHead? line includeHead with
      | some value => switch value
      | none =>
        match keyword? line with
        | none => idle
        | some (keyword, value) => ofKeyword keyword value := by
  have told : ((keywords.map fun (head, keyword) => (head, ofKeyword keyword)).findSome?
      fun entry => (Text.afterHead? line entry.1).map entry.2) =
        (keyword? line).map fun found => (ofKeyword found.1 found.2 : Directive α) := by
    rw [keyword?, List.map_findSome?, List.findSome?_map]
    congr 1
    funext entry
    exact (Option.map_map (fun found => (ofKeyword found.1 found.2 : Directive α)) (entry.2, ·)
      (Text.afterHead? line entry.1)).symm
  rw [ofLine, heads_eq, List.findSome?_cons, told]
  cases Text.afterHead? line includeHead with
  | some value => rfl
  | none => cases keyword? line <;> rfl

/-- No head starts like another one, so that a line tells what its only head does. -/
theorem ofLine_of_head {line head value : Text} {tells : Text → Directive α}
    (listed : (head, tells) ∈ heads) (starts : Text.afterHead? line head = some value) :
    ofLine line = tells value := by
  have apart : ((heads : List (Text × (Text → Directive α))).map Prod.fst).Pairwise fun h h' =>
      ¬ Text.upper h <+: Text.upper h' ∧ ¬ Text.upper h' <+: Text.upper h := by
    change (includeHead :: keywords.map Prod.fst).Pairwise _
    decide
  have found := Text.findSome?_of_head apart listed starts id
  dsimp only [id] at found
  rw [ofLine, found, Option.getD_some]

example (value : Text) :
    (ofLine ('R' :: 'a' :: 'd' :: 'i' :: 'o' :: '=' :: value) : Directive α) = radio value := rfl

end Directive

/-- A line that stops at an obstacle. -/
def halt (r : Record α) (line : Text) : Obstacle α → Step α (Record α)
  | .cause cause => .reject r cause line
  | .fault f => .crash r f

/-- An arc from the last point, in a record that has its sense. -/
def drawArc (g : Geodesy α) (line : Text) (r : Record α)
    (course : Except (Obstacle α) (Position α × Position α)) : Step α (Record α) :=
  match r.lastPoint? with
  | none => .reject r .arcWithoutPoint line
  | some start =>
    match course with
    | .error obstacle => halt r line obstacle
    | .ok (center, stop) =>
      match Arc.between g center start stop r.rotation with
      | .error f => .crash { r with center } f
      | .ok points => .leave ({ r with center }.addPoints points)

@[simp] theorem halt_state (r : Record α) (line : Text) (obstacle : Obstacle α) :
    (halt r line obstacle).state = r := by
  cases obstacle <;> rfl

@[simp] theorem halt_finished (r : Record α) (line : Text) (obstacle : Obstacle α) :
    (halt r line obstacle).finished = [] := by
  cases obstacle <;> rfl

/-- All that an arc can come to: an obstacle, which is a fault only if its course is one, or a
curve that has points or has none. -/
theorem drawArc_cases (g : Geodesy α) (line : Text) (r : Record α)
    (course : Except (Obstacle α) (Position α × Position α)) :
    (∃ obstacle, drawArc g line r course = halt r line obstacle ∧
      ∀ f, obstacle = .fault f → course = .error (.fault f)) ∨
    (∃ center points, drawArc g line r course = .leave ({ r with center }.addPoints points)) ∨
    ∃ center start stop f, drawArc g line r course = .crash { r with center } f ∧
      Arc.between g center start stop r.rotation = .error f := by
  unfold drawArc
  cases r.lastPoint? with
  | none => exact .inl ⟨.cause .arcWithoutPoint, rfl, by nofun⟩
  | some start =>
    cases course with
    | error obstacle => exact .inl ⟨obstacle, rfl, by rintro f rfl; rfl⟩
    | ok route =>
      obtain ⟨center, stop⟩ := route
      dsimp only
      cases curve : Arc.between g center start stop r.rotation with
      | error f => exact .inr (.inr ⟨center, start, stop, f, rfl, curve⟩)
      | ok points => exact .inr (.inl ⟨center, points, rfl⟩)

namespace Directive

/-- What a directive does to the record. The line is there for its error only. -/
def fill (g : Geodesy α) (line : Text) (r : Record α) : Directive α → Step α (Record α)
  | switch _ | idle => .leave r
  | opens value => { state := r.start (typeOf value), finished := r.pending }
  | classLetter value =>
    if r.airspaceClass = .other then .leave { r with airspaceClass := classOf value }
    else .leave r
  | title value => .leave { r with name := value }
  | tops value => .leave { r with top := Altitude.read value }
  | base value => .leave { r with base := Altitude.read value }
  | radio value => .leave { r with radio := value }
  | active activity => .leave { r with activity }
  | point position => .leave (r.addPoints [position])
  | circle radius center =>
    { state := r.reset
      finished := [r.airspace (.circle center (LengthUnit.nauticalMiles.store radius))] }
  | arc sense course => drawArc g line { r with rotation := sense.rotation } course
  | unreadable obstacle => halt r line obstacle

/-- What a directive does to the record and the switch. Lines that are passed over do
nothing, unless they set the switch. -/
def perform (g : Geodesy α) (line : Text) (s : State α) : Directive α → Step α (State α)
  | switch value => .leave { s with ignoring := ignoringAfter value s.ignoring }
  | d => if s.ignoring then .leave s else (d.fill g line s.record).map fun r => { s with record := r }

variable (g : Geodesy α) (line : Text)

theorem fill_ofPoint (t : Text) (r : Record α) :
    (ofPoint t).fill g line r = pointLine t line r := by
  unfold ofPoint pointLine positionOf
  match Position.ofCompact (α := α) t with
  | .error f => rfl
  | .ok none => rfl
  | .ok (some position) => rfl

theorem fill_ofCircle (t : Text) (r : Record α) :
    (ofCircle t).fill g line r = circleLine t line r := by
  unfold ofCircle circleLine positionOf
  cases Text.afterHead? t radiusHead with
  | none => rfl
  | some parameter =>
    dsimp only
    cases Numeral.scan? (α := α) parameter with
    | none => rfl
    | some scanned =>
      cases afterSpacedHead? centreHead parameter with
      | none => rfl
      | some parameter =>
        dsimp only
        match Position.ofCompact (α := α) parameter with
        | .error f => rfl
        | .ok none => rfl
        | .ok (some center) => rfl

theorem drawArc_courseOf (t : Text) (r : Record α) :
    drawArc g line r (courseOf t) = arcLine g t line r := by
  unfold drawArc arcLine courseOf positionOf
  cases r.lastPoint? with
  | none => rfl
  | some start =>
    cases afterSpacedHead? centreHead t with
    | none => rfl
    | some parameter =>
      dsimp only
      match Position.ofCompact (α := α) parameter with
      | .error f => rfl
      | .ok none => rfl
      | .ok (some center) =>
        cases target? parameter with
        | none => rfl
        | some parameter =>
          dsimp only
          match Position.ofCompact (α := α) parameter with
          | .error f => rfl
          | .ok none => rfl
          | .ok (some stop) => rfl

theorem fill_ofKeyword (keyword : Keyword) (value : Text) (r : Record α) :
    (ofKeyword keyword value).fill g line r = keywordLine g keyword value line r := by
  cases keyword with
  | point => exact fill_ofPoint g line value r
  | circle => exact fill_ofCircle g line value r
  | clockwise => exact drawArc_courseOf g line value { r with rotation := 1 }
  | antiClockwise => exact drawArc_courseOf g line value { r with rotation := -1 }
  | active =>
    dsimp only [ofKeyword, keywordLine]
    rw [ofActive_eq]
    cases activityOf? value <;> rfl
  | _ => rfl

/-- Only an `INCLUDE=` line sets the switch. -/
theorem ofKeyword_ne_switch (keyword : Keyword) (value word : Text) :
    ofKeyword keyword value ≠ (switch word : Directive α) := by
  cases keyword with
  | point =>
    dsimp only [ofKeyword, ofPoint]
    split <;> nofun
  | circle =>
    dsimp only [ofKeyword, ofCircle]
    repeat' split
    all_goals nofun
  | active =>
    rw [ofKeyword, ofActive_eq]
    cases activityOf? value <;> nofun
  | _ => nofun

theorem ofLine_ne_switch {line : Text} (plain : Text.afterHead? line includeHead = none)
    (word : Text) : ofLine line ≠ (switch word : Directive α) := by
  rw [ofLine_eq, plain]
  cases keyword? line with
  | none => nofun
  | some found => exact ofKeyword_ne_switch found.1 found.2 word

theorem perform_of_ne_switch {d : Directive α} (plain : ∀ word, d ≠ switch word) (s : State α) :
    d.perform g line s =
      if s.ignoring then .leave s
      else (d.fill g line s.record).map fun r => { s with record := r } := by
  cases d with
  | switch word => exact absurd rfl (plain word)
  | _ => rfl

/-- A directive sets the switch at most, or it does to the record what it says. -/
theorem perform_cases (d : Directive α) (s : State α) :
    (∃ ignoring, d.perform g line s = .leave { s with ignoring }) ∨
      d.perform g line s = (d.fill g line s.record).map fun r => { s with record := r } := by
  by_cases switches : ∃ word, d = switch word
  · obtain ⟨word, rfl⟩ := switches
    exact .inl ⟨_, rfl⟩
  · have plain : ∀ word, d ≠ switch word := fun word same => switches ⟨word, same⟩
    rw [perform_of_ne_switch g line plain]
    split_ifs
    · exact .inl ⟨s.ignoring, rfl⟩
    · exact .inr rfl

/-- A step of the dialect reads a line and does what it says. -/
theorem perform_ofLine (s : State α) : (ofLine line).perform g line s = step g line s := by
  rw [ofLine_eq]
  unfold step
  cases Text.afterHead? line includeHead with
  | some value => rfl
  | none =>
    cases keyword? line with
    | none =>
      dsimp only [perform, fill]
      split_ifs <;> rfl
    | some found =>
      obtain ⟨keyword, value⟩ := found
      rw [perform_of_ne_switch g line (ofKeyword_ne_switch keyword value), fill_ofKeyword]

end Directive
end Airspaces.Tnp
