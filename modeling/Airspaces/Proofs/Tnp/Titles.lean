import Airspaces.Proofs.Tnp.Records
import Airspaces.Proofs.Tnp.Rejection
/-! TNP records whose title stands before the line that opens them. A title names whatever is
handed out after it. That is the record that it stands before, if this one is a circle, but also
the polygon before it, which is handed out only when the next record is opened. -/
namespace Airspaces

variable {α : Type} [Scalar α]

/-- What a record hands out at its end has its name. -/
theorem Record.pending_names (r : Record α) :
    r.pending.map Airspace.name = List.replicate r.pending.length r.name := by
  unfold Record.pending Record.polygon
  split_ifs <;> rfl

namespace Tnp

/-- Keywords of lines that describe the open record. -/
def Keyword.describes : Keyword → Bool
  | classLetter | tops | base | radio | active => true
  | _ => false

def describes (line : Text) : Bool := (keyword? line).any fun (keyword, _) => keyword.describes

/-- Is the line a point that can be read? -/
def addsPoint (α : Type) [Scalar α] (line : Text) : Bool :=
  match keyword? line with
  | some (.point, value) => (Position.ofCompact (α := α) value).toOption.join.isSome
  | _ => false

/-- Is the line a circle that can be read? -/
def encircles (α : Type) [Scalar α] (line : Text) : Bool :=
  match keyword? line with
  | some (.circle, value) => (Directive.ofCircle (α := α) value).boundary? == some none
  | _ => false

/-- A record with its title before its type. It is a circle if it has a line for one, and else a
polygon. -/
structure Entry (α : Type) [Scalar α] where
  titleLine : Text
  title : Text
  typeLine : Text
  type : Text
  inner : List Text
  circle? : Option Text
  titled : keyword? titleLine = some (.title, title)
  typed : keyword? typeLine = some (.type, type)
  described : ∀ line ∈ inner, describes line = true ∨ addsPoint α line = true
  outlined : match circle? with
    | none => inner.any (addsPoint α) = true
    | some line => encircles α line = true

namespace Entry

/-- The lines of the record after its title. -/
def opened (e : Entry α) : List Text := e.typeLine :: (e.inner ++ e.circle?.toList)

def lines (e : Entry α) : List Text := e.titleLine :: e.opened

/-- The title of the record, and whether it is a circle. -/
def head (e : Entry α) : Text × Bool := (e.title, e.circle?.isSome)

end Entry

/-- The names that records with these titles get: a circle its own title, and a polygon that of
the next record, or its own if it is the last one. -/
def namesOf : List (Text × Bool) → List Text
  | [] => []
  | (title, round) :: rest =>
    (if round then title else (rest.head?.map (·.1)).getD title) :: namesOf rest

theorem namesOf_length (heads : List (Text × Bool)) : (namesOf heads).length = heads.length := by
  induction heads with
  | nil => rfl
  | cons first rest ih => rw [namesOf, List.length_cons, List.length_cons, ih]

/-- A circle has its own title. -/
theorem namesOf_circle {heads : List (Text × Bool)} {i : Nat} {title : Text}
    (round : heads[i]? = some (title, true)) : (namesOf heads)[i]? = some title := by
  induction heads generalizing i with
  | nil => cases round
  | cons first rest ih =>
    cases i with
    | zero =>
      cases round
      rfl
    | succ i => exact ih round

/-- A polygon has the title of the record after it. -/
theorem namesOf_polygon {heads : List (Text × Bool)} {i : Nat} {title : Text}
    {next : Text × Bool} (here : heads[i]? = some (title, false))
    (after : heads[i + 1]? = some next) : (namesOf heads)[i]? = some next.1 := by
  induction heads generalizing i with
  | nil => cases here
  | cons first rest ih =>
    cases i with
    | zero =>
      cases here
      have found : rest.head? = some next := by
        rw [List.head?_eq_getElem?]
        exact after
      simp [namesOf, found]
    | succ i => exact ih here after

section
variable {g : Geodesy α} {line : Text} {s : State α}

/-- No keyword line sets the switch. -/
theorem plain_of_keyword {found : Keyword × Text} (read : keyword? line = some found) :
    Text.afterHead? line includeHead = none := by
  have table : ∀ pair ∈ keywords, ¬ Text.upper pair.1 <+: Text.upper includeHead ∧
      ¬ Text.upper includeHead <+: Text.upper pair.1 := by decide
  obtain ⟨keyword, value⟩ := found
  obtain ⟨head, member, starts⟩ := keyword?_mem read
  exact Text.afterHead?_eq_none starts (table _ member)

theorem step_keyword {keyword : Keyword} {value : Text}
    (read : keyword? line = some (keyword, value)) (heard : s.ignoring = false) :
    step g line s =
      (keywordLine g keyword value line s.record).map fun r => { s with record := r } := by
  simp only [step, plain_of_keyword read, heard, read]
  rfl

theorem describes_iff :
    describes line = true ↔
      ∃ keyword value, keyword? line = some (keyword, value) ∧ keyword.describes = true := by
  rw [describes, Option.any_eq_true]
  exact Prod.exists

theorem addsPoint_iff :
    addsPoint α line = true ↔ ∃ value position, keyword? line = some (.point, value) ∧
      Position.ofCompact value = .ok (some (position : Position α)) := by
  constructor
  · intro added
    unfold addsPoint at added
    split at added
    · rename_i value read
      match compact : Position.ofCompact (α := α) value with
      | .ok (some position) => exact ⟨value, position, read, compact⟩
      | .ok none | .error f =>
        rw [compact] at added
        cases added
    · cases added
  · rintro ⟨value, position, read, compact⟩
    rw [addsPoint, read]
    dsimp only
    rw [compact]
    rfl

theorem encircles_iff :
    encircles α line = true ↔ ∃ value radius center, keyword? line = some (.circle, value) ∧
      Directive.ofCircle value = .circle (α := α) radius center := by
  constructor
  · intro round
    unfold encircles at round
    split at round
    · rename_i value read
      have closes := eq_of_beq round
      generalize directive : Directive.ofCircle (α := α) value = d at closes
      cases d with
      | circle radius center => exact ⟨value, radius, center, read, directive⟩
      | _ => cases closes
    · cases round
  · rintro ⟨value, radius, center, read, directive⟩
    rw [encircles, read]
    dsimp only
    rw [directive]
    rfl

theorem step_title (g : Geodesy α) {title : Text} (read : keyword? line = some (.title, title))
    (heard : s.ignoring = false) :
    step g line s = .leave { s with record := { s.record with name := title } } := by
  rw [step_keyword read heard]
  rfl

theorem step_type (g : Geodesy α) {type : Text} (read : keyword? line = some (.type, type))
    (heard : s.ignoring = false) :
    step g line s =
      { state := { s with record := s.record.start (typeOf type) }
        finished := s.record.pending } := by
  rw [step_keyword read heard]
  rfl

theorem step_circle (g : Geodesy α) (round : encircles α line = true) (heard : s.ignoring = false) :
    ∃ shape, step g line s =
      { state := { s with record := s.record.reset }
        finished := [s.record.airspace shape] } := by
  obtain ⟨value, radius, center, read, directive⟩ := encircles_iff.mp round
  have done := Directive.fill_ofCircle g line value s.record
  rw [directive] at done
  refine ⟨.circle center (LengthUnit.nauticalMiles.store radius), ?_⟩
  rw [step_keyword read heard]
  change (circleLine value line s.record).map _ = _
  rw [← done]
  rfl

/-- What a line inside a record leaves of it: its title, and the points that it has had. -/
structure Fills (α : Type) [Scalar α] (added : Bool) (r r' : Record α) : Prop where
  name : r'.name = r.name
  waiting : r'.waiting = r.waiting
  points : r'.points.isEmpty = (r.points.isEmpty && !added)

theorem keywordLine_fills (g : Geodesy α) {keyword : Keyword} (fits : keyword.describes = true)
    (value line : Text) (r : Record α) :
    ∃ r', keywordLine g keyword value line r = .leave r' ∧ Fills α false r r' := by
  have same : r.points.isEmpty = (r.points.isEmpty && !false) := (Bool.and_true _).symm
  cases keyword with
  | classLetter =>
    unfold keywordLine
    dsimp only
    split_ifs <;> exact ⟨_, rfl, rfl, rfl, same⟩
  | active =>
    unfold keywordLine
    dsimp only
    cases activityOf? value <;> exact ⟨_, rfl, rfl, rfl, same⟩
  | tops | base | radio => exact ⟨_, rfl, rfl, rfl, same⟩
  | _ => cases fits

/-- A line inside a record hands out nothing. -/
theorem step_inner (g : Geodesy α) (inner : describes line = true ∨ addsPoint α line = true)
    (heard : s.ignoring = false) :
    ∃ r, step g line s = .leave { s with record := r } ∧
      Fills α (addsPoint α line) s.record r := by
  cases added : addsPoint α line with
  | false =>
    rw [added] at inner
    obtain ⟨keyword, value, read, fits⟩ := describes_iff.mp (inner.resolve_right (by simp))
    obtain ⟨r, done, fills⟩ := keywordLine_fills g fits value line s.record
    refine ⟨r, ?_, fills⟩
    rw [step_keyword read heard, done]
    rfl
  | true =>
    obtain ⟨value, position, read, compact⟩ := addsPoint_iff.mp added
    refine ⟨s.record.addPoints [position], ?_, rfl, rfl, by simp [Record.addPoints]⟩
    rw [step_keyword read heard]
    simp only [keywordLine, pointLine, compact]
    rfl

theorem feed_inner (g : Geodesy α) {inner : List Text}
    (described : ∀ line ∈ inner, describes line = true ∨ addsPoint α line = true)
    (heard : s.ignoring = false) :
    ∃ r, feed (step g) s inner = .ok ({ s with record := r }, []) ∧
      Fills α (inner.any (addsPoint α)) s.record r := by
  induction inner generalizing s with
  | nil => exact ⟨s.record, rfl, rfl, rfl, (Bool.and_true _).symm⟩
  | cons line rest ih =>
    obtain ⟨r, done, now⟩ := step_inner g (described line List.mem_cons_self) heard
    obtain ⟨r', fed, later⟩ := ih (s := { s with record := r })
      (fun line member => described line (List.mem_cons_of_mem _ member)) heard
    refine ⟨r', ?_, later.name.trans now.name, later.waiting.trans now.waiting, ?_⟩
    · rw [feed_leave done, fed]
    · rw [later.points, now.points, List.any_cons, Bool.not_or, Bool.and_assoc]

/-- A record without its title hands out the polygon of the record before it, and itself if it is
a circle. Else its polygon is left to be handed out. All of them have the title that is met. -/
theorem Entry.feed_opened (g : Geodesy α) (e : Entry α) (heard : s.ignoring = false) :
    ∃ r out, feed (step g) s e.opened = .ok ({ s with record := r }, s.record.pending ++ out) ∧
      r.name = s.record.name ∧
      out.map Airspace.name = (if e.circle?.isSome then [s.record.name] else []) ∧
      r.pending.length = if e.circle?.isSome then 0 else 1 := by
  have typed := step_type g e.typed heard
  obtain ⟨r, fed, fills⟩ := feed_inner g e.described
    (s := { s with record := s.record.start (typeOf e.type) }) heard
  have opens : ∀ last out, feed (step g) { s with record := s.record.start (typeOf e.type) }
      (e.inner ++ e.circle?.toList) = .ok (last, out) →
        feed (step g) s e.opened = .ok (last, s.record.pending ++ out) := by
    intro last out later
    rw [opened, feed_cons_eq_ok, typed]
    exact ⟨rfl, out, later, rfl⟩
  have outlined := e.outlined
  cases shape : e.circle? with
  | none =>
    rw [shape] at outlined opens
    refine ⟨r, [], opens _ _ ?_, fills.name, rfl, ?_⟩
    · rw [Option.toList_none, List.append_nil]
      exact fed
    · have open_record : r.waiting = false := fills.waiting
      have drawn : r.points.isEmpty = false := by
        rw [fills.points, outlined, Bool.not_true, Bool.and_false]
      simp [Record.pending, Record.polygon, open_record, drawn]
  | some line =>
    rw [shape] at outlined opens
    obtain ⟨shape, done⟩ := step_circle g (s := { s with record := r }) outlined heard
    refine ⟨r.reset, [r.airspace shape], opens _ _ ?_, fills.name, ?_, rfl⟩
    · rw [Option.toList_some, feed_append fed, feed, done]
      rfl
    · exact congrArg (fun name => [name]) fills.name

/-- Records of which the first one comes without its title, and takes the one that is met. -/
theorem feed_entries (g : Geodesy α) (e : Entry α) (rest : List (Entry α))
    (heard : s.ignoring = false) :
    ∃ last out, feed (step g) s (e.opened ++ rest.flatMap Entry.lines) = .ok (last, out) ∧
      (out ++ last.record.pending).map Airspace.name =
        List.replicate s.record.pending.length s.record.name ++
          namesOf ((s.record.name, e.circle?.isSome) :: rest.map Entry.head) := by
  induction rest generalizing e s with
  | nil =>
    obtain ⟨r, out, fed, name, names, left⟩ := e.feed_opened g heard
    refine ⟨_, _, by rw [List.flatMap_nil, List.append_nil, fed], ?_⟩
    simp only [List.map_append, Record.pending_names, names, left, name]
    cases e.circle?.isSome <;> simp [namesOf]
  | cons e' rest ih =>
    obtain ⟨r, out, fed, name, names, left⟩ := e.feed_opened g heard
    -- The next title is met before the polygon of this record is handed out.
    have titled := step_title g (s := { s with record := r }) e'.titled heard
    obtain ⟨last, later, fed_rest, named⟩ :=
      ih (s := { s with record := { r with name := e'.title } }) e' heard
    have same : ({ r with name := e'.title } : Record α).pending.length = r.pending.length := by
      unfold Record.pending Record.polygon
      split_ifs <;> rfl
    refine ⟨last, s.record.pending ++ out ++ later, ?_, ?_⟩
    · rw [List.flatMap_cons, Entry.lines, feed_append fed, List.cons_append, feed_leave titled,
        fed_rest]
      rfl
    · rw [List.append_assoc, List.map_append, named, List.map_append, Record.pending_names, names]
      dsimp only
      rw [same, left]
      cases e.circle?.isSome <;> simp [namesOf, Entry.head]

end
end Tnp
end Airspaces
