import Airspaces.Proofs.File.Pipeline
import Airspaces.Proofs.File.Skipping
import Airspaces.Proofs.File.Stopping
import Airspaces.Proofs.Tnp.Titles
import Mathlib.Data.List.Infix
/-! TNP files whose titles stand before the lines that open records. Each record is handed out,
but what its title ends up on depends on which records are circles, and on whether the kind of the
file is told before the first title. -/
namespace Airspaces

variable {α : Type} [Scalar α] {g : Geodesy α} {line : Text}

/-- What a line starts with in capitals that tells of OpenAir. -/
theorem FileKind.upper_of_openAir (detected : FileKind.detect line = .openAir) :
    (Text.upper line).take 3 = ['A', 'C'] ∨ (Text.upper line).take 3 = ['A', 'C', ' '] := by
  have space : Text.capital ' ' = [' '] := by decide
  obtain ⟨rest, value, starts, spaced⟩ := FileKind.detect_openAir_iff.mp detected
  rw [Text.upper_parts starts]
  unfold OpenAir.value? at spaced
  split at spaced
  · exact .inl rfl
  · rename_i rest
    have capitals : Text.upper (' ' :: rest) = ' ' :: Text.upper rest := by
      rw [Text.upper, List.flatMap_cons, space]
      rfl
    rw [capitals]
    exact .inr rfl
  · cases spaced

namespace Tnp

/-- No keyword line tells of OpenAir. -/
theorem detect_of_keyword {found : Keyword × Text} (read : keyword? line = some found) :
    FileKind.detect line ≠ .openAir := by
  have table : ∀ pair ∈ keywords, ¬ (Text.upper pair.1).take 3 <+: ['A', 'C'] ∧
      ¬ (Text.upper pair.1).take 3 <+: ['A', 'C', ' '] := by decide
  obtain ⟨keyword, value⟩ := found
  obtain ⟨head, member, starts⟩ := keyword?_mem read
  have first : (Text.upper head).take 3 <+: (Text.upper line).take 3 :=
    (Text.upper_startsWith starts).take 3
  intro detected
  obtain short | long := FileKind.upper_of_openAir detected
  · rw [short] at first
    exact (table _ member).1 first
  · rw [long] at first
    exact (table _ member).2 first

theorem detect_of_type {type : Text} (read : keyword? line = some (.type, type)) :
    FileKind.detect line = .tnp := by
  obtain ⟨head, member, starts⟩ := keyword?_mem read
  have only : head = ['T', 'Y', 'P', 'E', '='] := by simpa [keywords] using member
  rw [only] at starts
  exact FileKind.detect_tnp_iff.mpr (.inr ⟨type, starts⟩)

theorem detect_of_include {value : Text} (switches : Text.afterHead? line includeHead = some value) :
    FileKind.detect line = .tnp := FileKind.detect_tnp_iff.mpr (.inl ⟨value, switches⟩)

/-- A title tells nothing of the kind of the file. -/
theorem detect_of_title {title : Text} (read : keyword? line = some (.title, title)) :
    FileKind.detect line = .unknown := by
  obtain ⟨head, member, starts⟩ := keyword?_mem read
  have only : head = ['T', 'I', 'T', 'L', 'E', '='] := by simpa [keywords] using member
  rw [only] at starts
  have switch : Text.afterHead? line ['I', 'N', 'C', 'L', 'U', 'D', 'E', '='] = none :=
    Text.afterHead?_eq_none starts (by decide)
  have type : Text.afterHead? line ['T', 'Y', 'P', 'E', '='] = none :=
    Text.afterHead?_eq_none starts (by decide)
  have class_directive : Text.afterHead? line ['A', 'C'] = none :=
    Text.afterHead?_eq_none starts (by decide)
  rw [FileKind.detect, switch, type, class_directive]
  rfl

/-- The line is read without an error, and lines are heard after it as they are before. -/
structure Orderly (g : Geodesy α) (line : Text) : Prop where
  kind : FileKind.detect line ≠ .openAir
  step {s : State α} (heard : s.ignoring = false) :
    (step g line s).rejects = false ∧ (step g line s).state.ignoring = false

theorem orderly_inner (inner : describes line = true ∨ addsPoint α line = true) :
    Orderly g line where
  kind := by
    obtain told | added := inner
    · obtain ⟨keyword, value, read, _⟩ := describes_iff.mp told
      exact detect_of_keyword read
    · obtain ⟨value, position, read, _⟩ := addsPoint_iff.mp added
      exact detect_of_keyword read
  step heard := by
    obtain ⟨r, done, _⟩ := step_inner g inner heard
    rw [done]
    exact ⟨rfl, heard⟩

theorem orderly_circle (round : encircles α line = true) : Orderly g line where
  kind := by
    obtain ⟨value, radius, center, read, _⟩ := encircles_iff.mp round
    exact detect_of_keyword read
  step heard := by
    obtain ⟨shape, done⟩ := step_circle g round heard
    rw [done]
    exact ⟨rfl, heard⟩

theorem orderly_title {title : Text} (read : keyword? line = some (.title, title)) :
    Orderly g line where
  kind := detect_of_keyword read
  step heard := by
    rw [step_title g read heard]
    exact ⟨rfl, heard⟩

theorem orderly_type {type : Text} (read : keyword? line = some (.type, type)) :
    Orderly g line where
  kind := detect_of_keyword read
  step heard := by
    rw [step_type g read heard]
    exact ⟨rfl, heard⟩

/-- A line that has the lines after it read. -/
def Includes (line : Text) : Prop :=
  ∃ value, Text.afterHead? line includeHead = some value ∧ Text.upper value = ['Y', 'E', 'S']

theorem Includes.step_eq (g : Geodesy α) (includes : Includes line) {s : State α}
    (heard : s.ignoring = false) : step g line s = .leave s := by
  obtain ⟨value, switches, yes⟩ := includes
  have same : ignoringAfter value s.ignoring = s.ignoring := by
    rw [ignoringAfter, if_pos yes, heard]
  rw [step, switches]
  dsimp only
  rw [same]

theorem Includes.orderly (includes : Includes line) : Orderly g line where
  kind := by
    obtain ⟨value, switches, _⟩ := includes
    rw [detect_of_include switches]
    nofun
  step heard := by
    rw [includes.step_eq g heard]
    exact ⟨rfl, heard⟩

theorem Entry.orderly (e : Entry α) : ∀ line ∈ e.lines, Orderly g line := by
  intro line member
  simp only [Entry.lines, Entry.opened, List.mem_cons, List.mem_append, Option.mem_toList] at member
  obtain rfl | rfl | inner | round := member
  · exact orderly_title e.titled
  · exact orderly_type e.typed
  · exact orderly_inner (e.described line inner)
  · have outlined := e.outlined
    rw [Option.mem_def.mp round] at outlined
    exact orderly_circle outlined

end Tnp

namespace Cursor

/-- The cursor is not that of an OpenAir file, and the next line is heard. -/
def Hears (c : Cursor α) : Prop := c.kind ≠ .openAir ∧ c.state.ignoring = false

theorem Hears.take {c : Cursor α} {raw : Text} (hears : c.Hears)
    (orderly : stripComment raw ≠ [] → Tnp.Orderly g (stripComment raw)) :
    (take g raw c).rejects = false ∧ (take g raw c).state.Hears := by
  unfold Cursor.take
  split_ifs with blank
  · exact ⟨rfl, hears⟩
  · obtain ⟨kind, state⟩ := c
    obtain ⟨other, heard⟩ := hears
    have orderly := orderly (by simpa using blank)
    have known : kindAfter (stripComment raw) kind ≠ .openAir := by
      unfold kindAfter
      split_ifs
      · exact orderly.kind
      · exact other
    unfold read
    dsimp only
    cases told : kindAfter (stripComment raw) kind with
    | unknown => exact ⟨rfl, nofun, heard⟩
    | openAir => exact absurd told known
    | tnp =>
      obtain ⟨accepted, goes_on⟩ := orderly.step heard
      exact ⟨accepted, nofun, goes_on⟩

/-- No line is bad that is read without an error by a TNP file. -/
theorem badLines_orderly {raws : List Text}
    (orderly : ∀ line ∈ significant raws, Tnp.Orderly g line) :
    ({} : Cursor α).badLines g 1 raws = [] := by
  have reads : ∀ raw ∈ raws, stripComment raw ≠ [] → Tnp.Orderly g (stripComment raw) := by
    intro raw member filled
    apply orderly
    rw [significant, List.mem_filter]
    exact ⟨List.mem_map_of_mem member, by simpa using filled⟩
  apply badLines_eq_nil
  intro met member
  have start : ({} : Cursor α).Hears := by
    constructor
    · intro known
      cases known
    · rfl
  obtain ⟨hears, listed⟩ := encounters_keep start
    (fun c raw listed hears => (hears.take (reads raw listed)).2) met member
  exact (hears.take (reads met.2 listed)).1

end Cursor
namespace Tnp

/-- The titles of records as they are heard: the first one is not, if nothing before it tells the
kind of the file. -/
def heard (first : Option Text) (entries : List (Entry α)) : List (Text × Bool) :=
  if first.isSome then entries.map Entry.head
  else (entries.map Entry.head).modifyHead fun (_, round) => ([], round)

theorem heard_length (first : Option Text) (entries : List (Entry α)) :
    (heard first entries).length = entries.length := by
  unfold heard
  split_ifs <;> simp

/-- All that is not heard of a record is its title. -/
theorem heard_getElem? (first : Option Text) {entries : List (Entry α)} {i : Nat} {e : Entry α}
    (listed : entries[i]? = some e) :
    ∃ title, (heard first entries)[i]? = some (title, e.circle?.isSome) ∧
      (first.isSome = true ∨ 0 < i → title = e.title) := by
  unfold heard
  split_ifs with included
  · refine ⟨e.title, ?_, fun _ => rfl⟩
    rw [List.getElem?_map, listed]
    rfl
  · rw [List.getElem?_modifyHead, List.getElem?_map, listed]
    split_ifs with start
    · exact ⟨[], rfl, fun told => absurd start (Nat.ne_of_gt (told.resolve_left included))⟩
    · exact ⟨e.title, rfl, fun _ => rfl⟩

/-- What records hand out whose titles are all heard. -/
theorem feed_heard (g : Geodesy α) (entries : List (Entry α)) :
    ∃ last out, feed (step g) {} (entries.flatMap Entry.lines) = .ok (last, out) ∧
      (out ++ last.record.pending).map Airspace.name = namesOf (entries.map Entry.head) := by
  cases entries with
  | nil => exact ⟨{}, [], rfl, rfl⟩
  | cons e rest =>
    have titled := step_title (α := α) g (s := {}) e.titled rfl
    obtain ⟨last, out, fed, names⟩ :=
      feed_entries g (s := { record := { name := e.title } }) e rest rfl
    refine ⟨last, out, ?_, names⟩
    rw [List.flatMap_cons, Entry.lines, List.cons_append, feed_leave titled]
    exact fed

end Tnp

/-- A file of records hands out airspaces with the names of the titles that are heard. -/
theorem Cursor.feed_records (g : Geodesy α) {raws : List Text} {first : Option Text}
    {entries : List (Tnp.Entry α)} (included : ∀ line ∈ first, Tnp.Includes line)
    (lines : significant raws = first.toList ++ entries.flatMap Tnp.Entry.lines) :
    ∃ c out failure last, feed (Cursor.take g) {} raws = .ok (c, out) ∧
      c.finish .finished = .ok (failure, last) ∧
      (out ++ last).map Airspace.name = Tnp.namesOf (Tnp.heard first entries) := by
  rw [Cursor.feed_dialect]
  cases first with
  | some line =>
    have includes := included line rfl
    obtain ⟨value, switches, _⟩ := id includes
    have kind := Tnp.detect_of_include switches
    have told : dialectLines raws = line :: entries.flatMap Tnp.Entry.lines := by
      rw [dialectLines, lines]
      simp [kind]
    obtain ⟨last, out, fed, names⟩ := Tnp.feed_heard g entries
    have whole : feed (Ledger.stepOf g .tnp) {} (line :: entries.flatMap Tnp.Entry.lines) =
        .ok (last, out) := (feed_leave (includes.step_eq g rfl) _).trans fed
    refine ⟨⟨.tnp, last⟩, out, none, last.record.pending, ?_, rfl, names⟩
    rw [told]
    dsimp only
    rw [kind, whole]
    rfl
  | none =>
    cases entries with
    | nil =>
      have told : dialectLines raws = [] := by
        rw [dialectLines, lines]
        rfl
      rw [told]
      exact ⟨{}, [], _, [], rfl, rfl, rfl⟩
    | cons e rest =>
      have untold := Tnp.detect_of_title e.titled
      have kind := Tnp.detect_of_type e.typed
      -- The title is dropped with all else that stands before the line that tells the kind.
      have told : dialectLines raws = e.opened ++ rest.flatMap Tnp.Entry.lines := by
        rw [dialectLines, lines]
        simp [Tnp.Entry.lines, Tnp.Entry.opened, untold, kind]
      obtain ⟨last, out, fed, names⟩ := Tnp.feed_entries g (s := {}) e rest rfl
      refine ⟨⟨.tnp, last⟩, out, none, last.record.pending, ?_, rfl, names⟩
      rw [told]
      change (feed (Ledger.stepOf g (FileKind.detect e.typeLine)) {} _).map _ = _
      rw [kind]
      change (feed (Tnp.step g) {} (e.opened ++ _)).map _ = _
      rw [fed]
      rfl

/-- A file of records that have their titles before their types is read without a bad line, and
as many airspaces are handed out as there are records. A circle has the title of its record, if
that is heard. A polygon has the title of the next record, which is met before it is handed out,
and only the last one has its own. -/
theorem parse_titled_records (g : Geodesy α) (skips : Int → Bool) (source : Source)
    (first : Option Text) (entries : List (Tnp.Entry α)) (ended : source.ending = .finished)
    (included : ∀ line ∈ first, Tnp.Includes line)
    (lines : significant source.texts = first.toList ++ entries.flatMap Tnp.Entry.lines) :
    let names := (parse g skips source).inserted.map Airspace.name
    (∃ r, (parse g skips source).result = .ok r ∧ r.count = entries.length ∧ r.skipped = []) ∧
    names = Tnp.namesOf (Tnp.heard first entries) ∧
    names.length = entries.length ∧
    (∀ i e, entries[i]? = some e → e.circle?.isSome = true → (first.isSome = true ∨ 0 < i) →
      names[i]? = some e.title) ∧
    ∀ i e e', entries[i]? = some e → e.circle? = none → entries[i + 1]? = some e' →
      names[i]? = some e'.title := by
  have orderly : ∀ line ∈ significant source.texts, Tnp.Orderly g line := by
    intro line member
    rw [lines, List.mem_append, Option.mem_toList, List.mem_flatMap] at member
    obtain switch | ⟨e, _, inside⟩ := member
    · exact (included line switch).orderly
    · exact e.orderly line inside
  have clean := Cursor.badLines_orderly orderly
  obtain ⟨c, out, failure, last, fed, finished, names⟩ := Cursor.feed_records g included lines
  have ends := parse_skipping g source
  rw [fed] at ends
  dsimp only at ends
  rw [ended, finished, clean] at ends
  rw [parse_skips skips clean, ends.inserted, names]
  have count : (out ++ last).length = entries.length := by
    rw [← List.length_map Airspace.name, names, Tnp.namesOf_length, Tnp.heard_length]
  refine ⟨⟨_, ends.result, count, rfl⟩, rfl, ?_, ?_, ?_⟩
  · rw [Tnp.namesOf_length, Tnp.heard_length]
  · intro i e listed round told
    obtain ⟨title, here, own⟩ := Tnp.heard_getElem? first listed
    rw [round, own told] at here
    exact Tnp.namesOf_circle here
  · intro i e e' listed outline next
    obtain ⟨title, here, _⟩ := Tnp.heard_getElem? first listed
    obtain ⟨title', there, own⟩ := Tnp.heard_getElem? first next
    rw [outline] at here
    rw [own (.inr (Nat.succ_pos i))] at there
    exact Tnp.namesOf_polygon here there

/-- A restricted area that is a circle. -/
def Tnp.Entry.round : Tnp.Entry Rat where
  titleLine := "TITLE=FASSBERG".toList
  title := "FASSBERG".toList
  typeLine := "TYPE=RESTRICTED".toList
  type := "RESTRICTED".toList
  inner := ["BASE=FL65".toList]
  circle? := some "CIRCLE RADIUS=5.00 CENTRE=N525500 E0101100".toList
  titled := by decide +kernel
  typed := by decide +kernel
  described := by decide +kernel
  outlined := by
    change Tnp.encircles Rat _ = true
    decide +kernel

/-- A control zone with a single point. -/
def Tnp.Entry.pointed : Tnp.Entry Rat where
  titleLine := "TITLE=HAMBURG CTR".toList
  title := "HAMBURG CTR".toList
  typeLine := "TYPE=CTA/CTR".toList
  type := "CTA/CTR".toList
  inner := ["CLASS=D".toList, "POINT=N534000 E0095000".toList]
  circle? := none
  titled := by decide +kernel
  typed := by decide +kernel
  described := by decide +kernel
  outlined := by decide +kernel

theorem parse_titled_records_of_circle_and_polygon :
    let source : Source := {
      size := 0
      lines := [
        ("* Northern Germany".toList, 1),
        ("Include=yes".toList, 2),
        ("TITLE=FASSBERG".toList, 3),
        ("TYPE=RESTRICTED".toList, 4),
        ("BASE=FL65".toList, 5),
        ("CIRCLE RADIUS=5.00 CENTRE=N525500 E0101100".toList, 6),
        ("   ".toList, 7),
        ("TITLE=HAMBURG CTR".toList, 8),
        ("TYPE=CTA/CTR".toList, 9),
        ("CLASS=D".toList, 10),
        ("POINT=N534000 E0095000 * the only point".toList, 11)]
      ending := .finished }
    (∃ r, (parse .still (fun _ => false) source).result = .ok r ∧ r.count = 2 ∧ r.skipped = []) ∧
      (parse .still (fun _ => false) source).inserted.map Airspace.name =
        ["FASSBERG".toList, "HAMBURG CTR".toList] := by
  intro source
  have includes : ∀ line ∈ some "Include=yes".toList, Tnp.Includes line := by
    intro line told
    cases told
    exact ⟨"yes".toList, by decide, by decide⟩
  have lines : significant source.texts =
      "Include=yes".toList :: [Tnp.Entry.round, .pointed].flatMap Tnp.Entry.lines := by
    decide +kernel
  obtain ⟨returned, names, _⟩ := parse_titled_records .still (fun _ => false) source
    (some "Include=yes".toList) [.round, .pointed] rfl includes lines
  exact ⟨returned, names⟩

/-- The polygon gets the title of the circle after it. -/
theorem parse_shifts_titles :
    let source : Source := {
      size := 0
      lines := [
        ("INCLUDE=YES".toList, 1),
        ("TITLE=HAMBURG CTR".toList, 2),
        ("TYPE=CTA/CTR".toList, 3),
        ("CLASS=D".toList, 4),
        ("POINT=N534000 E0095000".toList, 5),
        ("TITLE=FASSBERG".toList, 6),
        ("TYPE=RESTRICTED".toList, 7),
        ("BASE=FL65".toList, 8),
        ("CIRCLE RADIUS=5.00 CENTRE=N525500 E0101100".toList, 9)]
      ending := .finished }
    let entries : List (Tnp.Entry Rat) := [.pointed, .round]
    Tnp.Includes "INCLUDE=YES".toList ∧
      significant source.texts = "INCLUDE=YES".toList :: entries.flatMap Tnp.Entry.lines ∧
      (parse .still (fun _ => true) source).inserted.map Airspace.name ≠
        entries.map Tnp.Entry.title := by
  intro source entries
  exact ⟨⟨"YES".toList, by decide, by decide⟩, by decide +kernel, by decide +kernel⟩

end Airspaces
