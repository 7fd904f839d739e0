import Airspaces.Proofs.File.Reading
import Airspaces.Proofs.File.Result
import Mathlib.Order.Monotone.Basic
/-! The progress of a run over the bytes of a file or of a text. What is told of each line comes in
the order of the lines, and the places that are told come from the line ends in the content. -/
namespace Airspaces

variable {α : Type} [Scalar α]

namespace Notice

def range? : Notice → Option Int
  | range n => some n
  | _ => none

def position? : Notice → Option Int
  | position n => some n
  | _ => none

/-- All that is told of the line of a number: the place of its end when its turn comes, and then a
warning if it is one of the bad lines. -/
def ofLine (place : Nat → Int) (bad : List (Nat × Text)) (n : Nat) : List Notice :=
  (if n % 256 = 0 then [position (place n)] else []) ++
    (bad.filter (·.1 == n)).map fun (number, line) => warning number line

section
variable (place : Nat → Int) (bad : List (Nat × Text))

/-- A line that is not among the bad ones is not warned of. -/
theorem ofLine_good {n : Nat} (good : ∀ entry ∈ bad, entry.1 ≠ n) :
    ofLine place bad n = if n % 256 = 0 then [position (place n)] else [] := by
  have none_bad : bad.filter (·.1 == n) = [] :=
    List.filter_eq_nil_iff.mpr fun entry member => by simpa using good entry member
  rw [ofLine, none_bad, List.map_nil, List.append_nil]

/-- One more bad line changes nothing about the others. -/
theorem ofLine_other {n number : Nat} (other : number ≠ n) (line : Text) :
    ofLine place (bad ++ [(number, line)]) n = ofLine place bad n := by
  simp [ofLine, List.filter_append, other]

theorem ofLine_bad (n : Nat) (line : Text) :
    ofLine place (bad ++ [(n, line)]) n = ofLine place bad n ++ [warning n line] := by
  simp [ofLine, List.filter_append]

theorem ofLine_positions (n : Nat) :
    (ofLine place bad n).filterMap position? = if n % 256 = 0 then [place n] else [] := by
  rw [ofLine, List.filterMap_append, List.filterMap_map]
  split_ifs <;> simp [position?, Function.comp_def]

theorem ofLine_ranges (n : Nat) : (ofLine place bad n).filterMap range? = [] := by
  rw [ofLine, List.filterMap_append, List.filterMap_map]
  split_ifs <;> simp [range?, Function.comp_def]

/-- The places that are told of the first lines, one in every 256 lines. -/
theorem ofLines_positions (n : Nat) :
    ((List.range' 1 n).flatMap (ofLine place bad)).filterMap position? =
      (List.range' 1 (n / 256)).map fun k => place (256 * k) := by
  induction n with
  | zero => rfl
  | succ n ih =>
    rw [List.range'_1_concat, List.flatMap_append, List.filterMap_append, ih,
      List.flatMap_singleton, ofLine_positions, Nat.add_comm 1 n, Nat.succ_div]
    by_cases turn : 256 ∣ n + 1
    · have last : 256 * (1 + n / 256) = n + 1 := by omega
      rw [if_pos (Nat.mod_eq_zero_of_dvd turn), if_pos turn, List.range'_1_concat, List.map_append,
        List.map_singleton, last]
    · rw [if_neg fun whole => turn (Nat.dvd_of_mod_eq_zero whole), if_neg turn, List.append_nil,
        Nat.add_zero]

/-- The lines of a warning are those of which something is told. -/
theorem ofLines_warnings {first n : Nat} {entry : Int × Text}
    (warned : entry ∈ ((List.range' first n).flatMap (ofLine place bad)).filterMap warning?) :
    first ≤ entry.1 ∧ entry.1 < first + n := by
  obtain ⟨notice, member, told⟩ := List.mem_filterMap.mp warned
  obtain ⟨number, listed, member⟩ := List.mem_flatMap.mp member
  have bounds := List.mem_range'_1.mp listed
  have same : entry.1 = number := by
    obtain turn | listed := List.mem_append.mp member
    · split_ifs at turn
      · cases List.mem_singleton.mp turn
        cases told
      · cases turn
    · obtain ⟨⟨number', line⟩, found, rfl⟩ := List.mem_map.mp listed
      cases told
      simpa using (List.mem_filter.mp found).2
  omega

/-- What is told before the position of a line whose turn has come, and after it. -/
theorem ofLines_turn {n k : Nat} (positive : 1 ≤ k) (reached : 256 * k ≤ n) :
    ∃ before after, (List.range' 1 n).flatMap (ofLine place bad) =
        before ++ position (place (256 * k)) :: after ∧
      (before.filterMap position?).length = k - 1 ∧
      (∀ entry ∈ before.filterMap warning?, entry.1 < ((256 * k : Nat) : Int)) ∧
      ∀ entry ∈ after.filterMap warning?, ((256 * k : Nat) : Int) ≤ entry.1 := by
  let warnings := (bad.filter (·.1 == 256 * k)).map fun (number, line) => warning number line
  let later := (List.range' (256 * k + 1) (n - 256 * k)).flatMap (ofLine place bad)
  have here : ofLine place bad (256 * k) = position (place (256 * k)) :: warnings := by
    rw [ofLine, if_pos (Nat.mul_mod_right 256 k)]
    rfl
  have rest : (List.range' (256 * k) (n - 256 * k + 1)).flatMap (ofLine place bad) =
      position (place (256 * k)) :: (warnings ++ later) := by
    rw [List.range'_succ, List.flatMap_cons, here]
    rfl
  have lines : List.range' 1 n =
      List.range' 1 (256 * k - 1) ++ List.range' (256 * k) (n - 256 * k + 1) := by
    have joined : _ = List.range' 1 (256 * k - 1 + (n - 256 * k + 1)) := List.range'_append_1
    rw [show 1 + (256 * k - 1) = 256 * k by omega,
      show 256 * k - 1 + (n - 256 * k + 1) = n by omega] at joined
    exact joined.symm
  refine ⟨(List.range' 1 (256 * k - 1)).flatMap (ofLine place bad), warnings ++ later,
    ?_, ?_, ?_, ?_⟩
  · rw [lines, List.flatMap_append, rest]
  · rw [ofLines_positions, List.length_map, List.length_range']
    omega
  · intro entry warned
    have bounds := ofLines_warnings place bad warned
    omega
  · intro entry warned
    -- A position is no warning, so it may be put back in front of what is told after it.
    have told : entry ∈ (position (place (256 * k)) :: (warnings ++ later)).filterMap warning? :=
      warned
    rw [← rest] at told
    exact (ofLines_warnings place bad told).1

end

/-- An error is no news of the lines. -/
theorem ofError_nothing (message : Option Text) :
    (message.map error).toList.filterMap range? = [] ∧
      (message.map error).toList.filterMap position? = [] ∧
      (message.map error).toList.filterMap warning? = [] := by
  cases message <;> exact ⟨rfl, rfl, rfl⟩

end Notice

namespace Ledger

/-- The range has been told, and then of each line that has been read all that there is to tell. -/
structure Tells (place : Nat → Int) (l : Ledger α) : Prop where
  notices : l.notices.toList = .range 1024 ::
    (List.range' 1 l.linesRead).flatMap (Notice.ofLine place l.skipped.toList)
  skipped : ∀ entry ∈ l.skipped.toList, entry.1 ≤ l.linesRead

variable {place : Nat → Int} {l : Ledger α}

theorem start_tells (place : Nat → Int) : (start : Ledger α).Tells place :=
  ⟨rfl, nofun⟩

theorem Tells.kind (tells : l.Tells place) (kind : FileKind) : { l with kind }.Tells place :=
  ⟨tells.notices, tells.skipped⟩

/-- The next line is good as long as nobody has looked at it. -/
theorem Tells.count (tells : l.Tells place) {size tell : Nat} (filled : 0 < size)
    (here : ((tell * 1024 / size : Nat) : Int) = place (l.linesRead + 1)) :
    (l.count size tell).Tells place ∧
      ∀ entry ∈ (l.count size tell).skipped.toList, entry.1 < (l.count size tell).linesRead := by
  have good : ∀ entry ∈ l.skipped.toList, entry.1 ≠ l.linesRead + 1 := by
    intro entry member
    have := tells.skipped entry member
    omega
  have told := Notice.ofLine_good place l.skipped.toList good
  have fresh : ∀ entry ∈ l.skipped.toList, entry.1 < l.linesRead + 1 :=
    fun entry member => Nat.lt_succ_of_le (tells.skipped entry member)
  unfold Ledger.count
  dsimp only
  by_cases turn : (l.linesRead + 1) % 256 = 0
  · rw [if_pos ⟨turn, filled⟩]
    refine ⟨⟨?_, fun entry member => (fresh entry member).le⟩, fresh⟩
    rw [if_pos turn, ← here] at told
    simp only [Array.toList_push, List.range'_1_concat, List.flatMap_append, List.flatMap_singleton,
      Nat.add_comm 1, told, tells.notices, List.cons_append, progressRange]
  · rw [if_neg fun both => turn both.1]
    refine ⟨⟨?_, fun entry member => (fresh entry member).le⟩, fresh⟩
    rw [if_neg turn] at told
    simp only [List.range'_1_concat, List.flatMap_append, List.flatMap_singleton,
      Nat.add_comm 1, told, tells.notices, List.append_nil]

/-- If the last line turns out to be bad, then this is told last. -/
theorem Tells.dispatch (tells : l.Tells place) (counted : 0 < l.linesRead)
    (fresh : ∀ entry ∈ l.skipped.toList, entry.1 < l.linesRead) (g : Geodesy α)
    (skips : Int → Bool) (line : Text) : (l.dispatch g skips line).Tells place := by
  unfold Ledger.dispatch
  dsimp only
  split
  · exact ⟨tells.notices, tells.skipped⟩
  · exact ⟨tells.notices, tells.skipped⟩
  · obtain ⟨n, last⟩ := Nat.exists_eq_succ_of_ne_zero counted.ne'
    -- The bad line is the last one, so that what was told of the others stands.
    have others : (List.range' 1 n).flatMap (Notice.ofLine place l.skipped.toList) =
        (List.range' 1 n).flatMap
          (Notice.ofLine place (l.skipped.toList ++ [(l.linesRead, line)])) := by
      apply List.flatMap_congr
      intro number member
      have bounds := List.mem_range'_1.mp member
      exact (Notice.ofLine_other place _ (by omega) line).symm
    constructor
    · have told := tells.notices
      rw [last, List.range'_1_concat, List.flatMap_append, List.flatMap_singleton, Nat.add_comm 1,
        ← Nat.succ_eq_add_one, ← last] at told ⊢
      simp only [Array.toList_push, told, ← others, Notice.ofLine_bad, List.cons_append,
        List.append_assoc]
    · intro entry member
      obtain old | new := List.mem_append.mp (Array.toList_push ▸ member)
      · exact (fresh entry old).le
      · cases List.mem_singleton.mp new
        exact Nat.le_refl _

/-- One line more keeps to what there is to tell. -/
theorem Tells.take (tells : l.Tells place) {size tell : Nat} (filled : 0 < size)
    (here : ((tell * 1024 / size : Nat) : Int) = place (l.linesRead + 1)) (g : Geodesy α)
    (skips : Int → Bool) (raw : Text) : (l.take g size skips raw tell).Tells place := by
  obtain ⟨counted, fresh⟩ := tells.count filled here
  have number : 0 < (l.count size tell).linesRead := by
    obtain ⟨notices, counts, -⟩ := count_eq size tell l
    rw [counts]
    exact Nat.succ_pos _
  unfold Ledger.take
  dsimp only
  by_cases blank : (stripComment raw).isEmpty
  · rw [if_pos blank]
    exact counted
  · rw [if_neg blank]
    exact (counted.kind (Cursor.kindAfter (stripComment raw) _)).dispatch number fresh g skips _

/-- So does a run, if its lines stand at their places. -/
theorem Tells.run (tells : l.Tells place) (g : Geodesy α) {size : Nat} (skips : Int → Bool)
    {lines : List (Text × Nat)}
    (places : ∀ i raw tell, lines[i]? = some (raw, tell) →
      0 < size ∧ ((tell * 1024 / size : Nat) : Int) = place (l.linesRead + (i + 1))) :
    (l.run g size skips lines).Tells place := by
  induction lines generalizing l with
  | nil => exact tells
  | cons first rest ih =>
    obtain ⟨raw, tell⟩ := first
    obtain ⟨filled, here⟩ := places 0 raw tell rfl
    have later := tells.take filled here g skips raw
    unfold Ledger.run
    dsimp only
    split_ifs
    · refine ih later ?_
      intro i raw' tell' listed
      rw [take_linesRead, Nat.add_assoc, Nat.add_comm 1]
      exact places (i + 1) raw' tell' listed
    · exact later

/-- The end of a run tells of nothing but an error. -/
theorem close_notices (l : Ledger α) (ending : Source.Ending) :
    ∃ error : Option Text,
      (l.close ending).notices = l.notices.toList ++ (error.map Notice.error).toList := by
  have nothing : l.notices.toList = l.notices.toList ++ ((none : Option Text).map .error).toList :=
    (List.append_nil _).symm
  unfold close
  split
  · exact ⟨none, nothing⟩
  · exact ⟨none, nothing⟩
  · cases ending with
    | stopped cause => exact ⟨none, nothing⟩
    | failed message => exact ⟨some message, Array.toList_push⟩
    | finished =>
      dsimp only
      split_ifs
      · exact ⟨some unknownMessage, Array.toList_push⟩
      · exact ⟨none, nothing⟩

end Ledger

namespace LineReader

theorem lineEnd_mono (bytes : List UInt8) : Monotone (lineEnd bytes) := by
  refine monotone_nat_of_le_succ fun n => ?_
  rw [← ofBytes_position bytes (.ok .utf8) .replace, ← ofBytes_position bytes (.ok .utf8) .replace,
    after_succ]
  exact (read_position (after_isOpen rfl n)).1

theorem lineEnd_le_length (bytes : List UInt8) (n : Nat) : lineEnd bytes n ≤ bytes.length := by
  have total : _ = 0 + bytes.length := after_total (r := ofBytes bytes (.ok .utf8) .replace) rfl n
  rw [ofBytes_position] at total
  omega

/-- The readers of a content, which are the bytes of a file, or those of a text in an encoding. -/
inductive Of (content : List UInt8) : LineReader → Prop where
  | file (encoding : Except ReadFault Encoding) (lenience : Lenience) :
      Of content (ofBytes content encoding lenience)
  | text {t : Text} {e : Encoding} {r : LineReader} (encoded : e.encode t = some content)
      (made : ofText t (.ok e) = .ok r) : Of content r

theorem Of.bytes {content : List UInt8} {r : LineReader} (of : r.Of content) :
    ∃ encoding lenience, r = ofBytes content encoding lenience := by
  cases of with
  | file encoding lenience => exact ⟨encoding, lenience, rfl⟩
  | text encoded made =>
    rename_i e
    simp only [ofText, encoded] at made
    cases made
    exact ⟨.ok e, .strict, rfl⟩

end LineReader

/-- Each line comes with the position that the reader has after it. -/
theorem Source.remaining_tell {r : LineReader} (opened : r.isOpen = true) {i tell : Nat}
    {line : Text} (listed : (remaining r).1[i]? = some (line, tell)) :
    r.rest ≠ [] ∧ tell = (r.after (i + 1)).position := by
  induction r using remaining.induct generalizing i with
  | case1 r none_left =>
    rw [remaining, dif_pos none_left] at listed
    cases listed
  | case2 r more cause failed =>
    rw [remaining, dif_neg more, failed] at listed
    cases listed
  | case3 r more line' read lines ending later ih =>
    have advances : r.read.2 = r.advance := by
      have filled : r.rest.isEmpty = false := by simpa using more
      simp [LineReader.read, opened, filled]
    rw [remaining, dif_neg more, read] at listed
    simp only [later] at ih listed
    refine ⟨more, ?_⟩
    rw [LineReader.after, advances]
    cases i with
    | zero =>
      cases listed
      rfl
    | succ i => exact (ih opened listed).2

/-- How far the first lines of a content reach, in parts of 1024. -/
def placeOf (content : List UInt8) (n : Nat) : Int :=
  (lineEnd content n * 1024 / content.length : Nat)

section
variable (content : List UInt8)

theorem placeOf_mono {n m : Nat} (ordered : n ≤ m) : placeOf content n ≤ placeOf content m :=
  Int.ofNat_le.mpr <| Nat.div_le_div_right <|
    Nat.mul_le_mul_right 1024 (LineReader.lineEnd_mono content ordered)

theorem placeOf_bounds (n : Nat) : 0 ≤ placeOf content n ∧ placeOf content n ≤ 1024 := by
  have scaled : lineEnd content n * 1024 ≤ 1024 * content.length := by
    have := LineReader.lineEnd_le_length content n
    omega
  have bound := Nat.div_le_of_le_mul (Nat.mul_comm 1024 _ ▸ scaled)
  exact ⟨Int.natCast_nonneg _, Int.ofNat_le.mpr bound⟩

theorem placeOf_whole {n : Nat} (filled : content ≠ [])
    (whole : lineEnd content n = content.length) : placeOf content n = 1024 := by
  rw [placeOf, whole, Nat.mul_div_cancel_left _ (List.length_pos_iff.mpr filled)]
  rfl

end

/-- A reader of a content hands out the lines at their places in it. -/
theorem Source.ofReader_places (content : List UInt8) (encoding : Except ReadFault Encoding)
    (lenience : Lenience) :
    let source := Source.ofReader (.ofBytes content encoding lenience)
    ∀ i raw tell, source.lines[i]? = some (raw, tell) →
      0 < source.size ∧ ((tell * 1024 / source.size : Nat) : Int) = placeOf content (i + 1) := by
  intro source i raw tell listed
  obtain ⟨filled, place⟩ := remaining_tell (r := .ofBytes content encoding lenience) rfl listed
  rw [place, LineReader.ofBytes_position]
  exact ⟨List.length_pos_iff.mpr filled, rfl⟩

/-- What a run over a content tells of its progress. -/
structure Outcome.Progress (content : List UInt8) (reader : LineReader) (o : Outcome α)
    (r : ParseResult) : Prop where
  /-- The range is told first, then all that there is to tell of each line that was read, and at
  last the error, if there is one. -/
  notices : ∃ error : Option Text, o.notices = .range 1024 ::
    (List.range' 1 r.linesRead).flatMap (Notice.ofLine (placeOf content) r.skipped) ++
      (error.map Notice.error).toList
  ranges : o.notices.filterMap Notice.range? = [1024]
  positions : o.notices.filterMap Notice.position? =
    (List.range' 1 (r.linesRead / 256)).map fun k => placeOf content (256 * k)
  /-- Each position has its turn between the warnings about earlier lines and the others. -/
  turns : ∀ k, 1 ≤ k → 256 * k ≤ r.linesRead → ∃ before after,
    o.notices = before ++ .position (placeOf content (256 * k)) :: after ∧
      (before.filterMap Notice.position?).length = k - 1 ∧
      (∀ entry ∈ before.filterMap Notice.warning?, entry.1 < ((256 * k : Nat) : Int)) ∧
      ∀ entry ∈ after.filterMap Notice.warning?, ((256 * k : Nat) : Int) ≤ entry.1
  increasing : (o.notices.filterMap Notice.position?).Pairwise (· ≤ ·)
  bounded : ∀ place ∈ o.notices.filterMap Notice.position?, 0 ≤ place ∧ place ≤ 1024
  /-- The end of the range is reached at the end of the content, if a position is told there. -/
  complete : 0 < r.linesRead → 256 ∣ r.linesRead → (reader.after r.linesRead).read.1 = .ok none →
    (o.notices.filterMap Notice.position?).getLast? = some 1024

namespace Ledger

/-- A ledger that tells of the lines of a content leaves them told. -/
theorem Tells.progress {content : List UInt8} {encoding : Except ReadFault Encoding}
    {lenience : Lenience} {l : Ledger α} {ending : Source.Ending} {r : ParseResult}
    (tells : l.Tells (placeOf content)) (filled : 0 < l.linesRead → content ≠ [])
    (read : (l.close ending).result = .ok r) :
    (l.close ending).Progress content (.ofBytes content encoding lenience) r := by
  obtain ⟨linesRead, skipped, -⟩ := close_ok read
  obtain ⟨error, closing⟩ := close_notices l ending
  obtain ⟨noRange, noPosition, noWarning⟩ := Notice.ofError_nothing error
  rw [tells.notices, ← linesRead, ← skipped] at closing
  have positions : (l.close ending).notices.filterMap Notice.position? =
      (List.range' 1 (r.linesRead / 256)).map fun k => placeOf content (256 * k) := by
    rw [closing, List.filterMap_append, noPosition, List.append_nil,
      ← Notice.ofLines_positions (placeOf content) r.skipped]
    rfl
  refine {
    notices := ⟨error, closing⟩
    ranges := ?_
    positions := positions
    turns := ?_
    increasing := ?_
    bounded := ?_
    complete := ?_ }
  · have quiet : ((List.range' 1 r.linesRead).flatMap
        (Notice.ofLine (placeOf content) r.skipped)).filterMap Notice.range? = [] := by
      rw [List.filterMap_flatMap]
      simp only [Notice.ofLine_ranges, List.flatMap_eq_nil_iff, implies_true]
    rw [closing, List.filterMap_append, noRange, List.append_nil]
    exact congrArg (1024 :: ·) quiet
  · intro k positive reached
    obtain ⟨before, after, split, counted, earlier, later⟩ :=
      Notice.ofLines_turn (placeOf content) r.skipped positive reached
    refine ⟨.range 1024 :: before, after ++ (error.map Notice.error).toList, ?_, counted,
      earlier, ?_⟩
    · rw [closing, split, List.cons_append, List.cons_append, List.append_assoc, List.cons_append]
    · rw [List.filterMap_append, noWarning, List.append_nil]
      exact later
  · rw [positions, List.pairwise_map]
    refine List.pairwise_le_range'.imp ?_
    exact fun ordered => placeOf_mono content (Nat.mul_le_mul_left 256 ordered)
  · rw [positions]
    intro place member
    obtain ⟨k, -, rfl⟩ := List.mem_map.mp member
    exact placeOf_bounds content _
  · rintro some_line ⟨k, turn⟩ nothing
    have none_left := LineReader.rest_of_read (LineReader.after_isOpen rfl _) nothing
    have total : _ = 0 + content.length :=
      LineReader.after_total (r := .ofBytes content encoding lenience) rfl r.linesRead
    rw [none_left, LineReader.ofBytes_position] at total
    have whole : lineEnd content (256 * k) = content.length := by
      rw [← turn]
      simpa using total
    obtain ⟨j, rfl⟩ : ∃ j, k = j + 1 := Nat.exists_eq_succ_of_ne_zero (by omega)
    have last : r.linesRead / 256 = j + 1 := by omega
    have reached := placeOf_whole content (filled (linesRead ▸ some_line)) whole
    rw [positions, last, List.range'_1_concat, List.map_append, List.map_singleton,
      List.getLast?_concat, Nat.add_comm 1, reached]

end Ledger

/-- A run over a file or a text tells of its progress in order, within the range and evenly, however
the lines are answered to. -/
theorem parse_progress (g : Geodesy α) (skips : Int → Bool) {content : List UInt8}
    {reader : LineReader} (of : reader.Of content) {r : ParseResult}
    (read : (parse g skips (.ofReader reader)).result = .ok r) :
    (parse g skips (.ofReader reader)).Progress content reader r := by
  obtain ⟨encoding, lenience, rfl⟩ := of.bytes
  have places := Source.ofReader_places content encoding lenience
  refine Ledger.Tells.progress ?_ ?_ read
  · refine (Ledger.start_tells _).run g skips ?_
    intro i raw tell listed
    rw [show (Ledger.start : Ledger α).linesRead + (i + 1) = i + 1 from Nat.zero_add _]
    exact places i raw tell listed
  · rintro some_line rfl
    rw [Source.ofReader, Source.remaining] at some_line
    exact absurd some_line (Nat.lt_irrefl 0)

set_option maxRecDepth 1000 in
/-- The last line has its turn, and is a bad one that ends the run. -/
theorem parse_progress_of_stopped_run :
    let t : Text := "TYPE=R".toList ++ List.replicate 255 '\n' ++ "POINT=garbage".toList
    let content := t.flatMap Encoding.utf8Bytes
    ∃ reader, LineReader.ofText t (.ok .utf8) = .ok reader ∧
      let o : Outcome Rat := parse .still (fun _ => false) (.ofReader reader)
      o.notices = [.range 1024, .position 1024, .warning 256 "POINT=garbage".toList] ∧
        ∃ r, o.result = .ok r ∧ r.linesRead = 256 ∧ o.Progress content reader r := by
  intro t content
  let reader := LineReader.ofBytes content (.ok .utf8) .strict
  have made : LineReader.ofText t (.ok .utf8) = .ok reader := rfl
  refine ⟨reader, made, by decide +kernel, ?_⟩
  have lines : (parse Geodesy.still (fun _ => false) (.ofReader reader)).result.toOption.map
      ParseResult.linesRead = some 256 := by
    decide +kernel
  cases read : (parse Geodesy.still (fun _ => false) (.ofReader reader)).result with
  | error f =>
    rw [read] at lines
    cases lines
  | ok r =>
    rw [read] at lines
    exact ⟨r, rfl, Option.some.inj lines,
      parse_progress .still (fun _ => false) (.text rfl made) read⟩

end Airspaces
