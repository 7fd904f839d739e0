import Airspaces.Proofs.Number.Scan
import Mathlib.Data.List.Infix
/-! The number at a position. A scan finds a number wherever one starts, takes the longest of those
that start there, and goes on after it; where none starts it stays. -/
namespace Airspaces.Numeral

variable {α : Type} [Scalar α]

namespace Spelling

/-- What starts with a number is read as one, whatever follows. -/
theorem unsigned?_isSome (s : Spelling) (rest : Text) : (unsigned? (s.text ++ rest)).isSome := by
  obtain ⟨whole, places, isDigit, filled⟩ := s
  have some_digit {d : Char} (digit : d.isDigit = true) (t : Text) :
      (Digits.split (d :: t)).1.isEmpty = false := by simp [Digits.split, digit]
  cases whole with
  | nil =>
    obtain _ | places := places
    · exact absurd rfl filled
    obtain ⟨d, places, rfl⟩ := List.exists_cons_of_ne_nil filled
    have digit : d.isDigit = true := isDigit d List.mem_cons_self
    simp [text, unsigned?, some_digit digit]
  | cons d whole =>
    have digit : d.isDigit = true := isDigit d List.mem_cons_self
    have point : d ≠ '.' := by
      rintro rfl
      cases digit
    obtain ⟨more, starts⟩ :
        ∃ more, text ⟨d :: whole, places, isDigit, filled⟩ ++ rest = d :: more := by
      cases places <;> exact ⟨_, rfl⟩
    rw [starts, unsigned?_cons point]
    simp only [startingWithDigit?, some_digit digit, Bool.false_eq_true, if_false]
    split <;> rfl

theorem point_mem_text {s : Spelling} (pointed : s.places.isSome = true) : '.' ∈ s.text := by
  obtain ⟨places, same⟩ := Option.isSome_iff_exists.mp pointed
  simp [text, same]

end Spelling

namespace Entry

theorem scan?_isSome (e : Entry) (rest : Text) :
    (scan? (e.text ++ rest) : Option (α × Text)).isSome := by
  obtain ⟨found, read⟩ := Option.isSome_iff_exists.mp (e.number.unsigned?_isSome rest)
  have signed := e.lead.sign_text (e.number.text_bare rest)
  simp [scan?, text, signed, read]

theorem scan?_text (e : Entry) : scan? e.text = some ((e.value : α), []) :=
  scan?_eq_some.mpr ⟨e, (List.append_nil _).symm, nofun, rfl⟩

theorem text_length_pos (e : Entry) : 0 < e.text.length := by
  apply List.length_pos_of_ne_nil
  intro empty
  have read := e.scan?_text (α := Rat)
  rw [empty] at read
  cases read

/-- A number has one value, however it is taken apart. -/
theorem value_eq_of_text_eq {e other : Entry} (same : e.text = other.text) :
    (e.value : α) = other.value := by
  have read := e.scan?_text (α := α)
  rw [same, other.scan?_text] at read
  exact (Prod.mk.inj (Option.some.inj read)).1.symm

/-- A number that starts where another one does is a part of it, unless the next character goes on
with the other one. -/
theorem text_starts {e other : Entry} {rest : Text} (stops : ∀ c ∈ rest.head?, e.number.Stops c)
    (starts : other.text <+: e.text ++ rest) : other.text <+: e.text := by
  obtain shorter | ⟨more, longer⟩ :=
    List.prefix_or_prefix_of_prefix starts (e.text.prefix_append rest)
  · exact shorter
  -- By itself the longer one is read as a whole; but so is the shorter one with what is left of it.
  have within : more <+: rest := by
    rw [← longer] at starts
    exact (List.prefix_append_right_inj e.text).mp starts
  have stops_more : ∀ c ∈ more.head?, e.number.Stops c := by
    intro c first
    obtain ⟨after, rfl⟩ := List.head?_eq_some_iff.mp first
    obtain ⟨last, rfl⟩ := within
    exact stops c rfl
  have read : scan? other.text = some ((e.value : Rat), more) :=
    scan?_eq_some.mpr ⟨e, longer.symm, stops_more, rfl⟩
  have nothing_left : more = [] :=
    (Prod.mk.inj (Option.some.inj (read.symm.trans other.scan?_text))).2
  rw [← longer, nothing_left, List.append_nil]

/-- The number starts the text, and no longer one does. -/
structure Longest (e : Entry) (t : Text) : Prop where
  starts : e.text <+: t
  le : ∀ other : Entry, other.text <+: t → other.text.length ≤ e.text.length

theorem longest_of_stops {e : Entry} {rest : Text} (stops : ∀ c ∈ rest.head?, e.number.Stops c) :
    e.Longest (e.text ++ rest) :=
  ⟨e.text.prefix_append rest, fun _ starts => (text_starts stops starts).length_le⟩

theorem Longest.text_unique {e other : Entry} {t : Text} (longest : e.Longest t)
    (other_longest : other.Longest t) : e.text = other.text := by
  have same := Nat.le_antisymm (other_longest.le e longest.starts)
    (longest.le other other_longest.starts)
  exact (List.prefix_of_prefix_length_le longest.starts other_longest.starts same.le).eq_of_length
    same

/-- Where a number starts, a longest one does, and nothing that follows goes on with it. -/
theorem exists_longest {e : Entry} {t : Text} (starts : e.text <+: t) :
    ∃ (longest : Entry) (rest : Text), longest.Longest t ∧ t = longest.text ++ rest ∧
      ∀ c ∈ rest.head?, longest.number.Stops c := by
  obtain ⟨rest, rfl⟩ := starts
  obtain ⟨⟨x, after⟩, read⟩ := Option.isSome_iff_exists.mp (e.scan?_isSome (α := Rat) rest)
  obtain ⟨longest, parts, stops, -⟩ := scan?_eq_some.mp read
  rw [parts]
  exact ⟨longest, after, longest_of_stops stops, rfl, stops⟩

/-- After the longest number there is no digit, and no point unless it has one. -/
theorem Longest.next {e : Entry} {t : Text} (longest : e.Longest t) :
    ∀ c ∈ t[e.text.length]?, c.isDigit = false ∧ (c = '.' → '.' ∈ e.text) := by
  obtain ⟨other, rest, other_longest, rfl, stops⟩ := exists_longest longest.starts
  have same := longest.text_unique other_longest
  intro c next
  rw [same, List.getElem?_append_right le_rfl, Nat.sub_self, ← List.head?_eq_getElem?] at next
  obtain ⟨no_digit, point⟩ := stops c next
  refine ⟨no_digit, fun pointed => ?_⟩
  rw [same]
  exact List.mem_append_right _ (Spelling.point_mem_text (point pointed))

end Entry

/-- A scan takes the longest number. -/
theorem scan?_eq_some_iff_longest {t rest : Text} {x : α} :
    scan? t = some (x, rest) ↔ ∃ e : Entry, e.Longest t ∧ t = e.text ++ rest ∧ x = e.value := by
  constructor
  · intro read
    obtain ⟨e, rfl, stops, rfl⟩ := scan?_eq_some.mp read
    exact ⟨e, Entry.longest_of_stops stops, rfl, rfl⟩
  · rintro ⟨e, longest, parts, rfl⟩
    obtain ⟨other, after, other_longest, other_parts, stops⟩ := Entry.exists_longest longest.starts
    have same := longest.text_unique other_longest
    have same_rest : rest = after := by
      rw [parts, same] at other_parts
      exact List.append_cancel_left other_parts
    rw [same_rest, Entry.value_eq_of_text_eq same]
    exact scan?_eq_some.mpr ⟨other, other_parts, stops, rfl⟩

theorem scan?_eq_none_iff {t : Text} :
    (scan? t : Option (α × Text)) = none ↔ ∀ e : Entry, ¬ e.text <+: t := by
  constructor
  · rintro none e ⟨rest, rfl⟩
    have found := e.scan?_isSome (α := α) rest
    rw [none] at found
    cases found
  · intro nowhere
    cases read : (scan? t : Option (α × Text)) with
    | none => rfl
    | some found =>
      obtain ⟨e, longest, -⟩ := scan?_eq_some_iff_longest.mp read
      exact absurd longest.starts (nowhere e)

theorem length_sub_of_drop_eq {t u rest : Text} {pos : Nat} (parts : t.drop pos = u ++ rest)
    (filled : 0 < u.length) : t.length - rest.length = pos + u.length := by
  have size := congrArg List.length parts
  simp only [List.length_drop, List.length_append] at size
  omega

theorem scanAt_eq_some_iff {t : Text} {pos next : Nat} {x : α} :
    scanAt t pos = (some x, next) ↔
      ∃ e : Entry, e.Longest (t.drop pos) ∧ x = e.value ∧ next = pos + e.text.length := by
  constructor
  · intro read
    unfold scanAt at read
    split at read
    · rename_i x rest found
      cases read
      obtain ⟨e, longest, parts, value⟩ := scan?_eq_some_iff_longest.mp found
      exact ⟨e, longest, value, length_sub_of_drop_eq parts e.text_length_pos⟩
    · cases read
  · rintro ⟨e, longest, rfl, rfl⟩
    obtain ⟨rest, parts⟩ := longest.starts
    have found : scan? (t.drop pos) = some ((e.value : α), rest) :=
      scan?_eq_some_iff_longest.mpr ⟨e, longest, parts.symm, rfl⟩
    rw [scanAt, found]
    exact congrArg (some e.value, ·) (length_sub_of_drop_eq parts.symm e.text_length_pos)

theorem scanAt_eq_none_iff {t : Text} {pos next : Nat} :
    scanAt t pos = ((none : Option α), next) ↔
      (∀ e : Entry, ¬ e.text <+: t.drop pos) ∧ next = pos := by
  rw [← scan?_eq_none_iff (α := α), scanAt]
  cases (scan? (t.drop pos) : Option (α × Text)) with
  | none => simp [eq_comm]
  | some found => simp

/-- The scan at a position takes the longest number that starts there and goes on after it. It
finds one wherever a number starts, and stays where none does. -/
theorem scanAt_longest (t : Text) (pos : Nat) :
    (∀ (x : α) (next : Nat), scanAt t pos = (some x, next) ↔
      ∃ e : Entry, e.Longest (t.drop pos) ∧ x = e.value ∧ next = pos + e.text.length) ∧
    (∀ next : Nat, scanAt t pos = ((none : Option α), next) ↔
      (∀ e : Entry, ¬ e.text <+: t.drop pos) ∧ next = pos) ∧
    ∀ e : Entry, e.Longest (t.drop pos) →
      pos < pos + e.text.length ∧ pos + e.text.length ≤ t.length ∧
        ∀ c ∈ t[pos + e.text.length]?, c.isDigit = false ∧ (c = '.' → '.' ∈ e.text) := by
  refine ⟨fun x next => scanAt_eq_some_iff, fun next => scanAt_eq_none_iff, fun e longest => ?_⟩
  have filled := e.text_length_pos
  have within := longest.starts.length_le
  rw [List.length_drop] at within
  refine ⟨by omega, by omega, ?_⟩
  rw [← List.getElem?_drop]
  exact longest.next

/-- A second point ends a number, and so does the end of the text. -/
theorem scanAt_longest_of_second_point :
    let t := "DA  -2.50.7".toList
    (scanAt t 2 : Option Rat × Nat) = (some (-5 / 2), 9) ∧
      (scanAt t 9 : Option Rat × Nat) = (some (7 / 10), 11) ∧
      ∃ e : Entry, e.Longest (t.drop 2) ∧ (e.value : Rat) = -5 / 2 ∧ e.text.length = 7 ∧
        ∀ c ∈ t[9]?, c.isDigit = false ∧ (c = '.' → '.' ∈ e.text) := by
  intro t
  have read : (scanAt t 2 : Option Rat × Nat) = (some (-5 / 2), 9) := by decide +kernel
  have read_last : (scanAt t 9 : Option Rat × Nat) = (some (7 / 10), 11) := by decide +kernel
  obtain ⟨found, -, stopped⟩ := scanAt_longest (α := Rat) t 2
  obtain ⟨e, longest, value, next⟩ := (found _ _).mp read
  have size : e.text.length = 7 := by omega
  obtain ⟨-, -, boundary⟩ := stopped e longest
  rw [size] at boundary
  exact ⟨read, read_last, e, longest, value.symm, size, boundary⟩

end Airspaces.Numeral
