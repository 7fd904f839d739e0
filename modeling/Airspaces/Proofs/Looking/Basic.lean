import Airspaces.Proofs.Number.Blank
/-! Readers that look at the items of a sequence by their positions. A look beyond the end is an
error from which nothing recovers: a reader that has an answer has looked at no position but those
of its text. Such a reader is measured by one that takes the text apart, and keeps track of it if it
finds the same and its position is that of what the other one has left. -/
namespace Airspaces

/-- A look at a position at which there is nothing. -/
structure OutOfRange where
  position : Nat
  size : Nat
  deriving Repr, DecidableEq

abbrev Looked := Except OutOfRange

/-- The item at a position. -/
def look {β : Type} (items : List β) (pos : Nat) : Looked β :=
  if inside : pos < items.length then .ok items[pos] else .error ⟨pos, items.length⟩

/-- There is an answer to a look within a sequence, and to no other. -/
theorem exists_look_iff {β : Type} {items : List β} {pos : Nat} :
    (∃ x, look items pos = .ok x) ↔ pos < items.length := by
  unfold look
  split_ifs with inside
  · exact iff_of_true ⟨_, rfl⟩ inside
  · exact iff_of_false nofun inside

section Drop

variable {β : Type} {items rest : List β} {x : β} {pos : Nat}

theorem lt_length_of_drop (left : items.drop pos = x :: rest) : pos < items.length := by
  have size := congrArg List.length left
  rw [List.length_drop, List.length_cons] at size
  omega

theorem exists_drop_eq_cons (inside : pos < items.length) :
    ∃ x rest, items.drop pos = x :: rest :=
  ⟨_, _, List.drop_eq_getElem_cons inside⟩

theorem look_of_drop (left : items.drop pos = x :: rest) : look items pos = .ok x := by
  have inside := lt_length_of_drop left
  rw [List.drop_eq_getElem_cons inside] at left
  rw [look, dif_pos inside, (List.cons.inj left).1]

theorem drop_succ_of_drop (left : items.drop pos = x :: rest) : items.drop (pos + 1) = rest := by
  rw [List.drop_add_one_eq_tail_drop, left, List.tail_cons]

end Drop

namespace Text

variable {β : Type} {t : Text}

/-- Nothing is found, or the same with the position of what is left. -/
inductive Tracks (t : Text) : Option (β × Text) → Option (β × Nat) → Prop where
  | nothing : Tracks t none none
  | found {x : β} {rest : Text} {next : Nat} (left : t.drop next = rest) :
      Tracks t (some (x, rest)) (some (x, next))

theorem Tracks.nothing_or_found {taken : Option (β × Text)} {found : Option (β × Nat)}
    (tracked : Tracks t taken found) :
    taken = none ∧ found = none ∨
      ∃ x next, taken = some (x, t.drop next) ∧ found = some (x, next) := by
  cases tracked with
  | nothing => exact .inl ⟨rfl, rfl⟩
  | found left => exact .inr ⟨_, _, by rw [left], rfl⟩

/-- What is found before a character, with the character given back. -/
def unread (found : β × Char × Text) : β × Text := (found.1, found.2.1 :: found.2.2)

theorem Tracks.nothing_or_unread {taken : Option (β × Char × Text)} {found : Option (β × Nat)}
    (tracked : Tracks t (taken.map unread) found) :
    taken = none ∧ found = none ∨
      ∃ x c rest next, taken = some (x, c, rest) ∧ found = some (x, next) ∧
        t.drop next = c :: rest := by
  cases taken with
  | none =>
    cases tracked
    exact .inl ⟨rfl, rfl⟩
  | some parts =>
    cases tracked with
    | found left => exact .inr ⟨_, _, _, _, rfl, rfl, left⟩

/-- What is found at the start of the text from a position on, and the position after it. -/
def findAt (find : Text → Option (β × Text)) (t : Text) (pos : Nat) : Option (β × Nat) :=
  (find (t.drop pos)).map fun (x, rest) => (x, t.length - rest.length)

theorem drop_length_sub {t rest : Text} {pos : Nat} (suffix : rest <:+ t.drop pos) :
    t.drop (t.length - rest.length) = rest :=
  (List.suffix_iff_eq_drop.mp (suffix.trans (List.drop_suffix pos t))).symm

theorem findAt_tracks {find : Text → Option (β × Text)}
    (suffix : ∀ {u rest : Text} {x : β}, find u = some (x, rest) → rest <:+ u) (t : Text)
    (pos : Nat) : Tracks t (find (t.drop pos)) (findAt find t pos) := by
  unfold findAt
  cases found : find (t.drop pos) with
  | none => exact .nothing
  | some parts => exact .found (drop_length_sub (suffix found))

end Text

namespace Numeral

variable {α : Type} [Scalar α]

theorem scan?_suffix {t rest : Text} {x : α} (read : scan? t = some (x, rest)) : rest <:+ t := by
  obtain ⟨e, rfl, -⟩ := scan?_eq_some.mp read
  exact List.suffix_append _ _

theorem wholeDigits?_suffix {t digits rest : Text} (read : wholeDigits? t = some (digits, rest)) :
    rest <:+ t := by
  obtain ⟨lead, rfl, -⟩ := wholeDigits?_eq_some.mp read
  rw [← List.append_assoc]
  exact List.suffix_append _ _

theorem scanAt_of_scan? {t rest : Text} {pos : Nat} {x : α}
    (read : scan? (t.drop pos) = some (x, rest)) :
    ∃ next, scanAt t pos = (some x, next) ∧ t.drop next = rest := by
  refine ⟨t.length - rest.length, ?_, Text.drop_length_sub (scan?_suffix read)⟩
  rw [scanAt, read]

end Numeral
end Airspaces
