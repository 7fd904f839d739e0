import Airspaces.Altitude.Reader
import Airspaces.Proofs.Altitude.Spaces
import Airspaces.Proofs.Looking.Basic
/-! Altitudes read by positions, one word after the other. A word takes the position on, which is
why the reading ends. The capitals of the last characters can spell a keyword with more letters than
there are characters, and the position is then beyond the end; nothing is looked at there. -/
namespace Airspaces.Altitude

variable {α : Type} [Scalar α]

open Text (Tracks)

namespace Token

/-- The first of the keywords at a position, and the position after all of its letters. -/
def wordAt? (words : List (Text × Token)) (t : Text) (pos : Nat) : Option (Token × Nat) :=
  words.findSome? fun (word, token) =>
    if Text.startsWithWord (t.drop pos) word then some (token, pos + word.length) else none

/-- The position after the letter that may stand after the foot sign. The sign may end the text, so
that this is asked first. -/
def footEndAt (t : Text) (pos : Nat) : Looked Nat :=
  if pos < t.length then do
    let c ← look t pos
    if c = 'T' ∨ c = 't' then .ok (pos + 1) else .ok pos
  else .ok pos

/-- The word at a position, and the position after it. -/
def nextAt (t : Text) (pos : Nat) : Looked (Token × Nat) := do
  let c ← look t pos
  if c = ' ' then .ok (blank, pos + 1)
  else if c.isDigit then
    match Text.findAt Numeral.withPower? t pos with
    | some (n, next) => .ok (number n, next)
    | none => .ok (other, pos + 1)
  else
    match wordAt? firstWords t pos with
    | some found => .ok found
    | none =>
      if c = 'F' ∨ c = 'f' then
        let next ← footEndAt t (pos + 1)
        .ok (feet, next)
      else if Text.startsWithWord (t.drop pos) ['M', 'S', 'L'] then .ok (meanSea, pos + 3)
      else if c = 'M' ∨ c = 'm' then .ok (metres, pos + 1)
      else
        match wordAt? lastWords t pos with
        | some found => .ok found
        | none => .ok (other, pos + 1)

theorem wordAt?_tracks (words : List (Text × Token)) (t : Text) (pos : Nat) :
    Tracks t (word? words (t.drop pos)) (wordAt? words t pos) := by
  induction words with
  | nil => exact .nothing
  | cons w words ih =>
    obtain ⟨word, token⟩ := w
    unfold word? wordAt? at ih ⊢
    simp only [List.findSome?_cons]
    cases Text.startsWithWord (t.drop pos) word with
    | false => exact ih
    | true => exact .found List.drop_drop.symm

theorem footEndAt_tracks (t : Text) (pos : Nat) :
    ∃ next, footEndAt t pos = .ok next ∧ t.drop next = dropFootLetter (t.drop pos) := by
  unfold footEndAt
  cases left : t.drop pos with
  | nil =>
    rw [if_neg (not_lt.mpr (List.drop_eq_nil_iff.mp left))]
    exact ⟨pos, rfl, left⟩
  | cons c rest =>
    simp only [if_pos (lt_length_of_drop left), look_of_drop left, bind, Except.bind]
    by_cases letter : c = 'T' ∨ c = 't'
    · rw [if_pos letter]
      refine ⟨pos + 1, rfl, ?_⟩
      obtain rfl | rfl := letter <;> exact drop_succ_of_drop left
    · rw [if_neg letter]
      obtain ⟨capital, small⟩ := not_or.mp letter
      refine ⟨pos, rfl, ?_⟩
      rw [left]
      simp [dropFootLetter, capital, small]

/-- A word is read without a look beyond the end. -/
theorem nextAt_tracks {t rest : Text} {pos : Nat} {c : Char} (left : t.drop pos = c :: rest) :
    ∃ after, nextAt t pos = .ok ((next c rest).1, after) ∧ t.drop after = (next c rest).2 := by
  have left_rest := drop_succ_of_drop left
  have first := wordAt?_tracks firstWords t pos
  have last := wordAt?_tracks lastWords t pos
  have number := Text.findAt_tracks Numeral.withPower?_suffix t pos
  rw [left] at first last number
  simp only [nextAt, look_of_drop left, bind, Except.bind, next, left]
  by_cases space : c = ' '
  · rw [if_pos space, if_pos space]
    exact ⟨pos + 1, rfl, left_rest⟩
  rw [if_neg space, if_neg space]
  by_cases digit : c.isDigit = true
  · rw [if_pos digit, if_pos digit]
    obtain ⟨taken, found⟩ | ⟨n, after, taken, found⟩ := number.nothing_or_found
    · rw [taken, found]
      exact ⟨pos + 1, rfl, left_rest⟩
    · rw [taken, found]
      exact ⟨after, rfl, rfl⟩
  rw [if_neg digit, if_neg digit]
  obtain ⟨taken, found⟩ | ⟨token, after, taken, found⟩ := first.nothing_or_found
  · rw [taken, found]
    dsimp only
    by_cases foot : c = 'F' ∨ c = 'f'
    · rw [if_pos foot, if_pos foot]
      obtain ⟨after, read, left_after⟩ := footEndAt_tracks t (pos + 1)
      rw [read]
      exact ⟨after, rfl, left_rest ▸ left_after⟩
    rw [if_neg foot, if_neg foot]
    by_cases sea : Text.startsWithWord (c :: rest) ['M', 'S', 'L'] = true
    · rw [if_pos sea, if_pos sea]
      refine ⟨pos + 3, rfl, ?_⟩
      rw [← List.drop_drop, left]
    rw [if_neg sea, if_neg sea]
    by_cases metre : c = 'M' ∨ c = 'm'
    · rw [if_pos metre, if_pos metre]
      exact ⟨pos + 1, rfl, left_rest⟩
    rw [if_neg metre, if_neg metre]
    obtain ⟨taken, found⟩ | ⟨token, after, taken, found⟩ := last.nothing_or_found
    · rw [taken, found]
      exact ⟨pos + 1, rfl, left_rest⟩
    · rw [taken, found]
      exact ⟨after, rfl, rfl⟩
  · rw [taken, found]
    exact ⟨after, rfl, rfl⟩

/-- A keyword can have more letters than there are characters left. -/
example : nextAt ['ﬂ'] 0 = .ok (level, 2) := by decide +kernel

/-- Every word takes the position on. -/
theorem nextAt_advances {t : Text} {pos : Nat} (more : pos < t.length) :
    ∃ token after, nextAt t pos = .ok (token, after) ∧ pos < after := by
  obtain ⟨c, rest, left⟩ := exists_drop_eq_cons more
  obtain ⟨after, read, left_after⟩ := nextAt_tracks left
  refine ⟨_, after, read, ?_⟩
  have shorter := next_length c rest
  have size := congrArg List.length left
  rw [← left_after, List.length_drop] at shorter
  rw [List.length_drop, List.length_cons] at size
  omega

theorem lt_of_nextAt {t : Text} {pos after : Nat} {token : Token} (more : pos < t.length)
    (read : nextAt t pos = .ok (token, after)) : pos < after := by
  obtain ⟨token, after, same, advanced⟩ := nextAt_advances more
  cases read.symm.trans same
  exact advanced

theorem scan_length_le (t : Text) : (scan t).length ≤ t.length := by
  fun_induction scan t with
  | case1 => exact le_rfl
  | case2 c rest ih =>
    have shorter := next_length c rest
    rw [List.length_cons, List.length_cons]
    omega

end Token

namespace Draft

/-- The words from a position on change a draft one after the other. -/
def readFrom (t : Text) (pos : Nat) (d : Draft α) : Looked (Draft α) :=
  if _more : pos < t.length then
    match _read : Token.nextAt t pos with
    | .error e => .error e
    | .ok (token, after) => readFrom t after (d.take token)
  else .ok d
termination_by t.length - pos
decreasing_by
  have := Token.lt_of_nextAt _more _read
  omega

theorem readFrom_eq (t : Text) (pos : Nat) (d : Draft α) :
    readFrom t pos d = .ok ((Token.scan (t.drop pos)).foldl take d) := by
  fun_induction readFrom t pos d with
  | case1 pos d more e read =>
    obtain ⟨token, after, found, -⟩ := Token.nextAt_advances more
    cases read.symm.trans found
  | case2 pos d more token after read ih =>
    obtain ⟨c, rest, left⟩ := exists_drop_eq_cons more
    obtain ⟨after, found, left_after⟩ := Token.nextAt_tracks left
    cases read.symm.trans found
    rw [ih, left, left_after, Token.scan, List.foldl_cons]
  | case3 pos d ended =>
    rw [List.drop_eq_nil_iff.mpr (not_lt.mp ended), Token.scan, List.foldl_nil]

end Draft

/-- The altitude of a text. -/
def readAt (t : Text) : Looked (Altitude α) := do
  let d ← Draft.readFrom t 0 Draft.start
  .ok d.finish

/-- An altitude is read without a look beyond the end. -/
theorem readAt_eq (t : Text) : readAt t = .ok (read t : Altitude α) := by
  rw [readAt, Draft.readFrom_eq]
  rfl

end Airspaces.Altitude
