import Airspaces.Proofs.Number.Written
/-! Numbers at the start of a text: blanks, a sign, and digits with at most one point among them.
A scan accepts exactly such numbers, and each of them as far as it goes. -/
namespace Airspaces

theorem Text.isAsciiBlank_of_isDigit {c : Char} (digit : c.isDigit = true) :
    isAsciiBlank c = false := by
  simp only [Char.isDigit, Bool.and_eq_true, decide_eq_true_eq, UInt32.le_iff_toNat_le] at digit
  have low : 48 ≤ c.toNat := digit.1
  have space : c ≠ ' ' := by
    rintro rfl
    revert low
    decide
  simp [isAsciiBlank, space]
  omega

namespace Digits

theorem isDigit_of_mem_split {t : Text} {c : Char} (member : c ∈ (split t).1) :
    c.isDigit = true := List.mem_takeWhile_imp member

theorem split_stops (t : Text) : ∀ c ∈ (split t).2.head?, c.isDigit = false := by
  intro c first
  have stopped := List.head?_dropWhile_not Char.isDigit t
  rw [show (t.dropWhile Char.isDigit).head? = some c from first] at stopped
  simpa using stopped

end Digits

namespace Numeral

variable {α : Type} [Scalar α]

theorem sign_cons {c : Char} (plus : c ≠ '+') (minus : c ≠ '-') (t : Text) :
    sign (c :: t) = (false, c :: t) := by
  unfold sign
  split
  · rename_i same
    exact absurd (List.cons.inj same).1 plus
  · rename_i same
    exact absurd (List.cons.inj same).1 minus
  · rfl

theorem unsigned?_cons {c : Char} (point : c ≠ '.') (t : Text) :
    unsigned? (c :: t) = startingWithDigit? (c :: t) := by
  unfold unsigned?
  split
  · rename_i same
    exact absurd (List.cons.inj same).1 point
  · rfl

/-- What may stand before the digits of a number. -/
structure Lead where
  blanks : Text
  /-- Is the sign a minus, if there is one? -/
  minus : Option Bool
  isBlank : ∀ c ∈ blanks, Text.isAsciiBlank c = true

namespace Lead

def signText : Option Bool → Text
  | none => []
  | some minus => [if minus then '-' else '+']

def text (l : Lead) : Text := l.blanks ++ signText l.minus

def negative (l : Lead) : Bool := l.minus.getD false

/-- Nothing before the digits. -/
def empty : Lead := ⟨[], none, by simp⟩

@[simp] theorem text_empty : empty.text = [] := rfl

@[simp] theorem minus_empty : empty.minus = none := rfl

@[simp] theorem text_blanks (blanks : Text) (isBlank : ∀ c ∈ blanks, Text.isAsciiBlank c = true) :
    text ⟨blanks, none, isBlank⟩ = blanks := List.append_nil blanks

/-- Neither a blank nor a sign. -/
def Bare (c : Char) : Prop := Text.isAsciiBlank c = false ∧ c ≠ '+' ∧ c ≠ '-'

theorem bare_of_isDigit {c : Char} (digit : c.isDigit = true) : Bare c := by
  refine ⟨Text.isAsciiBlank_of_isDigit digit, ?_, ?_⟩
  · rintro rfl
    cases digit
  · rintro rfl
    cases digit

theorem sign_signText (minus : Option Bool) {body : Text} (bare : ∀ c ∈ body.head?, Bare c) :
    sign (signText minus ++ body) = (minus.getD false, body) := by
  match minus with
  | some true => rfl
  | some false => rfl
  | none =>
    cases body with
    | nil => rfl
    | cons c body =>
      obtain ⟨_, plus, minus⟩ := bare c rfl
      exact sign_cons plus minus body

/-- A lead is passed over as a whole, and no more than it. -/
theorem sign_text (l : Lead) {body : Text} (bare : ∀ c ∈ body.head?, Bare c) :
    sign ((l.text ++ body).dropWhile Text.isAsciiBlank) = (l.negative, body) := by
  have stops : ∀ c ∈ (signText l.minus ++ body).head?, Text.isAsciiBlank c = false := by
    match l.minus with
    | some true =>
      rintro c ⟨⟩
      decide
    | some false =>
      rintro c ⟨⟩
      decide
    | none => exact fun c first => (bare c first).1
  have kept : (signText l.minus ++ body).dropWhile Text.isAsciiBlank = signText l.minus ++ body := by
    cases same : signText l.minus ++ body with
    | nil => rfl
    | cons c rest =>
      rw [same] at stops
      exact List.dropWhile_cons_of_neg (by simp [stops c rfl])
  rw [text, List.append_assoc, List.dropWhile_append_of_pos l.isBlank, kept]
  exact sign_signText l.minus bare

theorem exists_signText (t : Text) : ∃ (minus : Option Bool) (body : Text),
    t = signText minus ++ body ∧ sign t = (minus.getD false, body) := by
  unfold sign
  split
  · exact ⟨some false, _, rfl, rfl⟩
  · exact ⟨some true, _, rfl, rfl⟩
  · exact ⟨none, t, rfl, rfl⟩

/-- Every text starts with a lead, if only an empty one. -/
theorem exists_sign (t : Text) : ∃ (l : Lead) (body : Text), t = l.text ++ body ∧
    sign (t.dropWhile Text.isAsciiBlank) = (l.negative, body) := by
  obtain ⟨minus, body, parts, signed⟩ := exists_signText (t.dropWhile Text.isAsciiBlank)
  refine ⟨⟨t.takeWhile Text.isAsciiBlank, minus, fun c => List.mem_takeWhile_imp⟩, body, ?_, signed⟩
  rw [text, List.append_assoc, ← parts]
  exact List.takeWhile_append_dropWhile.symm

end Lead

/-- An unsigned number as it is written: digits, and more of them after a point if there is
one. -/
structure Spelling where
  whole : Text
  places : Option Text := none
  isDigit : ∀ c ∈ whole ++ places.getD [], c.isDigit = true
  filled : whole ++ places.getD [] ≠ []

namespace Spelling

def text (s : Spelling) : Text :=
  match s.places with
  | none => s.whole
  | some places => s.whole ++ '.' :: places

def numeral (s : Spelling) : Numeral := ofDigits s.whole (s.places.getD [])

/-- A character that does not go on with the number. -/
def Stops (s : Spelling) (c : Char) : Prop := c.isDigit = false ∧ (c = '.' → s.places.isSome = true)

/-- The number that is spelled: that of its digits, those after the point as decimals. -/
def exact (s : Spelling) : Rat :=
  Digits.value (s.whole ++ s.places.getD []) / 10 ^ (s.places.getD []).length

theorem numeral_value (s : Spelling) : (s.numeral.value : Rat) = s.exact := value_ofDigits _ _

/-- A whole number with zeros in front up to a width. -/
def padded (width n : Nat) : Spelling where
  whole := Digits.padded width n
  isDigit := by simpa using fun c member => Digits.isDigit_of_mem_padded member
  filled := by simpa using Digits.padded_ne_nil width n

theorem value_padded (width n : Nat) :
    ((padded width n).numeral.value : α) = Scalar.ofDecimal n 0 := by
  simp [numeral, padded, Numeral.value, ofDigits, Digits.value_padded]

theorem exact_nonneg (s : Spelling) : 0 ≤ s.exact := by
  unfold exact
  positivity

theorem text_bare (s : Spelling) (rest : Text) : ∀ c ∈ (s.text ++ rest).head?, Lead.Bare c := by
  obtain ⟨whole, places, isDigit, filled⟩ := s
  cases whole with
  | cons d whole =>
    have first : (text ⟨d :: whole, places, isDigit, filled⟩ ++ rest).head? = some d := by
      cases places <;> rfl
    rw [first]
    rintro c ⟨⟩
    exact Lead.bare_of_isDigit (isDigit d (by simp))
  | nil =>
    cases places with
    | none => exact absurd rfl filled
    | some places =>
      rintro c ⟨⟩
      exact ⟨by decide, by decide, by decide⟩

/-- What starts with a digit is read as a whole, with a point or without one. -/
theorem startingWithDigit?_text (s : Spelling) {rest : Text} (first : s.whole ≠ [])
    (stops : ∀ c ∈ rest.head?, s.Stops c) :
    startingWithDigit? (s.text ++ rest) = some (s.numeral, rest) := by
  have ended : ∀ c ∈ rest.head?, c.isDigit = false := fun c member => (stops c member).1
  obtain ⟨whole, places, isDigit, filled⟩ := s
  have some_digit : whole.isEmpty = false := by simpa using first
  have whole_digits : ∀ c ∈ whole, c.isDigit = true := fun c member =>
    isDigit c (List.mem_append_left _ member)
  unfold startingWithDigit?
  cases places with
  | none =>
    have unpointed (rest' : Text) : rest ≠ '.' :: rest' := by
      rintro rfl
      cases (stops '.' rfl).2 rfl
    simp only [text, Digits.split_of_isDigit whole_digits ended, some_digit, Bool.false_eq_true,
      if_false]
    rfl
  | some places =>
    have place_digits : ∀ c ∈ places, c.isDigit = true := fun c member =>
      isDigit c (List.mem_append_right _ member)
    have point : ∀ c ∈ ('.' :: (places ++ rest)).head?, c.isDigit = false := by
      rintro c ⟨⟩
      decide
    simp only [text, List.append_assoc, List.cons_append, Digits.split_of_isDigit whole_digits point,
      Digits.split_of_isDigit place_digits ended, some_digit, Bool.false_eq_true, if_false]
    rfl

/-- A spelling is read as a whole, whatever follows that does not go on with it. -/
theorem unsigned?_text (s : Spelling) {rest : Text} (stops : ∀ c ∈ rest.head?, s.Stops c) :
    unsigned? (s.text ++ rest) = some (s.numeral, rest) := by
  by_cases first : s.whole = []
  · obtain ⟨whole, places, isDigit, filled⟩ := s
    cases first
    cases places with
    | none => exact absurd rfl filled
    | some places =>
      have some_place : places.isEmpty = false := by simpa using filled
      have read : Digits.split (places ++ rest) = (places, rest) :=
        Digits.split_of_isDigit isDigit fun c member => (stops c member).1
      simp only [unsigned?, text, List.nil_append, List.cons_append, read, some_place,
        Bool.false_eq_true, if_false]
      rfl
  · rw [← startingWithDigit?_text s first stops]
    obtain ⟨d, whole, same⟩ := List.exists_cons_of_ne_nil first
    have digit : d.isDigit = true := s.isDigit d (by simp [same])
    obtain ⟨more, starts⟩ : ∃ more, s.text ++ rest = d :: more := by
      unfold text
      rw [same]
      cases s.places <;> exact ⟨_, rfl⟩
    rw [starts]
    apply unsigned?_cons
    rintro rfl
    cases digit

theorem stops_of_ends (s : Spelling) {rest : Text} (ended : Ends rest) :
    ∀ c ∈ rest.head?, s.Stops c := by
  intro c first
  obtain ⟨no_digit, no_point, _⟩ := ended c first
  exact ⟨no_digit, fun point => absurd point no_point⟩

theorem withPower?_text (s : Spelling) {rest : Text} (first : s.whole ≠ []) (ended : Ends rest) :
    withPower? (s.text ++ rest) = some (s.numeral, rest) := by
  rw [withPower?, s.startingWithDigit?_text first (s.stops_of_ends ended)]
  simp only [power?_of_ends ended]

/-- Only spellings are read. -/
theorem exists_of_startingWithDigit? {t rest : Text} {n : Numeral}
    (read : startingWithDigit? t = some (n, rest)) :
    ∃ s : Spelling, t = s.text ++ rest ∧ (∀ c ∈ rest.head?, s.Stops c) ∧ n = s.numeral := by
  have parts := Digits.split_append t
  have ended := Digits.split_stops t
  simp only [startingWithDigit?, List.isEmpty_iff] at read
  split at read
  · cases read
  · rename_i filled
    split at read
    · rename_i after pointed
      cases read
      refine ⟨⟨(Digits.split t).1, some (Digits.split after).1, ?_, by simp [filled]⟩, ?_, ?_, rfl⟩
      · intro c member
        rcases List.mem_append.mp member with whole | place
        · exact Digits.isDigit_of_mem_split whole
        · exact Digits.isDigit_of_mem_split place
      · simp only [text, List.append_assoc, List.cons_append, Digits.split_append, ← pointed, parts]
      · exact fun c first => ⟨Digits.split_stops after c first, fun _ => rfl⟩
    · rename_i unpointed
      cases read
      refine ⟨⟨(Digits.split t).1, none, ?_, by simpa using filled⟩, parts.symm, ?_, rfl⟩
      · intro c member
        exact Digits.isDigit_of_mem_split (by simpa using member)
      · intro c first
        refine ⟨ended c first, ?_⟩
        rintro rfl
        obtain ⟨after, pointed⟩ := List.head?_eq_some_iff.mp first
        exact absurd pointed (unpointed after)

theorem exists_of_unsigned? {t rest : Text} {n : Numeral} (read : unsigned? t = some (n, rest)) :
    ∃ s : Spelling, t = s.text ++ rest ∧ (∀ c ∈ rest.head?, s.Stops c) ∧ n = s.numeral := by
  unfold unsigned? at read
  split at read
  · rename_i after
    simp only [List.isEmpty_iff] at read
    split at read
    · cases read
    · rename_i filled
      cases read
      refine ⟨⟨[], some (Digits.split after).1, ?_, filled⟩, ?_, ?_, rfl⟩
      · exact fun c member => Digits.isDigit_of_mem_split member
      · simp only [text, List.nil_append, List.cons_append, Digits.split_append]
      · exact fun c first => ⟨Digits.split_stops after c first, fun _ => rfl⟩
  · exact exists_of_startingWithDigit? read

end Spelling

theorem withPower?_digitsText {whole places rest : Text} (filled : whole ≠ [])
    (whole_digits : ∀ c ∈ whole, c.isDigit) (place_digits : ∀ c ∈ places, c.isDigit)
    (ended : Ends rest) :
    withPower? (digitsText whole places ++ rest) = some (ofDigits whole places, rest) := by
  unfold digitsText
  split_ifs with none_left
  · subst none_left
    let s : Spelling := ⟨whole, none, by simpa using whole_digits, by simpa using filled⟩
    exact s.withPower?_text filled ended
  · have digits : ∀ c ∈ whole ++ places, c.isDigit = true := fun c member =>
      (List.mem_append.mp member).elim (whole_digits c) (place_digits c)
    let s : Spelling := ⟨whole, some places, digits, by simp [filled]⟩
    exact s.withPower?_text filled ended

/-- A number as a scan finds it. -/
structure Entry where
  lead : Lead
  number : Spelling

namespace Entry

def text (e : Entry) : Text := e.lead.text ++ e.number.text

def value (e : Entry) : α := if e.lead.negative then -e.number.numeral.value else e.number.numeral.value

theorem value_unsigned {l : Lead} (unsigned : l.minus = none) (s : Spelling) :
    (value ⟨l, s⟩ : α) = s.numeral.value := by
  simp [value, Lead.negative, unsigned]

end Entry

/-- A scan accepts exactly the texts that start with a number, and reads it as far as it goes. -/
theorem scan?_eq_some {t rest : Text} {x : α} :
    scan? t = some (x, rest) ↔ ∃ e : Entry, t = e.text ++ rest ∧
      (∀ c ∈ rest.head?, e.number.Stops c) ∧ x = e.value := by
  constructor
  · intro read
    obtain ⟨lead, body, rfl, signed⟩ := Lead.exists_sign t
    unfold scan? at read
    rw [signed] at read
    obtain ⟨⟨n, after⟩, unsigned, result⟩ := Option.bind_eq_some_iff.mp read
    obtain ⟨s, rfl, stops, rfl⟩ := Spelling.exists_of_unsigned? unsigned
    cases result
    exact ⟨⟨lead, s⟩, (List.append_assoc _ _ _).symm, stops, rfl⟩
  · rintro ⟨e, rfl, stops, rfl⟩
    have signed := e.lead.sign_text (e.number.text_bare rest)
    unfold scan?
    rw [Entry.text, List.append_assoc, signed]
    simp only [e.number.unsigned?_text stops, bind, Option.bind]
    rfl

/-- The digits of a whole number are found after a lead, as far as they go. -/
theorem wholeDigits?_eq_some {t digits rest : Text} :
    wholeDigits? t = some (digits, rest) ↔ ∃ lead : Lead, t = lead.text ++ (digits ++ rest) ∧
      digits ≠ [] ∧ (∀ c ∈ digits, c.isDigit = true) ∧ ∀ c ∈ rest.head?, c.isDigit = false := by
  constructor
  · intro read
    obtain ⟨lead, body, rfl, signed⟩ := Lead.exists_sign t
    simp only [wholeDigits?, signed, List.isEmpty_iff] at read
    split at read
    · cases read
    · rename_i filled
      cases read
      refine ⟨lead, ?_, filled, fun c => Digits.isDigit_of_mem_split, Digits.split_stops body⟩
      rw [Digits.split_append]
  · rintro ⟨lead, rfl, filled, all, ended⟩
    have bare : ∀ c ∈ (digits ++ rest).head?, Lead.Bare c := by
      obtain ⟨d, digits, rfl⟩ := List.exists_cons_of_ne_nil filled
      rintro c ⟨⟩
      exact Lead.bare_of_isDigit (all d (by simp))
    have some_digit : digits.isEmpty = false := by simpa using filled
    simp only [wholeDigits?, lead.sign_text bare, Digits.split_of_isDigit all ended, some_digit]
    rfl

end Numeral
end Airspaces
