import Airspaces.Proofs.Altitude.Quantity
import Airspaces.Proofs.Number.Blank
import Airspaces.Proofs.Text.LetterCase
/-! Spaces in altitudes. In an ASCII text no word goes across a space and none depends on what
comes after one, so that a text is read part by part, each from the draft that the part before it
has left. How many spaces there are does not matter. -/
namespace Airspaces

namespace Text

/-- ASCII characters have one capital each. -/
theorem upper_length {t : Text} (ascii : ∀ c ∈ t, c.toNat < 128) : (upper t).length = t.length := by
  rw [← capitals_smalls ascii, capitals, smalls, List.length_map, List.length_map]

/-- A text that is shorter than a keyword has not the keyword with what follows a space. -/
theorem startsWithWord_blank {t word : Text} (ascii : ∀ c ∈ t, c.toNat < 128) (solid : ' ' ∉ word)
    (more : Text) : startsWithWord (t ++ ' ' :: more) word = startsWithWord t word := by
  unfold startsWithWord
  by_cases short : word.length ≤ t.length
  · rw [List.take_append_of_le_length short]
  · -- With what follows, the letters that are compared have the space among them.
    have beyond : upper ((t ++ ' ' :: more).take word.length) ≠ word := by
      intro same
      obtain ⟨n, size⟩ := Nat.exists_eq_succ_of_ne_zero (Nat.sub_ne_zero_of_lt (not_le.mp short))
      apply solid
      rw [← same, List.take_append, size, upper, List.mem_flatMap]
      exact ⟨' ', by simp, by decide⟩
    have within : upper (t.take word.length) ≠ word := by
      intro same
      have size := congrArg List.length same
      rw [List.take_of_length_le (by omega), upper_length ascii] at size
      omega
    rw [beq_eq_false_iff_ne.mpr beyond, beq_eq_false_iff_ne.mpr within]

theorem length_of_startsWithWord {t word : Text} (ascii : ∀ c ∈ t, c.toNat < 128)
    (starts : startsWithWord t word = true) : word.length ≤ t.length := by
  have size := congrArg List.length (beq_iff_eq.mp starts)
  rw [upper_length fun c member => ascii c (List.mem_of_mem_take member), List.length_take] at size
  omega

end Text

namespace Altitude

open Text (thenBlank)

namespace Token

theorem word?_blank (words : List (Text × Token)) (solid : ∀ w ∈ words, ' ' ∉ w.1) {t : Text}
    (ascii : ∀ c ∈ t, c.toNat < 128) (more : Text) :
    word? words (t ++ ' ' :: more) = (word? words t).map (thenBlank more) := by
  induction words with
  | nil => rfl
  | cons w words ih =>
    have later := ih fun w member => solid w (List.mem_cons_of_mem _ member)
    have same := Text.startsWithWord_blank ascii (solid w List.mem_cons_self) more
    unfold word? at later ⊢
    simp only [List.findSome?_cons, same]
    cases starts : Text.startsWithWord t w.1 with
    | false => simpa using later
    | true =>
      have bound := Text.length_of_startsWithWord ascii starts
      simp [thenBlank, List.drop_append_of_le_length bound]

theorem dropFootLetter_blank (t more : Text) :
    dropFootLetter (t ++ ' ' :: more) = dropFootLetter t ++ ' ' :: more := by
  cases t with
  | nil => rfl
  | cons c t =>
    by_cases letter : c = 'T' ∨ c = 't'
    · obtain rfl | rfl := letter <;> rfl
    · obtain ⟨capital, small⟩ := not_or.mp letter
      simp [dropFootLetter, capital, small]

/-- The first word of a text is the same if a space comes after the text. -/
theorem next_blank {c : Char} {rest : Text} (ascii : ∀ d ∈ c :: rest, d.toNat < 128)
    (more : Text) : next c (rest ++ ' ' :: more) = thenBlank more (next c rest) := by
  have first := word?_blank firstWords (by decide) ascii more
  have last := word?_blank lastWords (by decide) ascii more
  have sea := Text.startsWithWord_blank ascii (show ' ' ∉ ['M', 'S', 'L'] by decide) more
  have number := Numeral.withPower?_blank (c :: rest) more
  rw [List.cons_append] at first last sea number
  -- The branches are tried in the same order, each with the answer that the text alone gives.
  unfold next
  simp only [first, last, sea, number, dropFootLetter_blank]
  by_cases space : c = ' '
  · rw [if_pos space, if_pos space]
    rfl
  by_cases digit : c.isDigit
  · rw [if_neg space, if_neg space, if_pos digit, if_pos digit]
    cases Numeral.withPower? (c :: rest) <;> rfl
  rw [if_neg space, if_neg space, if_neg digit, if_neg digit]
  cases word? firstWords (c :: rest) with
  | some found => rfl
  | none =>
    dsimp only [Option.map]
    by_cases foot : c = 'F' ∨ c = 'f'
    · rw [if_pos foot, if_pos foot]
      rfl
    rw [if_neg foot, if_neg foot]
    by_cases meanSea : Text.startsWithWord (c :: rest) ['M', 'S', 'L']
    · have bound : 3 ≤ (c :: rest).length := Text.length_of_startsWithWord ascii meanSea
      rw [if_pos meanSea, if_pos meanSea, ← List.cons_append, List.drop_append_of_le_length bound]
      rfl
    rw [if_neg meanSea, if_neg meanSea]
    cases word? lastWords (c :: rest) <;> dsimp only [Option.map] <;> split_ifs <;> rfl

theorem word?_suffix {words : List (Text × Token)} {t rest : Text} {token : Token}
    (found : word? words t = some (token, rest)) : rest <:+ t := by
  obtain ⟨w, -, same⟩ := List.exists_of_findSome?_eq_some found
  dsimp only at same
  split_ifs at same
  cases same
  exact List.drop_suffix _ t

theorem dropFootLetter_suffix (t : Text) : dropFootLetter t <:+ t := by
  unfold dropFootLetter
  split
  · exact List.suffix_cons _ _
  · exact List.suffix_cons _ _
  · exact List.suffix_rfl

/-- What follows a word is what is left of the text. -/
theorem next_suffix (c : Char) (rest : Text) : (next c rest).2 <:+ c :: rest := by
  have after : rest <:+ c :: rest := List.suffix_cons c rest
  dsimp only [next]
  split
  · exact after
  split
  · split
    · rename_i found
      exact Numeral.withPower?_suffix found
    · exact after
  split
  · rename_i found
    exact word?_suffix found
  split
  · exact (dropFootLetter_suffix rest).trans after
  split
  · exact List.drop_suffix 3 _
  split
  · exact after
  split
  · rename_i found
    exact word?_suffix found
  · exact after

theorem scan_append_blank {t : Text} (ascii : ∀ c ∈ t, c.toNat < 128) (u : Text) :
    scan (t ++ ' ' :: u) = scan t ++ blank :: scan u := by
  fun_induction scan t with
  | case1 => exact scan_blank u
  | case2 c rest ih =>
    have later := ih fun d member => ascii d ((next_suffix c rest).subset member)
    rw [List.cons_append, scan, next_blank ascii, List.cons_append]
    exact congrArg _ later

end Token

namespace Draft

variable {α : Type} [Scalar α]

theorem after_append_blank {t : Text} (ascii : ∀ c ∈ t, c.toNat < 128) (u : Text) (d : Draft α) :
    d.after (t ++ ' ' :: u) = (d.after t).after u := by
  rw [after, Token.scan_append_blank ascii, List.foldl_append]
  rfl

theorem after_blanks (d : Draft α) (k : Nat) (t : Text) :
    d.after (List.replicate k ' ' ++ t) = d.after t := by
  induction k with
  | zero => rfl
  | succ k ih => rw [List.replicate_succ, List.cons_append, after_blank, ih]

end Draft

theorem read_of_after {α : Type} [Scalar α] {t u : Text}
    (same : (Draft.start : Draft α).after t = Draft.start.after u) :
    (read t : Altitude α) = read u := congrArg Draft.finish same

/-- A space parts the words before it from those after it: the second part is read from the draft
that the first part leaves. Further spaces do nothing, neither there nor at the ends of a text. -/
theorem read_in_parts {t : Text} (ascii : ∀ c ∈ t, c.toNat < 128) (u : Text) :
    Token.scan (t ++ ' ' :: u) = Token.scan t ++ .blank :: Token.scan u ∧
    ∀ (α : Type) [Scalar α],
      (∀ d : Draft α, d.after (t ++ ' ' :: u) = (d.after t).after u) ∧
      ∀ k : Nat,
        (read (t ++ List.replicate (k + 1) ' ' ++ u) : Altitude α) = read (t ++ ' ' :: u) ∧
        (read (List.replicate k ' ' ++ t) : Altitude α) = read t ∧
        (read (t ++ List.replicate k ' ') : Altitude α) = read t := by
  refine ⟨Token.scan_append_blank ascii u, ?_⟩
  intro α _
  have parts (u : Text) (d : Draft α) := Draft.after_append_blank ascii u d
  refine ⟨parts u, ?_⟩
  intro k
  refine ⟨read_of_after ?_, read_of_after (Draft.after_blanks _ k t), read_of_after ?_⟩
  · rw [List.replicate_succ, List.append_assoc, List.cons_append, parts, Draft.after_blanks, parts]
  · cases k with
    | zero => rw [List.replicate_zero, List.append_nil]
    | succ k =>
      rw [List.replicate_succ, parts, ← List.append_nil (List.replicate k ' '), Draft.after_blanks,
        Draft.after_nil]

/-- A foot sign, a power of ten and a number that a space cuts off from what would go on with
them. -/
theorem read_in_parts_of_cut_words :
    let t := "2500F 1e".toList
    Token.scan "2500F 1e L9 5".toList = Token.scan t ++ .blank :: Token.scan "L9 5".toList ∧
      (read "2500F 1e   L9 5".toList : Altitude Float) = read "2500F 1e L9 5".toList ∧
      (read "2500F 1e  ".toList : Altitude Float) = read t := by
  intro t
  have ascii : ∀ c ∈ t, c.toNat < 128 := by simp [t]
  obtain ⟨words, drafts⟩ := read_in_parts ascii "L9 5".toList
  obtain ⟨-, spaced⟩ := drafts Float
  exact ⟨words, (spaced 2).1, (spaced 2).2.2⟩

/-- The capitals of one character can be a word that ends the text and none before a space. -/
example : Token.scan ['ﬂ'] = [.level] ∧ Token.scan ['ﬂ', ' '] = [.other, .blank] := by
  decide +kernel

end Altitude
end Airspaces
