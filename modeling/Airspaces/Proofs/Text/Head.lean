import Airspaces.Text.Case
/-! Heads of lines. In capitals a line starts with the capitals of each of its heads, so that
all heads of a line start alike. -/
namespace Airspaces.Text

theorem upper_append (t u : Text) : upper (t ++ u) = upper t ++ upper u := List.flatMap_append

/-- A character has one capital, or one that is spelled with other letters. -/
theorem capital_cases (c : Char) :
    (∃ d, capital c = [d]) ∨ ∃ entry ∈ capitalSpellings, capital c = entry.2.map Char.ofNat := by
  unfold capital
  dsimp only
  by_cases ascii : c.toNat < 128
  · exact .inl ⟨_, if_pos ascii⟩
  · rw [if_neg ascii]
    split
    · rename_i found
      exact .inr ⟨_, List.mem_of_find?_eq_some found, rfl⟩
    · split <;> exact .inl ⟨_, rfl⟩

theorem capital_ne_nil (c : Char) : capital c ≠ [] := by
  have table : ∀ entry ∈ capitalSpellings, entry.2.map Char.ofNat ≠ [] := by decide +kernel
  rcases capital_cases c with ⟨d, one⟩ | ⟨entry, member, spelled⟩
  · rw [one]
    exact List.cons_ne_nil _ _
  · rw [spelled]
    exact table entry member

/-- Two characters with two capitals have one each. -/
theorem upper_pair {c d a b : Char} (head : upper [c, d] = [a, b]) :
    capital c = [a] ∧ capital d = [b] := by
  have parts : capital c ++ capital d = [a] ++ [b] := by simpa [upper] using head
  have first := List.length_pos_iff.mpr (capital_ne_nil c)
  have second := List.length_pos_iff.mpr (capital_ne_nil d)
  have both := congrArg List.length parts
  rw [List.length_append, List.length_append] at both
  apply List.append_inj parts
  simp only [List.length_singleton] at both ⊢
  omega

theorem upper_pair_iff {c d a b : Char} :
    upper [c, d] = [a, b] ↔ capital c = [a] ∧ capital d = [b] := by
  constructor
  · exact upper_pair
  · rintro ⟨first, second⟩
    rw [upper, List.flatMap_cons, List.flatMap_singleton, first, second]
    rfl

theorem afterHead?_eq_some {t head rest : Text} :
    afterHead? t head = some rest ↔
      upper (t.take head.length) = upper head ∧ t.drop head.length = rest := by
  unfold afterHead?
  split <;> simp_all

theorem afterHead?_text (head rest : Text) : afterHead? (head ++ rest) head = some rest := by
  simp [afterHead?]

theorem upper_parts {t head rest : Text} (starts : afterHead? t head = some rest) :
    upper t = upper head ++ upper rest := by
  obtain ⟨same, rfl⟩ := afterHead?_eq_some.mp starts
  rw [← same, ← upper_append, List.take_append_drop]

theorem upper_startsWith {t head rest : Text} (starts : afterHead? t head = some rest) :
    upper head <+: upper t := ⟨upper rest, (upper_parts starts).symm⟩

/-- A line has no other head, unless one of the two starts with the other. -/
theorem afterHead?_eq_none {t head head' rest : Text} (starts : afterHead? t head = some rest)
    (apart : ¬ upper head <+: upper head' ∧ ¬ upper head' <+: upper head) :
    afterHead? t head' = none := by
  cases found : afterHead? t head' with
  | none => rfl
  | some rest' =>
    obtain shorter | longer :=
      List.prefix_or_prefix_of_prefix (upper_startsWith starts) (upper_startsWith found)
    · exact absurd shorter apart.1
    · exact absurd longer apart.2

/-- Of heads none of which starts like another, a line has the only one that it starts with. -/
theorem findSome?_of_head {β γ : Type} {table : List (Text × β)} {t head rest : Text} {b : β}
    (apart : (table.map Prod.fst).Pairwise fun h h' =>
      ¬ upper h <+: upper h' ∧ ¬ upper h' <+: upper h)
    (listed : (head, b) ∈ table) (starts : afterHead? t head = some rest) (f : β → Text → γ) :
    (table.findSome? fun entry => (afterHead? t entry.1).map (f entry.2)) = some (f b rest) := by
  obtain ⟨before, after, rfl⟩ := List.append_of_mem listed
  rw [List.map_append, List.map_cons, List.pairwise_append] at apart
  have earlier : (before.findSome? fun entry => (afterHead? t entry.1).map (f entry.2)) = none := by
    rw [List.findSome?_eq_none_iff]
    intro entry member
    obtain ⟨shorter, longer⟩ := apart.2.2 entry.1 (List.mem_map_of_mem member) head (.head _)
    rw [afterHead?_eq_none starts ⟨longer, shorter⟩, Option.map_none]
  rw [List.findSome?_append, earlier, Option.none_or, List.findSome?_cons, starts, Option.map_some]

theorem upper_first {t head rest : Text} (starts : afterHead? t head = some rest)
    (filled : upper head ≠ []) : (upper t).head? = (upper head).head? := by
  obtain ⟨later, parts⟩ := upper_startsWith starts
  rw [← parts, List.head?_append, List.head?_eq_some_head filled, Option.some_or]

end Airspaces.Text
