import Airspaces.Proofs.Text.Head
import Mathlib.Data.List.Basic
/-! Letter case. A text can have its ASCII letters turned into capitals or into small ones, of
which neither moves a character. Heads, digits and separators are found in the same places, so
that a reader can be followed from a text to its capitals step by step. -/
namespace Airspaces.Text

/-- What holds of every character and itself, and of every ASCII capital and its small letter,
holds of what a character becomes as a capital. -/
theorem toUpper_induct {P : Char → Char → Prop} (same : ∀ c, P c c)
    (letters : ∀ n < 26, P (Char.ofNat (65 + n)) (Char.ofNat (97 + n))) (c : Char) :
    P c.toUpper c := by
  have table : ∀ n < 26, (Char.ofNat (97 + n)).toUpper = Char.ofNat (65 + n) := by decide
  by_cases small : 97 ≤ c.toNat ∧ c.toNat ≤ 122
  · obtain ⟨n, position⟩ := Nat.exists_eq_add_of_le small.1
    have bound : n < 26 := by omega
    rw [← Char.ofNat_toNat c, position, table n bound]
    exact letters n bound
  · have kept : c.toUpper = c := by
      refine dif_neg fun between => small ?_
      simpa [UInt32.le_iff_toNat_le] using between
    rw [kept]
    exact same c

theorem isDigit_toUpper (c : Char) : c.toUpper.isDigit = c.isDigit :=
  toUpper_induct (P := fun a b => a.isDigit = b.isDigit) (fun _ => rfl) (by decide) c

theorem toUpper_of_isDigit {c : Char} : c.isDigit → c.toUpper = c :=
  toUpper_induct (P := fun a b => b.isDigit → a = b) (fun _ _ => rfl) (by decide) c

theorem isAsciiBlank_toUpper (c : Char) : isAsciiBlank c.toUpper = isAsciiBlank c :=
  toUpper_induct (P := fun a b => isAsciiBlank a = isAsciiBlank b) (fun _ => rfl) (by decide) c

theorem capital_toUpper (c : Char) : capital c.toUpper = capital c :=
  toUpper_induct (P := fun a b => capital a = capital b) (fun _ => rfl) (by decide) c

/-- A character that is no ASCII letter. -/
def IsPlain (d : Char) : Prop := ∀ n < 26, d ≠ Char.ofNat (65 + n) ∧ d ≠ Char.ofNat (97 + n)

instance (d : Char) : Decidable (IsPlain d) := inferInstanceAs (Decidable (∀ n < 26, _))

theorem toUpper_eq_iff {d : Char} (plain : IsPlain d) (c : Char) : c.toUpper = d ↔ c = d := by
  refine toUpper_induct (P := fun a b => a = d ↔ b = d) (fun _ => Iff.rfl) (fun n bound => ?_) c
  obtain ⟨capital, small⟩ := plain n bound
  exact iff_of_false capital.symm small.symm

theorem toUpper_ne {c d : Char} (plain : IsPlain d) (other : c ≠ d) : c.toUpper ≠ d :=
  mt (toUpper_eq_iff plain c).mp other

/-- One letter in either case. -/
theorem toUpper_letter {d e : Char}
    (pair : ∀ n < 26, Char.ofNat (65 + n) = d ∨ Char.ofNat (65 + n) = e ↔
      Char.ofNat (97 + n) = d ∨ Char.ofNat (97 + n) = e) (c : Char) :
    c.toUpper = d ∨ c.toUpper = e ↔ c = d ∨ c = e :=
  toUpper_induct (P := fun a b => a = d ∨ a = e ↔ b = d ∨ b = e) (fun _ => Iff.rfl) pair c

/-- The text with capitals for its small ASCII letters. -/
def capitals (t : Text) : Text := t.map Char.toUpper

/-- The text with small letters for its ASCII capitals. -/
def smalls (t : Text) : Text := t.map Char.toLower

/-- What was read, with what follows in capitals. -/
def thenCapitals {β : Type} (found : β × Text) : β × Text := (found.1, capitals found.2)

@[simp] theorem capitals_nil : capitals [] = [] := rfl

@[simp] theorem capitals_cons (c : Char) (t : Text) :
    capitals (c :: t) = c.toUpper :: capitals t := rfl

theorem capitals_take (n : Nat) (t : Text) : (capitals t).take n = capitals (t.take n) :=
  List.map_take.symm

theorem capitals_drop (n : Nat) (t : Text) : (capitals t).drop n = capitals (t.drop n) :=
  List.map_drop.symm

theorem upper_capitals (t : Text) : upper (capitals t) = upper t := by
  unfold upper capitals
  rw [List.flatMap_map]
  exact List.flatMap_congr fun c _ => capital_toUpper c

theorem afterHead?_capitals (t head : Text) :
    afterHead? (capitals t) head = (afterHead? t head).map capitals := by
  unfold afterHead?
  rw [capitals_take, upper_capitals, capitals_drop]
  split <;> rfl

theorem startsWithWord_capitals (t word : Text) :
    startsWithWord (capitals t) word = startsWithWord t word := by
  unfold startsWithWord
  rw [capitals_take, upper_capitals]

/-- What stops at a letter in either case stops at the same place. -/
theorem dropWhile_capitals {p : Char → Bool} (blind : ∀ c, p c.toUpper = p c) (t : Text) :
    (capitals t).dropWhile p = capitals (t.dropWhile p) := by
  unfold capitals
  rw [List.dropWhile_map]
  exact congrArg _ (congrArg (List.dropWhile · t) (funext blind))

theorem bne_toUpper {d : Char} (plain : IsPlain d) (c : Char) : (c.toUpper != d) = (c != d) := by
  rw [Bool.eq_iff_iff, bne_iff_ne, bne_iff_ne]
  exact not_congr (toUpper_eq_iff plain c)

theorem from?_capitals {d : Char} (plain : IsPlain d) (t : Text) :
    from? d (capitals t) = (from? d t).map capitals := by
  unfold from?
  rw [dropWhile_capitals (bne_toUpper plain)]
  cases t.dropWhile (· != d) <;> rfl

theorem after?_capitals {d : Char} (plain : IsPlain d) (t : Text) :
    after? d (capitals t) = (after? d t).map capitals := by
  unfold after?
  rw [dropWhile_capitals (bne_toUpper plain)]
  cases t.dropWhile (· != d) <;> rfl

/-- What holds of the ASCII characters one by one. -/
theorem ascii_forall {P : Char → Prop} (table : ∀ n < 128, P (Char.ofNat n)) {c : Char}
    (ascii : c.toNat < 128) : P c := by
  have found := table c.toNat ascii
  rwa [Char.ofNat_toNat] at found

theorem capital_of_isDigit {d : Char} (digit : d.isDigit = true) : capital d = [d] := by
  have ascii : d.toNat < 128 := by
    simp only [Char.isDigit, Bool.and_eq_true, decide_eq_true_eq, UInt32.le_iff_toNat_le] at digit
    exact Nat.lt_of_le_of_lt digit.2 (by decide)
  exact ascii_forall (P := fun d => d.isDigit = true → capital d = [d]) (by decide) ascii digit

theorem upper_smalls {t : Text} (ascii : ∀ c ∈ t, c.toNat < 128) : upper (smalls t) = upper t := by
  unfold upper smalls
  rw [List.flatMap_map]
  exact List.flatMap_congr fun c member =>
    ascii_forall (P := fun c => capital c.toLower = capital c) (by decide) (ascii c member)

/-- The capitals of an ASCII text are those of its small letters. -/
theorem capitals_smalls {t : Text} (ascii : ∀ c ∈ t, c.toNat < 128) :
    capitals (smalls t) = upper t := by
  unfold capitals smalls upper
  rw [List.map_map, List.map_eq_flatMap]
  exact List.flatMap_congr fun c member =>
    ascii_forall (P := fun c => [c.toLower.toUpper] = capital c) (by decide) (ascii c member)

end Airspaces.Text
