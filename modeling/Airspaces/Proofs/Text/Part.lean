import Airspaces.File.Kind
import Mathlib.Data.List.TakeWhile
/-! Parts of a line. What is read of a line is found in it as it stands: a value after its head
or after a space, and the line itself in what the source hands out. -/
namespace Airspaces.Text

theorem afterHead?_suffix {t head rest : Text} (starts : afterHead? t head = some rest) :
    rest <:+ t := by
  unfold afterHead? at starts
  split at starts
  · cases starts
    exact List.drop_suffix _ t
  · cases starts

theorem from?_suffix {c : Char} {t rest : Text} (found : from? c t = some rest) : rest <:+ t := by
  have whole : t.dropWhile (· != c) <:+ t := List.dropWhile_suffix _
  unfold from? at found
  split at found
  · cases found
  · cases found
    exact whole

theorem after?_suffix {c : Char} {t rest : Text} (found : after? c t = some rest) : rest <:+ t := by
  have whole : t.dropWhile (· != c) <:+ t := List.dropWhile_suffix _
  unfold after? at found
  split at found
  · cases found
  · rename_i first rest same
    cases found
    rw [same] at whole
    exact (List.suffix_cons first rest).trans whole

section
variable {c : Char} {t : Text}

theorem bne_of_not_mem (absent : c ∉ t) : ∀ d ∈ t, (d != c) = true := by
  intro d member
  rw [bne_iff_ne]
  rintro rfl
  exact absent member

theorem dropWhile_before (absent : c ∉ t) (rest : Text) :
    (t ++ c :: rest).dropWhile (· != c) = c :: rest := by
  rw [List.dropWhile_append_of_pos (bne_of_not_mem absent)]
  simp

theorem after?_text (absent : c ∉ t) (rest : Text) : after? c (t ++ c :: rest) = some rest := by
  simp only [after?, dropWhile_before absent]

theorem from?_text (absent : c ∉ t) (rest : Text) :
    from? c (t ++ c :: rest) = some (c :: rest) := by
  simp only [from?, dropWhile_before absent]

theorem from?_of_not_mem (absent : c ∉ t) : from? c t = none := by
  have nothing : t.dropWhile (· != c) = [] :=
    List.dropWhile_eq_nil_iff.mpr (bne_of_not_mem absent)
  rw [from?, nothing]

theorem after?_cons {d : Char} (other : d ≠ c) (t : Text) : after? c (d :: t) = after? c t := by
  simp [after?, other]

end

theorem trimEndBy_prefix (p : Char → Bool) (t : Text) : trimEndBy p t <+: t := by
  have reversed : t.reverse.dropWhile p <:+ t.reverse := List.dropWhile_suffix p
  have turned := List.reverse_prefix.mpr reversed
  rwa [List.reverse_reverse] at turned

end Airspaces.Text

namespace Airspaces

theorem stripComment_part (raw : Text) : stripComment raw <:+: raw :=
  ((Text.trimEndBy_prefix Text.isBlank _).trans (List.takeWhile_prefix _)).isInfix

end Airspaces
