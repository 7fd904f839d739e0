import Airspaces.Text.Encoding
import Mathlib.Tactic.ByContra
import Mathlib.Tactic.SplitIfs
/-! UTF-8 as it is decoded. A line feed ends whatever character is still open, so that bytes can
be decoded line by line, and the bytes of a text are decoded into its characters. -/
namespace Airspaces.Encoding

/-- What is known of every open character: its further bytes lie beyond the one-byte characters,
and so does the character that they make up. -/
structure Open.Sound (o : Open) : Prop where
  next : 0x80 ≤ o.next.1
  later : ∀ range ∈ o.later, 0x80 ≤ range.1
  grown : 1 ≤ o.bits ∨ 0x90 ≤ o.next.1 ∧ o.next.2 ≤ 0xBF ∧ o.later ≠ []

theorem lead_whole {b : UInt8} {c : Char} (told : lead b = .whole c) :
    b.toNat < 0x80 ∧ c = Char.ofNat b.toNat := by
  unfold lead at told
  dsimp only at told
  split_ifs at told with small
  cases told
  exact ⟨small, rfl⟩

theorem lead_opens {b : UInt8} {o : Open} (told : lead b = .opens o) :
    0x80 ≤ b.toNat ∧ o.Sound := by
  unfold lead at told
  dsimp only at told
  split_ifs at told
  all_goals
    cases told
    refine ⟨by omega, by simp, by simp, ?_⟩
    dsimp only
    simp only [ne_eq, List.cons_ne_nil, not_false_eq_true, not_true_eq_false, and_true, and_false]
    omega

theorem lead_bad {b : UInt8} (told : lead b = .bad) : 0x80 ≤ b.toNat := by
  unfold lead at told
  dsimp only at told
  split_ifs at told <;> omega

theorem ofNat_ne_lineFeed {n : Nat} (other : n ≠ 10) : Char.ofNat n ≠ '\n' := by
  intro same
  by_cases valid : n.isValidChar
  · rw [Char.ofNat, dif_pos valid] at same
    exact other (congrArg Char.toNat same)
  · rw [Char.ofNat, dif_neg valid] at same
    cases same

namespace Decoding

def Sound (d : Decoding) : Prop := ∀ o ∈ d.pending, o.Sound

/-- The pieces if an open character is not continued, the last one first. -/
def closed (d : Decoding) : List Piece :=
  match d.pending with
  | none => d.pieces
  | some o => .error o.bytes :: d.pieces

theorem finish_eq (d : Decoding) : d.finish = d.closed.reverse := by
  unfold finish closed
  cases d.pending <;> rfl

/-- All that a byte can do. -/
inductive Moves (d : Decoding) (b : UInt8) : Decoding → Prop where
  | whole (small : b.toNat < 0x80) : Moves d b ⟨.ok (Char.ofNat b.toNat) :: d.closed, none⟩
  | opens {o : Open} (large : 0x80 ≤ b.toNat) (sound : o.Sound) : Moves d b ⟨d.closed, some o⟩
  | bad (large : 0x80 ≤ b.toNat) : Moves d b ⟨.error [b] :: d.closed, none⟩
  | goes {o : Open} (large : 0x80 ≤ b.toNat) (sound : o.Sound) : Moves d b ⟨d.pieces, some o⟩
  | ends {c : Char} (large : 0x80 ≤ b.toNat) (other : c ≠ '\n') :
      Moves d b ⟨.ok c :: d.pieces, none⟩

theorem start_moves (d : Decoding) (b : UInt8) : d.Moves b (start ⟨d.closed, none⟩ b) := by
  unfold start
  cases told : lead b with
  | whole c =>
    obtain ⟨small, rfl⟩ := lead_whole told
    exact .whole small
  | opens o =>
    obtain ⟨large, sound⟩ := lead_opens told
    exact .opens large sound
  | bad => exact .bad (lead_bad told)

theorem push_moves {d : Decoding} (sound : d.Sound) (b : UInt8) : d.Moves b (d.push b) := by
  obtain ⟨pieces, pending⟩ := d
  cases pending with
  | none => exact start_moves ⟨pieces, none⟩ b
  | some o =>
    obtain ⟨next, later, grown⟩ := sound o rfl
    unfold push
    dsimp only
    split_ifs with within
    · have large : 0x80 ≤ b.toNat := Nat.le_trans next within.1
      cases same : o.later with
      | nil =>
        have filled : 1 ≤ o.bits := by simpa [same] using grown
        exact .ends large (ofNat_ne_lineFeed (by omega))
      | cons range rest =>
        rw [same] at later
        refine .goes large ⟨later range List.mem_cons_self, ?_, .inl ?_⟩
        · intro other member
          exact later other (List.mem_cons_of_mem _ member)
        · dsimp only
          obtain filled | ⟨low, high, _⟩ := grown <;> omega
    · exact start_moves ⟨pieces, some o⟩ b

theorem Moves.sound {d e : Decoding} {b : UInt8} (moves : d.Moves b e) : e.Sound := by
  intro o opened
  cases moves with
  | opens large kept | goes large kept =>
    cases opened
    exact kept
  | whole | bad | ends => cases opened

/-- Every byte shows. -/
theorem Moves.closed_ne_nil {d e : Decoding} {b : UInt8} (moves : d.Moves b e) : e.closed ≠ [] := by
  cases moves <;> exact List.cons_ne_nil _ _

/-- A line feed ends an open character, and is a character by itself. -/
theorem Moves.eq_of_lineFeed {d e : Decoding} (moves : d.Moves 10 e) :
    e = ⟨.ok '\n' :: d.closed, none⟩ := by
  have small : ¬ 0x80 ≤ (10 : UInt8).toNat := by decide
  cases moves with
  | whole => rfl
  | opens large | bad large | goes large | ends large => exact absurd large small

theorem mem_closed_of_mem_pieces {d : Decoding} {piece : Piece} (member : piece ∈ d.pieces) :
    piece ∈ d.closed := by
  unfold closed
  cases d.pending with
  | none => exact member
  | some o => exact List.mem_cons_of_mem _ member

/-- Only a line feed is decoded as one. -/
theorem Moves.lineFeed {d e : Decoding} {b : UInt8} (moves : d.Moves b e)
    (member : .ok '\n' ∈ e.closed) : b = 10 ∨ .ok '\n' ∈ d.closed := by
  cases moves with
  | whole small =>
    obtain same | earlier := List.mem_cons.mp member
    · refine .inl (UInt8.toNat_inj.mp ?_)
      by_contra other
      exact ofNat_ne_lineFeed other (Except.ok.inj same).symm
    · exact .inr earlier
  | opens | bad =>
    obtain same | earlier := List.mem_cons.mp member
    · cases same
    · exact .inr earlier
  | goes =>
    obtain same | earlier := List.mem_cons.mp member
    · cases same
    · exact .inr (mem_closed_of_mem_pieces earlier)
  | ends large other =>
    obtain same | earlier := List.mem_cons.mp member
    · exact absurd (Except.ok.inj same).symm other
    · exact .inr (mem_closed_of_mem_pieces earlier)

theorem sound_start : Sound {} := by
  intro o opened
  cases opened

theorem foldl_push_sound {d : Decoding} (sound : d.Sound) (bytes : List UInt8) :
    (bytes.foldl push d).Sound := by
  induction bytes generalizing d with
  | nil => exact sound
  | cons b rest ih => exact ih (push_moves sound b).sound

theorem lineFeed_of_foldl_push {d : Decoding} (sound : d.Sound) {bytes : List UInt8}
    (member : .ok '\n' ∈ (bytes.foldl push d).closed) : 10 ∈ bytes ∨ .ok '\n' ∈ d.closed := by
  induction bytes generalizing d with
  | nil => exact .inr member
  | cons b rest ih =>
    have moves := push_moves sound b
    obtain later | now := ih moves.sound member
    · exact .inl (List.mem_cons_of_mem _ later)
    · obtain rfl | earlier := moves.lineFeed now
      · exact .inl List.mem_cons_self
      · exact .inr earlier

/-- The pieces so far are not looked at again. -/
theorem push_pieces (pieces : List Piece) (pending : Option Open) (b : UInt8) :
    push ⟨pieces, pending⟩ b =
      ⟨(push ⟨[], pending⟩ b).pieces ++ pieces, (push ⟨[], pending⟩ b).pending⟩ := by
  have starts : ∀ early : List Piece, start ⟨early ++ pieces, none⟩ b =
      ⟨(start ⟨early, none⟩ b).pieces ++ pieces, (start ⟨early, none⟩ b).pending⟩ := by
    intro early
    unfold start
    cases lead b <;> rfl
  cases pending with
  | none => exact starts []
  | some o =>
    unfold push
    dsimp only
    split_ifs
    · cases o.later <;> rfl
    · exact starts [.error o.bytes]

theorem foldl_push_pieces (pieces : List Piece) (pending : Option Open) (bytes : List UInt8) :
    bytes.foldl push ⟨pieces, pending⟩ =
      ⟨(bytes.foldl push ⟨[], pending⟩).pieces ++ pieces,
        (bytes.foldl push ⟨[], pending⟩).pending⟩ := by
  induction bytes generalizing pieces pending with
  | nil => rfl
  | cons b rest ih =>
    rw [List.foldl_cons, List.foldl_cons, push_pieces pieces]
    generalize push ⟨[], pending⟩ b = e
    obtain ⟨early, later⟩ := e
    rw [ih (early ++ pieces), ih early, List.append_assoc]

theorem closed_append (early pieces : List Piece) (pending : Option Open) :
    (⟨early ++ pieces, pending⟩ : Decoding).closed = closed ⟨early, pending⟩ ++ pieces := by
  unfold closed
  cases pending <;> rfl

end Decoding

theorem utf8Pieces_ne_nil {bytes : List UInt8} (some_byte : bytes ≠ []) : utf8Pieces bytes ≠ [] := by
  obtain rfl | ⟨early, b, rfl⟩ := List.eq_nil_or_concat bytes
  · exact absurd rfl some_byte
  · have moves := Decoding.push_moves (Decoding.foldl_push_sound Decoding.sound_start early) b
    rw [utf8Pieces, Decoding.finish_eq, List.concat_eq_append, List.foldl_append]
    simpa using moves.closed_ne_nil

/-- The bytes before a line feed are decoded by themselves, and so are those after it. -/
theorem utf8Pieces_lineFeed (before after : List UInt8) :
    utf8Pieces (before ++ 10 :: after) =
      utf8Pieces before ++ .ok '\n' :: utf8Pieces after := by
  have sound := Decoding.foldl_push_sound Decoding.sound_start before
  simp only [utf8Pieces, Decoding.finish_eq, List.foldl_append, List.foldl_cons,
    (Decoding.push_moves sound 10).eq_of_lineFeed]
  rw [Decoding.foldl_push_pieces, Decoding.closed_append, List.reverse_append, List.reverse_cons,
    List.append_assoc, List.singleton_append]

theorem lineFeed_mem_of_utf8Pieces {bytes : List UInt8} (member : .ok '\n' ∈ utf8Pieces bytes) :
    10 ∈ bytes := by
  rw [utf8Pieces, Decoding.finish_eq, List.mem_reverse] at member
  obtain found | none_before := Decoding.lineFeed_of_foldl_push Decoding.sound_start member
  · exact found
  · cases none_before

section
variable {b : UInt8}

theorem lead_one (high : b.toNat < 0x80) : lead b = .whole (Char.ofNat b.toNat) := if_pos high

theorem lead_two (low : 0xC2 ≤ b.toNat) (high : b.toNat < 0xE0) :
    lead b = .opens ⟨[b], b.toNat - 0xC0, (0x80, 0xBF), []⟩ := by
  unfold lead
  dsimp only
  rw [if_neg (by omega), if_neg (by omega), if_pos high]

theorem lead_three (low : 0xE0 ≤ b.toNat) (high : b.toNat < 0xF0) :
    lead b = .opens ⟨[b], b.toNat - 0xE0,
      if b.toNat = 0xE0 then (0xA0, 0xBF) else if b.toNat = 0xED then (0x80, 0x9F)
        else (0x80, 0xBF), [(0x80, 0xBF)]⟩ := by
  unfold lead
  dsimp only
  rw [if_neg (by omega), if_neg (by omega), if_neg (by omega), if_pos high]

theorem lead_four (low : 0xF0 ≤ b.toNat) (high : b.toNat < 0xF5) :
    lead b = .opens ⟨[b], b.toNat - 0xF0,
      if b.toNat = 0xF0 then (0x90, 0xBF) else if b.toNat = 0xF4 then (0x80, 0x8F)
        else (0x80, 0xBF), [(0x80, 0xBF), (0x80, 0xBF)]⟩ := by
  unfold lead
  dsimp only
  rw [if_neg (by omega), if_neg (by omega), if_neg (by omega), if_neg (by omega), if_pos high]
end

namespace Decoding

variable (pieces : List Piece) {b : UInt8}

theorem push_whole {c : Char} (told : lead b = .whole c) :
    push ⟨pieces, none⟩ b = ⟨.ok c :: pieces, none⟩ := by
  rw [push, start, told]

theorem push_opens {o : Open} (told : lead b = .opens o) :
    push ⟨pieces, none⟩ b = ⟨pieces, some o⟩ := by
  rw [push, start, told]

/-- A byte that an open character waits for. -/
theorem push_next {range next : Nat × Nat} {bits : Nat} {bytes : List UInt8}
    {later : List (Nat × Nat)} (within : range.1 ≤ b.toNat ∧ b.toNat ≤ range.2) :
    push ⟨pieces, some ⟨bytes, bits, range, next :: later⟩⟩ b =
      ⟨pieces, some ⟨bytes ++ [b], bits * 64 + b.toNat % 64, next, later⟩⟩ :=
  if_pos within

theorem push_last {range : Nat × Nat} {bits : Nat} {bytes : List UInt8}
    (within : range.1 ≤ b.toNat ∧ b.toNat ≤ range.2) :
    push ⟨pieces, some ⟨bytes, bits, range, []⟩⟩ b =
      ⟨.ok (Char.ofNat (bits * 64 + b.toNat % 64)) :: pieces, none⟩ :=
  if_pos within

end Decoding

theorem toNat_toUInt8 {n : Nat} (small : n < 256) : n.toUInt8.toNat = n := by
  rw [Nat.toUInt8, UInt8.toNat_ofNat']
  omega

/-- The bytes of a character are decoded as the character. -/
theorem foldl_push_utf8Bytes (pieces : List Piece) (c : Char) :
    (utf8Bytes c).foldl Decoding.push ⟨pieces, none⟩ = ⟨.ok c :: pieces, none⟩ := by
  have valid : c.toNat < 0xD800 ∨ 0xDFFF < c.toNat ∧ c.toNat < 0x110000 := c.valid
  have again : Char.ofNat c.toNat = c := Char.ofNat_toNat c
  unfold utf8Bytes
  generalize c.toNat = n at valid again
  -- Six bits of the code go into each byte but the first one.
  have tail : ∀ bits : Nat, (0x80 + bits % 64).toUInt8.toNat = 0x80 + bits % 64 :=
    fun bits => toNat_toUInt8 (by omega)
  dsimp only
  split_ifs with one two three
  · have first : n.toUInt8.toNat = n := toNat_toUInt8 (by omega)
    rw [List.foldl_cons, Decoding.push_whole _ (lead_one (by omega)), first, again]
    rfl
  · have first : (0xC0 + n / 64).toUInt8.toNat = 0xC0 + n / 64 := toNat_toUInt8 (by omega)
    have second := tail n
    have code : (0xC0 + n / 64 - 0xC0) * 64 + (0x80 + n % 64) % 64 = n := by omega
    rw [List.foldl_cons, Decoding.push_opens _ (lead_two (by omega) (by omega)),
      List.foldl_cons, Decoding.push_last _ (by dsimp only; omega), first, second, code, again]
    rfl
  · have first : (0xE0 + n / 4096).toUInt8.toNat = 0xE0 + n / 4096 := toNat_toUInt8 (by omega)
    have second := tail (n / 64)
    have third := tail n
    have code : ((0xE0 + n / 4096 - 0xE0) * 64 + (0x80 + n / 64 % 64) % 64) * 64 +
        (0x80 + n % 64) % 64 = n := by omega
    rw [List.foldl_cons, Decoding.push_opens _ (lead_three (by omega) (by omega)),
      List.foldl_cons, Decoding.push_next _ (by split_ifs <;> dsimp only <;> omega),
      List.foldl_cons, Decoding.push_last _ (by dsimp only; omega), first, second, third, code,
      again]
    rfl
  · have first : (0xF0 + n / 262144).toUInt8.toNat = 0xF0 + n / 262144 :=
      toNat_toUInt8 (by omega)
    have second := tail (n / 4096)
    have third := tail (n / 64)
    have fourth := tail n
    have code : (((0xF0 + n / 262144 - 0xF0) * 64 + (0x80 + n / 4096 % 64) % 64) * 64 +
        (0x80 + n / 64 % 64) % 64) * 64 + (0x80 + n % 64) % 64 = n := by omega
    rw [List.foldl_cons, Decoding.push_opens _ (lead_four (by omega) (by omega)),
      List.foldl_cons, Decoding.push_next _ (by split_ifs <;> dsimp only <;> omega),
      List.foldl_cons, Decoding.push_next _ (by dsimp only; omega),
      List.foldl_cons, Decoding.push_last _ (by dsimp only; omega), first, second, third, fourth,
      code, again]
    rfl

/-- The bytes of a character are those of the standard. -/
theorem utf8Bytes_eq (c : Char) : utf8Bytes c = String.utf8EncodeChar c := by
  have valid : c.toNat < 0xD800 ∨ 0xDFFF < c.toNat ∧ c.toNat < 0x110000 := c.valid
  have code : c.val.toNat = c.toNat := rfl
  unfold utf8Bytes String.utf8EncodeChar
  rw [code]
  generalize c.toNat = n at valid
  dsimp only
  by_cases one : n < 0x80
  · rw [if_pos one, if_pos (by omega)]
  by_cases two : n < 0x800
  · have first : n / 64 % 32 + 192 = 0xC0 + n / 64 := by omega
    rw [if_neg one, if_pos two, if_neg (by omega), if_pos (by omega), first,
      Nat.add_comm (n % 64)]
  by_cases three : n < 0x10000
  · have first : n / 4096 % 16 + 224 = 0xE0 + n / 4096 := by omega
    rw [if_neg one, if_neg two, if_pos three, if_neg (by omega), if_neg (by omega),
      if_pos (by omega), first, Nat.add_comm (n / 64 % 64), Nat.add_comm (n % 64)]
  · have first : n / 262144 % 8 + 240 = 0xF0 + n / 262144 := by omega
    rw [if_neg one, if_neg two, if_neg three, if_neg (by omega), if_neg (by omega),
      if_neg (by omega), first, Nat.add_comm (n / 4096 % 64), Nat.add_comm (n / 64 % 64),
      Nat.add_comm (n % 64)]

theorem encode_utf8 (t : Text) : utf8.encode t = some (t.flatMap utf8Bytes) := by
  have bytes : (t.mapM fun c => some (utf8Bytes c)) = some (t.map utf8Bytes) := List.mapM_pure
  change (t.mapM fun c => some (utf8Bytes c)).map List.flatten = _
  rw [bytes, Option.map_some, List.flatMap_def]

/-- The bytes of a text are decoded as the text. -/
theorem utf8Pieces_flatMap (t : Text) : utf8Pieces (t.flatMap utf8Bytes) = t.map .ok := by
  have folded : ∀ pieces, (t.flatMap utf8Bytes).foldl Decoding.push ⟨pieces, none⟩ =
      ⟨(t.map .ok).reverse ++ pieces, none⟩ := by
    induction t with
    | nil => exact fun _ => rfl
    | cons c rest ih =>
      intro pieces
      rw [List.flatMap_cons, List.foldl_append, foldl_push_utf8Bytes, ih]
      simp
  rw [utf8Pieces, folded, Decoding.finish_eq]
  simp [Decoding.closed]

end Airspaces.Encoding
