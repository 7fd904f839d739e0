import Airspaces.File.Reader
import Airspaces.Proofs.Text.Decoding
import Mathlib.Data.List.TakeWhile
/-! Reading line by line. The bytes of each line are decoded by themselves, which comes to the
same as cutting the text that all bytes are decoded to: no character goes beyond a line feed,
whether it is well formed or not. -/
namespace Airspaces

/-- The pieces of a text between its line feeds. What follows the last line feed is no line if it
is empty. -/
def Text.lines (t : Text) : List Text :=
  let pieces := t.splitOn '\n'
  if pieces.getLast? = some [] then pieces.dropLast else pieces

namespace Text

theorem splitOn_of_not_mem {t : Text} (plain : '\n' ∉ t) : t.splitOn '\n' = [t] :=
  List.splitOnP_eq_singleton fun _ member =>
    beq_eq_false_iff_ne.mpr (ne_of_mem_of_not_mem member plain)

theorem lines_lineFeed {before : Text} (plain : '\n' ∉ before) (after : Text) :
    lines (before ++ '\n' :: after) = before :: lines after := by
  have parts : (before ++ '\n' :: after).splitOn '\n' = before :: after.splitOn '\n' := by
    have split := List.splitOnP_append_cons (p := (· == '\n')) before after
      (beq_self_eq_true '\n')
    exact split.trans (congrArg (· ++ _) (splitOn_of_not_mem plain))
  have more : after.splitOn '\n' ≠ [] := List.splitOnP_ne_nil _ after
  unfold lines
  dsimp only
  rw [parts, List.getLast?_cons_of_ne_nil more, List.dropLast_cons_of_ne_nil more]
  split_ifs <;> rfl

theorem lines_last {t : Text} (plain : '\n' ∉ t) (filled : t ≠ []) : lines t = [t] := by
  unfold lines
  dsimp only
  rw [splitOn_of_not_mem plain, if_neg (by simpa using filled)]

end Text

/-- The counts of bytes up to and with each line feed, if some bytes come before. -/
def lineEnds (bytes : List UInt8) (before : Nat) : List Nat :=
  (bytes.zipIdx (before + 1)).filterMap fun (b, place) => if b = 10 then some place else none

/-- The count of bytes up to and with the `n`-th line feed, or of all bytes if there are fewer
line feeds. -/
def lineEnd (bytes : List UInt8) (n : Nat) : Nat :=
  (0 :: lineEnds bytes 0)[n]?.getD bytes.length

theorem lineEnds_of_not_mem {bytes : List UInt8} (plain : 10 ∉ bytes) (before : Nat) :
    lineEnds bytes before = [] := by
  rw [lineEnds, List.filterMap_eq_nil_iff]
  rintro ⟨b, place⟩ member
  exact if_neg (ne_of_mem_of_not_mem (List.fst_mem_of_mem_zipIdx member) plain)

theorem lineEnds_lineFeed {line : List UInt8} (plain : 10 ∉ line) (after : List UInt8)
    (before : Nat) :
    lineEnds (line ++ 10 :: after) before =
      (before + line.length + 1) :: lineEnds after (before + line.length + 1) := by
  have nothing := lineEnds_of_not_mem plain before
  unfold lineEnds at nothing ⊢
  rw [List.zipIdx_append, List.filterMap_append, nothing, List.zipIdx_cons]
  simp [Nat.add_right_comm]

theorem cutLine_of_not_mem {bytes : List UInt8} (plain : 10 ∉ bytes) :
    cutLine bytes = (bytes, []) := by
  have whole : bytes.dropWhile (· != 10) = [] := by
    rw [List.dropWhile_eq_nil_iff]
    exact fun b member => bne_iff_ne.mpr (ne_of_mem_of_not_mem member plain)
  rw [cutLine, whole]

theorem cutLine_lineFeed {line : List UInt8} (plain : 10 ∉ line) (after : List UInt8) :
    cutLine (line ++ 10 :: after) = (line ++ [10], after) := by
  have before : ∀ b ∈ line, (b != 10) = true :=
    fun b member => bne_iff_ne.mpr (ne_of_mem_of_not_mem member plain)
  have rest : (line ++ 10 :: after).dropWhile (· != 10) = 10 :: after := by
    rw [List.dropWhile_append_of_pos before]
    rfl
  have first : (line ++ 10 :: after).takeWhile (· != 10) = line := by
    rw [List.takeWhile_append_of_pos before]
    simp
  rw [cutLine, rest, first]

namespace LineReader

/-- The reader after some lines. -/
def after (r : LineReader) : Nat → LineReader
  | 0 => r
  | n + 1 => r.read.2.after n

/-- The text without the line feeds and carriage returns at its end. -/
def trimmed (t : Text) : Text := Text.trimEndBy (fun c => c == '\r' || c == '\n') t

theorem trimmed_lineFeed (t : Text) : trimmed (t ++ ['\n']) = trimmed t := by
  simp [trimmed, Text.trimEndBy]

/-- All that reading a line comes to, on an open reader. -/
inductive Reads (r : LineReader) : Except ReadFault (Option Text) × LineReader → Prop where
  | done (none_left : r.rest = []) : Reads r (.ok none, r)
  | line {before after : List UInt8} (plain : 10 ∉ before) (split : r.rest = before ++ 10 :: after) :
      Reads r ((r.lineText (before ++ [10])).map some,
        { r with position := r.position + before.length + 1, rest := after })
  | last (some_left : r.rest ≠ []) (plain : 10 ∉ r.rest) :
      Reads r ((r.lineText r.rest).map some,
        { r with position := r.position + r.rest.length, rest := [] })

theorem read_reads {r : LineReader} (opened : r.isOpen = true) : r.Reads r.read := by
  unfold read
  rw [opened]
  by_cases none_left : r.rest = []
  · simp only [none_left]
    exact .done none_left
  · have more : r.rest.isEmpty = false := by simpa using none_left
    simp only [more, advance]
    by_cases fed : 10 ∈ r.rest
    · obtain ⟨before, after, split, plain⟩ := List.eq_append_cons_of_mem fed
      have cut := cutLine_lineFeed plain after
      rw [← split] at cut
      simp only [cut, List.length_append]
      exact .line plain split
    · simp only [cutLine_of_not_mem fed]
      exact .last none_left fed

theorem after_succ (r : LineReader) (n : Nat) : r.after (n + 1) = (r.after n).read.2 := by
  induction n generalizing r with
  | zero => rfl
  | succ n ih => exact ih r.read.2

theorem read_isOpen {r : LineReader} (opened : r.isOpen = true) : r.read.2.isOpen = true := by
  have reads := read_reads opened
  generalize r.read = result at reads
  cases reads <;> exact opened

theorem after_isOpen {r : LineReader} (opened : r.isOpen = true) (n : Nat) :
    (r.after n).isOpen = true := by
  induction n generalizing r with
  | zero => exact opened
  | succ n ih => exact ih (read_isOpen opened)

theorem rest_of_read {r : LineReader} (opened : r.isOpen = true) (nothing : r.read.1 = .ok none) :
    r.rest = [] := by
  have some_line : ∀ line, (r.lineText line).map some ≠ .ok none := by
    intro line
    cases r.lineText line <;> nofun
  have reads := read_reads opened
  generalize r.read = result at reads nothing
  cases reads with
  | done none_left => exact none_left
  | line | last => exact absurd nothing (some_line _)

/-- Bytes pass from the rest to those that the position counts. -/
theorem read_position {r : LineReader} (opened : r.isOpen = true) :
    r.position ≤ r.read.2.position ∧
      r.read.2.position + r.read.2.rest.length = r.position + r.rest.length := by
  have reads := read_reads opened
  generalize r.read = result at reads
  cases reads with
  | done => exact ⟨Nat.le_refl _, rfl⟩
  | line plain split =>
    rw [split, List.length_append, List.length_cons]
    dsimp only
    omega
  | last =>
    dsimp only [List.length_nil]
    omega

theorem after_total {r : LineReader} (opened : r.isOpen = true) (n : Nat) :
    (r.after n).position + (r.after n).rest.length = r.position + r.rest.length := by
  induction n generalizing r with
  | zero => rfl
  | succ n ih => exact (ih (read_isOpen opened)).trans (read_position opened).2

/-- The position is at the line feeds, one after the other, and at last at the end. -/
theorem after_position {r : LineReader} (opened : r.isOpen = true) (n : Nat) :
    (r.after n).position =
      (r.position :: lineEnds r.rest r.position)[n]?.getD (r.position + r.rest.length) := by
  induction n generalizing r with
  | zero => rfl
  | succ n ih =>
    have later := ih (read_isOpen opened)
    have total := (read_position opened).2
    have reads := read_reads opened
    rw [after, later, total]
    generalize r.read = result at reads
    cases reads with
    | done none_left =>
      rw [none_left, List.getElem?_cons_succ]
      cases n <;> rfl
    | line plain split =>
      rw [List.getElem?_cons_succ, split, lineEnds_lineFeed plain]
    | last some_left plain =>
      rw [List.getElem?_cons_succ, lineEnds_of_not_mem plain]
      cases n <;> rfl

section
variable (bytes : List UInt8) (encoding : Except ReadFault Encoding) (lenience : Lenience) (n : Nat)

theorem ofBytes_position : ((ofBytes bytes encoding lenience).after n).position = lineEnd bytes n := by
  have place := after_position (r := ofBytes bytes encoding lenience) rfl n
  simpa only [ofBytes, lineEnd, Nat.zero_add] using place

theorem ofBytes_tell : ((ofBytes bytes encoding lenience).after n).tell = .ok (lineEnd bytes n) := by
  have opened := after_isOpen (r := ofBytes bytes encoding lenience) rfl n
  rw [tell, opened, if_pos rfl, ofBytes_position]
end

end LineReader

/-- The characters of pieces, and one replacement for each ill-formed piece. -/
def replaced (pieces : List Piece) : Text :=
  pieces.map fun piece => piece.toOption.getD (Char.ofNat 0xFFFD)

/-- The text that bytes are decoded to. -/
def textOf (bytes : List UInt8) : Text := replaced (Encoding.utf8Pieces bytes)

theorem textOf_lineFeed (before after : List UInt8) :
    textOf (before ++ 10 :: after) = textOf before ++ '\n' :: textOf after := by
  rw [textOf, Encoding.utf8Pieces_lineFeed, replaced, List.map_append]
  rfl

theorem textOf_plain {bytes : List UInt8} (plain : 10 ∉ bytes) : '\n' ∉ textOf bytes := by
  intro fed
  obtain ⟨piece, member, same⟩ := List.mem_map.mp fed
  cases piece with
  | error ill => exact absurd same (show Char.ofNat 0xFFFD ≠ '\n' by decide)
  | ok c =>
    cases same
    exact plain (Encoding.lineFeed_mem_of_utf8Pieces member)

theorem textOf_ne_nil {bytes : List UInt8} (filled : bytes ≠ []) : textOf bytes ≠ [] := by
  intro nothing
  exact Encoding.utf8Pieces_ne_nil filled (List.map_eq_nil_iff.mp nothing)

namespace LineReader

/-- Every part of what is left can be read. -/
structure Legible (r : LineReader) : Prop where
  opened : r.isOpen = true
  encoding : r.encoding = .ok .utf8
  text : ∀ pieces, pieces <:+: Encoding.utf8Pieces r.rest →
    r.lenience.text pieces = .ok (replaced pieces)

theorem Legible.lineText {r : LineReader} (legible : r.Legible) {line : List UInt8}
    (within : Encoding.utf8Pieces line <:+: Encoding.utf8Pieces r.rest) :
    r.lineText line = .ok (trimmed (textOf line)) := by
  rw [LineReader.lineText, legible.encoding]
  dsimp only [Encoding.utf8]
  rw [legible.text _ within]
  rfl

/-- A line that is read is the first one of the text that is left. -/
theorem Legible.read {r : LineReader} (legible : r.Legible) :
    r.read.1 = .ok ((textOf r.rest).lines.map trimmed).head? ∧
      (textOf r.read.2.rest).lines = (textOf r.rest).lines.tail ∧ r.read.2.Legible := by
  have reads := read_reads legible.opened
  generalize r.read = result at reads
  cases reads with
  | done none_left =>
    rw [none_left]
    exact ⟨rfl, rfl, legible⟩
  | line plain split =>
    rename_i before after
    have line : Encoding.utf8Pieces (before ++ [10]) = Encoding.utf8Pieces before ++ [.ok '\n'] :=
      Encoding.utf8Pieces_lineFeed before []
    have whole : Encoding.utf8Pieces r.rest =
        Encoding.utf8Pieces (before ++ [10]) ++ Encoding.utf8Pieces after := by
      rw [split, Encoding.utf8Pieces_lineFeed, line, List.append_assoc, List.singleton_append]
    have first : r.lineText (before ++ [10]) = .ok (trimmed (textOf before)) := by
      rw [legible.lineText (whole ▸ (List.prefix_append _ _).isInfix), textOf_lineFeed]
      exact congrArg _ (trimmed_lineFeed _)
    have lines : (textOf r.rest).lines = textOf before :: (textOf after).lines := by
      rw [split, textOf_lineFeed, Text.lines_lineFeed (textOf_plain plain)]
    rw [lines, first]
    refine ⟨rfl, rfl, legible.opened, legible.encoding, ?_⟩
    intro pieces within
    exact legible.text pieces (within.trans (whole ▸ (List.suffix_append _ _).isInfix))
  | last some_left plain =>
    have lines := Text.lines_last (textOf_plain plain) (textOf_ne_nil some_left)
    rw [lines, legible.lineText (List.infix_refl _)]
    refine ⟨rfl, rfl, legible.opened, legible.encoding, ?_⟩
    intro pieces within
    exact legible.text pieces (within.trans List.nil_infix)

/-- One line after the other is read, and none any more after the last one. -/
theorem Legible.after_read {r : LineReader} (legible : r.Legible) (n : Nat) :
    (r.after n).read.1 = .ok ((textOf r.rest).lines.map trimmed)[n]? := by
  induction n generalizing r with
  | zero => rw [after, legible.read.1, List.head?_eq_getElem?]
  | succ n ih =>
    obtain ⟨_, later, kept⟩ := legible.read
    rw [after, ih kept, later, List.map_tail, List.getElem?_tail]

/-- A reader that replaces ill-formed pieces can read everything. -/
theorem ofBytes_legible (bytes : List UInt8) :
    (ofBytes bytes (.ok .utf8) .replace).Legible where
  opened := rfl
  encoding := rfl
  text _ _ := rfl

end LineReader

theorem Lenience.strict_text {pieces : List Piece} (formed : ∀ piece ∈ pieces, ∃ c, piece = .ok c) :
    Lenience.strict.text pieces = .ok (replaced pieces) := by
  induction pieces with
  | nil => rfl
  | cons piece rest ih =>
    obtain ⟨c, rfl⟩ := formed piece List.mem_cons_self
    have later := ih fun piece member => formed piece (List.mem_cons_of_mem _ member)
    simp only [strict, text] at later ⊢
    rw [List.mapM_cons, later]
    rfl

theorem textOf_flatMap (t : Text) : textOf (t.flatMap Encoding.utf8Bytes) = t := by
  rw [textOf, Encoding.utf8Pieces_flatMap, replaced, List.map_map]
  exact List.map_id t

/-- A strict reader can read the bytes of a text. -/
theorem LineReader.ofBytes_flatMap_legible (t : Text) :
    (ofBytes (t.flatMap Encoding.utf8Bytes) (.ok .utf8) .strict).Legible where
  opened := rfl
  encoding := rfl
  text := by
    intro pieces within
    apply Lenience.strict_text
    intro piece member
    have listed := within.subset member
    rw [ofBytes, Encoding.utf8Pieces_flatMap] at listed
    obtain ⟨c, _, same⟩ := List.mem_map.mp listed
    exact ⟨c, same.symm⟩

namespace LineReader

/-- Reading bytes line by line comes to the lines of the text that all bytes are decoded to, and
then to none. The position goes from line feed to line feed and at last to the end. Bytes of a
text are read as the lines of this text, with or without regard to ill-formed bytes. -/
theorem reads_lines (bytes : List UInt8) (t : Text) :
    (let r := ofBytes bytes (.ok .utf8) .replace
     (∃ whole, r.lenience.text (Encoding.utf8.decode bytes) = .ok whole ∧
       ∀ n, (r.after n).read.1 = .ok (whole.lines.map trimmed)[n]?) ∧
     ∀ n, (r.after n).tell = .ok (lineEnd bytes n) ∧
       lineEnd bytes n ≤ lineEnd bytes (n + 1) ∧ lineEnd bytes n ≤ r.size ∧
       ((r.after n).read.1 = .ok none → lineEnd bytes n = r.size)) ∧
    ∃ encoded r, Encoding.utf8.encode t = some encoded ∧
      encoded = (String.ofList t).toUTF8.data.toList ∧ ofText t (.ok .utf8) = .ok r ∧
      let file := ofBytes encoded (.ok .utf8) .replace
      r.size = file.size ∧
      ∀ n, (r.after n).read.1 = .ok (t.lines.map trimmed)[n]? ∧
        (r.after n).read.1 = (file.after n).read.1 ∧ (r.after n).tell = (file.after n).tell := by
  constructor
  · intro r
    refine ⟨⟨textOf bytes, rfl, (ofBytes_legible bytes).after_read⟩, ?_⟩
    intro n
    have opened : (r.after n).isOpen = true := after_isOpen rfl n
    have place : ∀ n, (r.after n).position = lineEnd bytes n := ofBytes_position bytes _ _
    have total : (r.after n).position + (r.after n).rest.length = r.size :=
      (after_total rfl n).trans (Nat.zero_add _)
    refine ⟨ofBytes_tell bytes _ _ n, ?_, ?_, ?_⟩
    · rw [← place, ← place, after_succ]
      exact (read_position opened).1
    · rw [← place, ← total]
      exact Nat.le_add_right _ _
    · intro nothing
      rw [← place, ← total, rest_of_read opened nothing]
      rfl
  · have encoded := Encoding.encode_utf8 t
    have decoded := textOf_flatMap t
    refine ⟨t.flatMap Encoding.utf8Bytes,
      ofBytes (t.flatMap Encoding.utf8Bytes) (.ok .utf8) .strict, encoded, ?_, ?_, rfl, ?_⟩
    · simp [List.utf8Encode, funext Encoding.utf8Bytes_eq]
    · rw [ofText]
      simp only [encoded]
    · intro n
      have strict := (ofBytes_flatMap_legible t).after_read n
      have lenient := (ofBytes_legible (t.flatMap Encoding.utf8Bytes)).after_read n
      have same := strict.trans lenient.symm
      rw [show (ofBytes (t.flatMap Encoding.utf8Bytes) (.ok .utf8) .strict).rest =
        t.flatMap Encoding.utf8Bytes from rfl, decoded] at strict
      exact ⟨strict, same, (ofBytes_tell _ _ _ n).trans (ofBytes_tell _ _ _ n).symm⟩

/-- A character that breaks off before a line feed, and a last line without one. -/
theorem reads_lines_of_truncated_character :
    let bytes : List UInt8 := [0x41, 0xE2, 0x82, 0x0D, 0x0A, 0x42]
    let r := ofBytes bytes (.ok .utf8) .replace
    r.read.1 = .ok (some ['A', '\uFFFD']) ∧ r.read.2.tell = .ok 5 ∧
      (r.after 2).read.1 = .ok none ∧ (r.after 2).tell = .ok r.size := by
  intro bytes r
  obtain ⟨⟨_, places⟩, _⟩ := reads_lines bytes []
  have nothing : (r.after 2).read.1 = .ok none := by decide +kernel
  obtain ⟨tells, _, _, last⟩ := places 2
  refine ⟨by decide +kernel, by decide +kernel, nothing, ?_⟩
  rw [tells, last nothing]

end LineReader
end Airspaces
