import Airspaces.Fault
import Airspaces.Text.Encoding
/-! Line by line through bytes. A line ends after a line feed; it is decoded by itself,
and line feeds and carriage returns at its end are dropped. The position counts the
bytes that were handed out. -/
namespace Airspaces

/-- The bytes up to and with the first line feed, and the rest. -/
def cutLine (bytes : List UInt8) : List UInt8 × List UInt8 :=
  match bytes.dropWhile (· != 10) with
  | [] => (bytes, [])
  | b :: rest => (bytes.takeWhile (· != 10) ++ [b], rest)

theorem cutLine_append (bytes : List UInt8) : (cutLine bytes).1 ++ (cutLine bytes).2 = bytes := by
  unfold cutLine
  split
  · exact List.append_nil bytes
  · rename_i b rest same
    rw [List.append_assoc, List.singleton_append, ← same, List.takeWhile_append_dropWhile]

theorem cutLine_length (b : UInt8) (rest : List UInt8) :
    (cutLine (b :: rest)).2.length ≤ rest.length := by
  have whole := congrArg List.length (cutLine_append (b :: rest))
  have more : 0 < (cutLine (b :: rest)).1.length := by
    unfold cutLine
    split <;> simp
  rw [List.length_append, List.length_cons] at whole
  omega

structure LineReader where
  size : Nat
  position : Nat := 0
  rest : List UInt8
  /-- The encoding, or why there is none; nobody notices before the first line. -/
  encoding : Except ReadFault Encoding
  lenience : Lenience
  isOpen : Bool := true

namespace LineReader

def encodingNamed (name : String) : Except ReadFault Encoding :=
  if name.contains '\x00' then .error .nullInEncoding
  else match Encoding.ofName? name with
  | some e => .ok e
  | none => .error .unknownEncoding

def ofBytes (bytes : List UInt8) (encoding : Except ReadFault Encoding) (lenience : Lenience) :
    LineReader :=
  { size := bytes.length, rest := bytes, encoding, lenience }

/-- A strict reader of a text's bytes, if the encoding has bytes for it. -/
def ofText (t : Text) (encoding : Except ReadFault Encoding) : Except ReadFault LineReader :=
  match encoding with
  | .error fault => .error fault
  | .ok e =>
    match e.encode t with
    | none => .error .unencodable
    | some bytes => .ok (ofBytes bytes encoding .strict)

def lineText (r : LineReader) (bytes : List UInt8) : Except ReadFault Text :=
  match r.encoding with
  | .error fault => .error fault
  | .ok e =>
    (r.lenience.text (e.decode bytes)).map (Text.trimEndBy fun c => c == '\r' || c == '\n')

def advance (r : LineReader) : LineReader :=
  { r with position := r.position + (cutLine r.rest).1.length, rest := (cutLine r.rest).2 }

/-- The next line, or none at the end. The bytes of a line that cannot be decoded
are gone all the same. -/
def read (r : LineReader) : Except ReadFault (Option Text) × LineReader :=
  if !r.isOpen then (.error .closed, r)
  else if r.rest.isEmpty then (.ok none, r)
  else ((r.lineText (cutLine r.rest).1).map some, r.advance)

def tell (r : LineReader) : Except ReadFault Nat :=
  if r.isOpen then .ok r.position else .error .closed

def close (r : LineReader) : LineReader := { r with isOpen := false }

theorem advance_length {r : LineReader} (more : r.rest ≠ []) :
    r.advance.rest.length < r.rest.length := by
  cases same : r.rest with
  | nil => exact absurd same more
  | cons b rest =>
    have := cutLine_length b rest
    simp only [advance, same, List.length_cons]
    omega

end LineReader
end Airspaces
