import Airspaces.Fault
import Airspaces.Text.Basic
/-! Byte encodings of text. An encoding is any way from bytes to characters and back. Those
that the library brings along go byte by byte with the part of a character that is still
open; an ill-formed piece is as long as it could be the start of a character and counts as
one. What becomes of such a piece is a choice of the reader. -/
namespace Airspaces

/-- What a reader does with an ill-formed piece. -/
inductive Lenience where
  | refuse (fault : ReadFault)
  | replace
  | ignore
  /-- Each byte is written by its code. -/
  | escape
  deriving Repr, DecidableEq

def Lenience.strict : Lenience := .refuse .undecodable

/-- A character, or bytes that are none. -/
abbrev Piece := Except (List UInt8) Char

structure Encoding where
  decode : List UInt8 → List Piece
  /-- The bytes of a text, or none if a character has none. -/
  encode : Text → Option (List UInt8)

namespace Encoding

/-- A character of which some bytes are still to come: the bytes and bits so far, and the
range in which each further byte has to lie. -/
structure Open where
  bytes : List UInt8
  bits : Nat
  next : Nat × Nat
  later : List (Nat × Nat)

/-- What the first byte of a character says. -/
inductive Lead where
  | whole (c : Char)
  | opens (o : Open)
  | bad

/-- The well-formed first bytes, with the ranges that keep out overlong forms,
surrogates and codes past the last one. -/
def lead (byte : UInt8) : Lead :=
  let b := byte.toNat
  let any := (0x80, 0xBF)
  if b < 0x80 then .whole (Char.ofNat b)
  else if b < 0xC2 then .bad
  else if b < 0xE0 then .opens ⟨[byte], b - 0xC0, any, []⟩
  else if b < 0xF0 then
    let second := if b = 0xE0 then (0xA0, 0xBF) else if b = 0xED then (0x80, 0x9F) else any
    .opens ⟨[byte], b - 0xE0, second, [any]⟩
  else if b < 0xF5 then
    let second := if b = 0xF0 then (0x90, 0xBF) else if b = 0xF4 then (0x80, 0x8F) else any
    .opens ⟨[byte], b - 0xF0, second, [any, any]⟩
  else .bad

/-- Bytes on their way into characters. -/
structure Decoding where
  /-- The pieces so far, the last one first. -/
  pieces : List Piece := []
  pending : Option Open := none

namespace Decoding

/-- A byte that does not belong to an open character. -/
def start (d : Decoding) (b : UInt8) : Decoding :=
  match lead b with
  | .whole c => { d with pieces := .ok c :: d.pieces }
  | .opens o => { d with pending := some o }
  | .bad => { d with pieces := .error [b] :: d.pieces }

def push (d : Decoding) (b : UInt8) : Decoding :=
  match d.pending with
  | none => d.start b
  | some o =>
    if o.next.1 ≤ b.toNat ∧ b.toNat ≤ o.next.2 then
      let bits := o.bits * 64 + b.toNat % 64
      match o.later with
      | [] => ⟨.ok (Char.ofNat bits) :: d.pieces, none⟩
      | next :: later => { d with pending := some ⟨o.bytes ++ [b], bits, next, later⟩ }
    else start ⟨.error o.bytes :: d.pieces, none⟩ b

/-- All pieces; a character that is still open is an ill-formed one. -/
def finish (d : Decoding) : List Piece :=
  match d.pending with
  | none => d.pieces.reverse
  | some o => (.error o.bytes :: d.pieces).reverse

end Decoding

def utf8Pieces (bytes : List UInt8) : List Piece := (bytes.foldl Decoding.push {}).finish

/-- One byte for each six bits, the first one telling how many follow. -/
def utf8Bytes (c : Char) : List UInt8 :=
  let n := c.toNat
  let tail := fun bits : Nat => (0x80 + bits % 64).toUInt8
  if n < 0x80 then [n.toUInt8]
  else if n < 0x800 then [(0xC0 + n / 64).toUInt8, tail n]
  else if n < 0x10000 then [(0xE0 + n / 4096).toUInt8, tail (n / 64), tail n]
  else [(0xF0 + n / 262144).toUInt8, tail (n / 4096), tail (n / 64), tail n]

/-- The bytes of all characters, one after the other. -/
def byCharacter (bytes? : Char → Option (List UInt8)) (t : Text) : Option (List UInt8) :=
  (t.mapM bytes?).map List.flatten

/-- An encoding with one byte for each character below a code. -/
def singleBytes (limit : Nat) : Encoding where
  decode := List.map fun b => if b.toNat < limit then .ok (Char.ofNat b.toNat) else .error [b]
  encode := byCharacter fun c => if c.toNat < limit then some [c.toNat.toUInt8] else none

def utf8 : Encoding where
  decode := utf8Pieces
  encode := byCharacter fun c => some (utf8Bytes c)

def latin1 : Encoding := singleBytes 256

def ascii : Encoding := singleBytes 128

/-- A name in lower case, with one underscore for each stretch of characters inside it
that are no letters, digits or points. -/
def nameKey (name : Text) : Text :=
  let words := (name.map fun c =>
    if c.isAlphanum || c == '.' then c.toLower else ' ').splitBy fun a b => a != ' ' && b != ' '
  ['_'].intercalate (words.filter fun word => word != [' '])

def properNames : List (String × Encoding) :=
  [("utf_8", utf8), ("latin_1", latin1), ("ascii", ascii)]

def otherNames : List (String × Encoding) :=
  (["utf8", "u8", "utf", "utf8_ucs2", "utf8_ucs4", "cp65001"].map fun name => (name, utf8)) ++
  (["latin1", "latin", "l1", "iso_8859_1", "iso8859_1", "iso8859", "8859", "cp819", "ibm819",
    "csisolatin1", "iso_ir_100", "iso_8859_1_1987"].map fun name => (name, latin1)) ++
  (["us_ascii", "us", "646", "cp367", "ibm367", "csascii", "iso646_us", "iso_ir_6",
    "ansi_x3.4_1968", "ansi_x3_4_1968", "ansi_x3.4_1986", "iso_646.irv_1991"].map
    fun name => (name, ascii))

/-- The encoding of a name, if it is one that the library brings along. A point in one of the
other names may stand for an underscore. -/
def ofName? (name : String) : Option Encoding :=
  let key := nameKey name.toList
  let plain := key.map fun c => if c = '.' then '_' else c
  (otherNames.lookup (String.ofList key)).or <|
    (otherNames.lookup (String.ofList plain)).or (properNames.lookup (String.ofList key))

end Encoding

namespace Lenience

def byteCode (b : UInt8) : Text := '\\' :: 'x' :: Text.hexDigits 2 b.toNat

def text : Lenience → List Piece → Except ReadFault Text
  | refuse fault, pieces => pieces.mapM fun piece => piece.mapError fun _ => fault
  | replace, pieces => .ok (pieces.map fun piece => piece.toOption.getD (Char.ofNat 0xFFFD))
  | ignore, pieces => .ok (pieces.filterMap Except.toOption)
  | escape, pieces => .ok (pieces.flatMap fun piece =>
    match piece with
    | .ok c => [c]
    | .error bytes => bytes.flatMap byteCode)

end Lenience
end Airspaces
