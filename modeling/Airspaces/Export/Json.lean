import Airspaces.Measurement
import Airspaces.Text.Quoted
/-! The JSON text of exported data: two blanks for each level, one entry a line,
fields in the order in which they are given, and ASCII only. -/
namespace Airspaces

inductive JsonValue where
  | text (t : Text)
  | whole (n : Int)
  | number (x : Float)
  | list (items : List JsonValue)
  | object (fields : List (String × JsonValue))

namespace JsonValue

def layout : Shortest.Layout :=
  { Measurement.layout with infinite := "Infinity", undefined := "NaN" }

def unitText (n : Nat) : Text := '\\' :: 'u' :: Text.hexDigits 4 n

/-- A character between quotes. Beyond 16 bits it is a pair of surrogates. -/
def charText (c : Char) : Text :=
  let n := c.toNat
  if c = '"' then ['\\', '"']
  else if c = '\\' then ['\\', '\\']
  else if c = '\n' then ['\\', 'n']
  else if c = '\r' then ['\\', 'r']
  else if c = '\t' then ['\\', 't']
  else if n = 8 then ['\\', 'b']
  else if n = 12 then ['\\', 'f']
  else if 32 ≤ n ∧ n < 127 then [c]
  else if n < 0x10000 then unitText n
  else unitText (0xD800 + (n - 0x10000) / 0x400) ++ unitText (0xDC00 + (n - 0x10000) % 0x400)

def quotedText (t : Text) : String := String.ofList ('"' :: t.flatMap charText ++ ['"'])

/-- Entries between brackets, each on a line of its own. -/
def block (level : Nat) (opening closing : String) (entries : List String) : String :=
  if entries.isEmpty then opening ++ closing
  else
    let line := "\n" ++ String.ofList (List.replicate (2 * level) ' ')
    opening ++ line ++ "  " ++ (("," ++ line ++ "  ").intercalate entries) ++ line ++ closing

mutual

def render (level : Nat) : JsonValue → String
  | text t => quotedText t
  | whole n => toString n
  | number x => Shortest.text layout x
  | list items => block level "[" "]" (renderItems (level + 1) items)
  | object fields => block level "\x7b" "\x7d" (renderFields (level + 1) fields)

def renderItems (level : Nat) : List JsonValue → List String
  | [] => []
  | item :: rest => render level item :: renderItems level rest

def renderFields (level : Nat) : List (String × JsonValue) → List String
  | [] => []
  | (key, value) :: rest =>
    (quotedText key.toList ++ ": " ++ render level value) :: renderFields level rest

end

end JsonValue
end Airspaces
