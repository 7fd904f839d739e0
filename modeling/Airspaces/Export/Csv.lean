import Airspaces.Text.Basic
/-! Comma separated tables. A field is put in quotes only if it holds a comma, a quote
or a line feed; a quote inside is written twice. -/
namespace Airspaces.Csv

/-- Does the field need quotes? -/
def needsQuotes (t : Text) : Bool := t.any fun c => c == ',' || c == '"' || c == '\n'

def doubleQuotes (t : Text) : Text := t.flatMap fun c => if c = '"' then ['"', '"'] else [c]

def field (t : Text) : Text :=
  if needsQuotes t then '"' :: doubleQuotes t ++ ['"'] else t

def row (fields : List Text) : Text := [','].intercalate (fields.map field) ++ ['\n']

def table (rows : List (List Text)) : Text := rows.flatMap row

end Airspaces.Csv
