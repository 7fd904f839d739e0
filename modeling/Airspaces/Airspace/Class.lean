/-! Classes of airspace. A class has a name, by which it is asked for and counted,
and a label, by which it is exported. -/
namespace Airspaces

inductive AirspaceClass where
  | other
  | restricted
  | prohibited
  | danger
  | a
  | b
  | c
  | d
  | noGlider
  | controlZone
  | wave
  | e
  | f
  | transponder
  | g
  deriving Repr, DecidableEq

namespace AirspaceClass

def name : AirspaceClass → String
  | other => "OTHER"
  | restricted => "RESTRICT"
  | prohibited => "PROHIBITED"
  | danger => "DANGER"
  | a => "CLASSA"
  | b => "CLASSB"
  | c => "CLASSC"
  | d => "CLASSD"
  | noGlider => "NOGLIDER"
  | controlZone => "CTR"
  | wave => "WAVE"
  | e => "CLASSE"
  | f => "CLASSF"
  | transponder => "TMZ"
  | g => "CLASSG"

def label : AirspaceClass → String
  | other => "other"
  | restricted => "restricted"
  | prohibited => "prohibited"
  | danger => "danger"
  | a => "A"
  | b => "B"
  | c => "C"
  | d => "D"
  | noGlider => "no_glider"
  | controlZone => "CTR"
  | wave => "wave"
  | e => "E"
  | f => "F"
  | transponder => "TMZ"
  | g => "G"

def all : List AirspaceClass :=
  [other, restricted, prohibited, danger, a, b, c, d, noGlider, controlZone, wave, e, f,
    transponder, g]

def ofName? (name : String) : Option AirspaceClass := all.find? (·.name == name)

end AirspaceClass
end Airspaces
