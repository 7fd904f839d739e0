import Airspaces.File.Folder
/-! Addresses on the net in place of paths. What is under an address is fetched before
anything is written, so that a table under an address is not written at all; most of them
cannot even be fetched. -/
namespace Airspaces

/-- An address, without what stands behind its last number sign. -/
structure Address where
  scheme : Text
  /-- The server between two slashes and the next slash, if they are there. -/
  host : Option Text
  /-- What is asked of the server. -/
  request : Text

namespace Address

/-- Why nothing is fetched. -/
inductive FetchError where
  | unreachable
  /-- The number of the service is none, or a blank or control character is in the address. -/
  | malformed
  /-- A request is plain ASCII, and the name of a server has codes below 256. -/
  | unencodable
  /-- A part of a server's name is empty or has more than 63 characters. -/
  | badName
  | nullInPath
  deriving Repr, DecidableEq

/-- The schemes under which something is fetched. -/
def schemes : List String := [
  "file", "ftp", "git", "git+ssh", "gopher", "hdl", "http", "https", "imap", "mms", "nfs", "nntp",
  "prospero", "rsync", "rtsp", "rtspu", "sftp", "shttp", "sip", "sips", "snews", "svn", "svn+ssh",
  "tel", "telnet", "wais", "ws", "wss"]

def isSchemeChar (c : Char) : Bool := c.isAlphanum || c == '+' || c == '-' || c == '.'

/-- A scheme in lower case and what follows its colon. -/
def splitScheme? (t : Text) : Option (Text × Text) :=
  let scheme := t.takeWhile isSchemeChar
  match t.dropWhile isSchemeChar with
  | ':' :: rest =>
    if scheme.head?.any Char.isAlpha then some (scheme.map Char.toLower, rest) else none
  | _ => none

/-- The text between two slashes at the start and the next slash, question mark or number
sign, and what follows it. -/
def splitHost (t : Text) : Option Text × Text :=
  match t with
  | '/' :: '/' :: rest =>
    let ends := fun c : Char => c == '/' || c == '?' || c == '#'
    let request := rest.dropWhile (!ends ·)
    let slash := if request.head?.any (· != '/') then ['/'] else []
    (some (rest.takeWhile (!ends ·)), slash ++ request)
  | _ => (none, t)

/-- Tabs and line ends do not count when the scheme is looked at. -/
def withoutBreaks (path : String) : Text :=
  path.toList.filter fun c => c != '\t' && c != '\n' && c != '\r'

/-- Is one square bracket missing from a pair around a server's number? -/
def hasLoneBracket (path : String) : Bool :=
  let t := withoutBreaks path
  let rest := ((splitScheme? t).map (·.2)).getD t
  let host := (splitHost rest).1.getD []
  host.contains '[' != host.contains ']'

/-- The bytes of a text, of which some stand in it as a percent sign and two hexadecimal
digits. -/
def escapedBytes (t : Text) : List UInt8 :=
  match t with
  | [] => []
  | '%' :: a :: b :: rest =>
    match hex? a, hex? b with
    | some high, some low => (16 * high + low).toUInt8 :: escapedBytes rest
    | _, _ => 37 :: escapedBytes (a :: b :: rest)
  | c :: rest => Encoding.utf8Bytes c ++ escapedBytes rest
termination_by t.length
where
  hex? (c : Char) : Option Nat :=
    let n := c.toNat
    if c.isDigit then some (n - 48)
    else if 97 ≤ n ∧ n ≤ 102 then some (n - 87)
    else if 65 ≤ n ∧ n ≤ 70 then some (n - 55)
    else none

/-- A text with what its bytes spell. -/
def unescape (t : Text) : Text :=
  (Lenience.text .replace (Encoding.decode .utf8 (escapedBytes t))).toOption.getD []

/-- The address that a path is, if something can be fetched under its scheme. -/
def ofPath? (path : String) : Option Address := do
  let (scheme, _) ← splitScheme? (withoutBreaks path)
  if !schemes.contains (String.ofList scheme) then none
  let t := Text.trimBy Text.isBlank path.toList
  let whole := if t.contains '#' then ((t.reverse.dropWhile (· != '#')).drop 1).reverse else t
  let (scheme, rest) := (splitScheme? whole).getD ([], whole)
  let (host, request) := splitHost rest
  some ⟨scheme, host.map unescape, request⟩

/-- A scheme and two slashes ask for a way of writing that the program does not have. -/
def isForeign (path : String) : Bool :=
  (splitScheme? path.toList).any fun (_, rest) => rest.take 2 = ['/', '/']

/-- The number of a service behind the last colon of a server's name, and that name. A colon
inside square brackets belongs to the name. -/
def splitService (host : Text) : Text × Option Text :=
  let tail := host.reverse.takeWhile fun c => c != ':' && c != ']'
  match host.reverse.drop tail.length with
  | ':' :: name => (name.reverse, some tail.reverse)
  | _ => (host, none)

def isControl (c : Char) : Bool := c.toNat ≤ 32 || c.toNat == 127

/-- Only the last part of a server's name may be empty. -/
def isBadName (name : Text) : Bool :=
  let parts := (String.ofList name).splitOn "."
  parts.dropLast.any (·.isEmpty) || parts.any fun part => 64 ≤ part.length

/-- Why a server is not reached. None answers. -/
def serverError (name : Text) : FetchError := if isBadName name then .badName else .unreachable

/-- Why a page is not fetched. -/
def pageError (host request : Text) : FetchError :=
  let (name, service) := splitService host
  if host.isEmpty then .unreachable
  else if service.any fun t => !t.all Text.isAnyDigit then .malformed
  else if name.any isControl || request.any isControl then .malformed
  else if request.any (128 ≤ ·.toNat) || host.any (256 ≤ ·.toNat) then .unencodable
  else serverError name

/-- The path of a file that an address stands for. -/
def filePath (a : Address) : String := String.ofList (unescape a.request)

/-- Is the server the machine itself? -/
def isHere (a : Address) : Bool :=
  a.host.all fun host => host = [] ∨ host = "localhost".toList ∨ host = "127.0.0.1".toList

/-- Only a file of the machine itself can be fetched. -/
def fetch (folder : Folder) (a : Address) : Except FetchError Unit :=
  if a.scheme = "http".toList ∨ a.scheme = "https".toList then
    .error (pageError (a.host.getD []) a.request)
  else if a.scheme = "file".toList ∧ a.isHere then
    match folder.target (.start a.filePath) a.filePath with
    | .ok place =>
      match folder.entry? place with
      | some (.file _) => .ok ()
      | _ => .error .unreachable
    | .error .nullInPath => .error .nullInPath
    | .error _ => .error .unreachable
  else if a.scheme = "ftp".toList then
    let host := a.host.getD []
    .error (serverError (splitService ((Text.after? '@' host).getD host)).1)
  else .error .unreachable

end Address
end Airspaces
