/-
URLs.

`Url.parse?` reads a URL as web browsers do.  Spaces and controls around it and tabs and
line ends inside it do not count.  The scheme says how to go on: special schemes have a
host, whatever slashes stand before it, and take both kinds of slashes; a file may have a
host; the URLs of other schemes have one behind two slashes, and without any slash they
have no path either but text that is nobody's business.

Queries and fragments cannot be wrong and are left out.
-/
import AgentId.Text.Blank
import AgentId.Text.Cut
import AgentId.Url.Host
import AgentId.Url.Path

namespace AgentId

/-- A URL. -/
structure Url where
  /-- In lower case. -/
  scheme : String
  host : Option Url.Host
  /-- The segments of the path, if it has any. -/
  path : Option (List String)
  deriving DecidableEq, Repr

namespace Url

/-- How the URLs of a scheme are read. -/
inductive Family where
  | special
  | file
  | other
  deriving DecidableEq

/-- The family of a scheme. -/
def family (scheme : String) : Family :=
  if ["http", "https", "ws", "wss", "ftp"].contains scheme then .special
  else if scheme = "file" then .file
  else .other

/-! ### The parts of the text -/

/-- The characters that count. -/
def relevant (s : String) : List Char :=
  let isOuter := fun (c : Char) => c.toNat ≤ 0x20
  (Text.trimStart isOuter (Text.trimEnd isOuter s.toList)).filter
    fun c => !(c == '\t' || c == '\n' || c == '\r')

/-- The scheme, and what stands behind its colon. -/
def scheme? (cs : List Char) : Option (String × List Char) :=
  match Text.cut? ':' cs with
  | some (c :: name, rest) =>
    if c.isAlpha && name.all fun c => c.isAlphanum || c == '+' || c == '-' || c == '.' then
      some (String.ofList ((c :: name).map Char.toLower), rest)
    else none
  | _ => none

/-- Where a path ends. -/
def endsPath (c : Char) : Bool :=
  c == '?' || c == '#'

/-- Where the host and all that belongs to it ends. -/
def endsAuthority (special : Bool) (c : Char) : Bool :=
  isSlash special c || endsPath c

/-- What stands before the last at sign, and what behind it. -/
def splitUser (authority : List Char) : Option (List Char) × List Char :=
  if authority.contains '@' then
    (some ((authority.reverse.dropWhile (· != '@')).drop 1).reverse,
      (authority.reverse.takeWhile (· != '@')).reverse)
  else (none, authority)

/-- The host, up to a colon outside brackets, and the rest. -/
def splitPort (inBrackets : Bool) : List Char → List Char × List Char
  | [] => ([], [])
  | c :: cs =>
    if c = ':' ∧ !inBrackets then ([], c :: cs)
    else
      let (host, port) := splitPort (if c = '[' then true else if c = ']' then false
        else inBrackets) cs
      (c :: host, port)

/-- What stands behind a port, unless the port is no number of sixteen bits. -/
def behindPort? : List Char → Option (List Char)
  | ':' :: cs =>
    let (digits, rest) := (cs.takeWhile Char.isDigit, cs.dropWhile Char.isDigit)
    let port := digits.foldl (fun n d => 10 * n + (d.toNat - '0'.toNat)) 0
    if port < Nat.pow 2 16 ∧ (rest.isEmpty ∨ rest.head? = some '\\') then some rest else none
  | cs => some cs

/-- The text behind the slash that a path starts with; the slash may be missing. -/
def behindSlash (special : Bool) : List Char → List Char
  | [] => []
  | c :: cs => if isSlash special c then cs else c :: cs

/-- The part of a text that is a path. -/
def pathText (cs : List Char) : List Char :=
  cs.takeWhile (!endsPath ·)

/-- The segments of a path. -/
def segments (special : Bool) (cs : List Char) : List String :=
  (Path.segments special (behindSlash special cs)).map Path.escaped

/-! ### The three families -/

/-- Whether the part before the at sign names nobody. -/
def isNobody (user : Option (List Char)) : Bool :=
  user = none || user = some [] || user = some [':']

/-- A URL with a host, from behind the slashes on. -/
def withAuthority (scheme : String) (special : Bool) (cs : List Char) : Option Url := do
  let (authority, rest) := Text.breakAt (endsAuthority special) cs
  let (user, server) := splitUser authority
  let (hostText, port) := splitPort false server
  if hostText.isEmpty then
    if special || !port.isEmpty || !isNobody user || (user = some [] && !rest.isEmpty) then none
    else return ⟨scheme, none, pathOf rest⟩
  else
    let host ← if special then Host.special? hostText else Host.opaqueHost? hostText
    return ⟨scheme, some host, pathOf ((← behindPort? port) ++ rest)⟩
where
  pathOf (rest : List Char) : Option (List String) :=
    let path := pathText rest
    if path.isEmpty && !special then none else some (segments special path)

/-- A file on a host, from behind the slashes on.  A path that starts at a disk belongs to no
host, and neither does one on this machine. -/
def fileOn (cs : List Char) : Option Url := do
  let (hostText, rest) := Text.breakAt (endsAuthority true) cs
  if Path.isDrive hostText then return file none cs
  else if hostText.isEmpty then return file none rest
  else
    let host ← Host.special? hostText
    return file (if host = .name "localhost" then none else some host) rest
where
  file (host : Option Host) (rest : List Char) : Url :=
    let segments := Path.segments true (behindSlash true (pathText rest))
    match Path.onDrive? segments with
    | some segments =>
      { scheme := "file", host := none, path := some (segments.map Path.escaped) }
    | none =>
      let leading := segments.dropWhile (·.isEmpty)
      { scheme := "file"
        host
        path := some ((if leading.isEmpty then [[]] else leading).map Path.escaped) }

/-- The URL that text spells. -/
def parse? (s : String) : Option Url := do
  let (scheme, rest) ← scheme? (relevant s)
  match family scheme with
  | .special => withAuthority scheme true (rest.dropWhile (isSlash true))
  | .file =>
    match rest with
    | a :: b :: cs =>
      if isSlash true a && isSlash true b then fileOn cs
      else return fileOn.file none (a :: b :: cs)
    | cs => return fileOn.file none cs
  | .other =>
    match rest with
    | '/' :: '/' :: cs => withAuthority scheme false cs
    | '/' :: cs => return ⟨scheme, none, some (segments false ('/' :: pathText cs))⟩
    | _ => return ⟨scheme, none, none⟩

end Url

end AgentId
