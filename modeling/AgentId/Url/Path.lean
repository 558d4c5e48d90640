/-
Paths in URLs.

A path is cut into segments at its slashes.  A segment of one dot stays where it is and
one of two dots goes back by one, also when the dots are escaped; at the end of a path
both leave an empty segment, since they name what they lead to.  Whatever the scheme,
nothing goes back behind a segment that looks like the name of a disk.  Characters that
would mean something else are escaped in the others.
-/
import AgentId.Text.Percent

namespace AgentId.Url

/-- Whether a character parts segments; in special schemes both slashes do. -/
def isSlash (special : Bool) (c : Char) : Bool :=
  c == '/' || (special && c == '\\')

namespace Path

/-- A segment that stays where it is. -/
def isSingleDot (segment : List Char) : Bool :=
  [".", "%2e"].contains (String.ofList (segment.map Char.toLower))

/-- A segment that goes back. -/
def isDoubleDot (segment : List Char) : Bool :=
  ["..", ".%2e", "%2e.", "%2e%2e"].contains (String.ofList (segment.map Char.toLower))

/-- The name of a disk. -/
def isDrive : List Char → Bool
  | [c, mark] => c.isAlpha && (mark == ':' || mark == '|')
  | _ => false

/-- The segments without the last one, unless that is the name of a disk. -/
def goBack : List (List Char) → List (List Char)
  | [] => []
  | segment :: rest => if isDrive segment then segment :: rest else rest

/-- The segments that are left of a path, behind those that are done, last one first. -/
def walk (done : List (List Char)) : List (List Char) → List (List Char)
  | [] => done
  | [last] =>
    if isDoubleDot last then [] :: goBack done
    else if isSingleDot last then [] :: done
    else last :: done
  | segment :: rest =>
    if isDoubleDot segment then walk (goBack done) rest
    else if isSingleDot segment then walk done rest
    else walk (segment :: done) rest

/-- The segments of a path on a disk, if the first one names it; the name is written with a
colon. -/
def onDrive? : List (List Char) → Option (List (List Char))
  | [c, mark] :: rest => if isDrive [c, mark] then some ([c, ':'] :: rest) else none
  | _ => none

/-- Whether a character of a segment is written as it is. -/
def isPlain (c : Char) : Bool :=
  0x20 < c.toNat && c.toNat < 0x7F && !("\"<>\x60#?\x7b\x7d".toList.contains c)

/-- A segment with its special characters escaped. -/
def escaped (segment : List Char) : String :=
  String.ofList
    (Text.Percent.encodeBytes isPlain (Text.Utf8.encode (String.ofList segment)))

/-- The segments of the text behind the first slash of a path. -/
def segments (special : Bool) (cs : List Char) : List (List Char) :=
  (walk [] (cs.splitOnP (isSlash special))).reverse

end Path

end AgentId.Url
