/-
JSON text, without blanks.

Strings escape the quote, the backslash and the controls below U+0020, five of them by a
letter and the others by four hexadecimal digits; every other character stands for itself.
So a written string ends at its first bare quote, and different strings are written
differently.
-/
import AgentId.Json.Basic
import AgentId.Text.Hex

namespace AgentId.Json

/-- How a character stands in a string. -/
def escaped (c : Char) : List Char :=
  if c = '"' || c = '\\' then ['\\', c]
  else if c = '\x08' then ['\\', 'b']
  else if c = '\x0c' then ['\\', 'f']
  else if c = '\n' then ['\\', 'n']
  else if c = '\r' then ['\\', 'r']
  else if c = '\t' then ['\\', 't']
  else if c.toNat < 0x20 then ['\\', 'u', '0', '0'] ++ Text.Hex.pair false (UInt8.ofNat c.toNat)
  else [c]

/-- A string between quotes. -/
def writeString (s : String) : List Char :=
  '"' :: s.toList.flatMap escaped ++ ['"']

/-- A number. -/
def Number.write : Number → List Char
  | .integer n => (toString n).toList
  | .decimal m e => (toString m).toList ++ 'e' :: (toString e).toList

mutual

/-- The text of a value. -/
def write : Json → List Char
  | .null => "null".toList
  | .bool true => "true".toList
  | .bool false => "false".toList
  | .num n => n.write
  | .str s => writeString s
  | .arr [] => ['[', ']']
  | .arr (x :: xs) => '[' :: write x ++ writeItems xs ++ [']']
  | .obj [] => ['\x7b', '\x7d']
  | .obj ((k, v) :: ms) =>
    '\x7b' :: writeString k ++ ':' :: write v ++ writeMembers ms ++ ['\x7d']

/-- The items of an array after the first. -/
def writeItems : List Json → List Char
  | [] => []
  | x :: xs => ',' :: write x ++ writeItems xs

/-- The members of an object after the first. -/
def writeMembers : List (String × Json) → List Char
  | [] => []
  | (k, v) :: ms => ',' :: writeString k ++ ':' :: write v ++ writeMembers ms

end

/-- The text of a value, as a string. -/
def text (v : Json) : String :=
  String.ofList v.write

end AgentId.Json
