/-
Quoted text in messages.

A message that names what was wrong quotes it, so that its ends and its blanks can be
seen.  A quoted text stands between two marks; the mark and the backslash carry a
backslash before them, NUL, tab, line feed and carriage return are written with a letter,
and every other character without a glyph of its own is written by its code point.
-/
import AgentId.Text.Visible

namespace AgentId.Text

/-- The least number of hexadecimal digits, in lower case. -/
def hexDigits (n : Nat) : List Char :=
  Nat.toDigits 16 n

/-- How one character stands between two of `mark`. -/
def quotedChar (mark c : Char) : List Char :=
  if c = '\x00' then ['\\', '0']
  else if c = '\t' then ['\\', 't']
  else if c = '\r' then ['\\', 'r']
  else if c = '\n' then ['\\', 'n']
  else if c = '\\' || c = mark then ['\\', c]
  else if isVisible c then [c]
  else ['\\', 'u', '\x7b'] ++ hexDigits c.toNat ++ ['\x7d']

/-- A text between double quotes. -/
def quoted (s : String) : String :=
  String.ofList ('"' :: s.toList.flatMap (quotedChar '"') ++ ['"'])

/-- A character between single quotes. -/
def quotedLetter (c : Char) : String :=
  String.ofList ('\'' :: quotedChar '\'' c ++ ['\''])

end AgentId.Text
