/-
Sets of characters written as ranges of code points.

The properties of characters that the library reads are data of the Unicode standard.
A table is kept as text, the way the standard prints it: `0660-0669 06F0-06F9 0E3F`,
every word one run of consecutive code points in hexadecimal.  `CodeSet.ofText` reads
such a table and `CodeSet.contains` looks a character up in it.
-/
namespace AgentId.Text

/-- The value of a hexadecimal digit. -/
def hexValue? (c : Char) : Option Nat :=
  if '0' ≤ c ∧ c ≤ '9' then some (c.toNat - '0'.toNat)
  else if 'a' ≤ c ∧ c ≤ 'f' then some (c.toNat - 'a'.toNat + 10)
  else if 'A' ≤ c ∧ c ≤ 'F' then some (c.toNat - 'A'.toNat + 10)
  else none

/-- The number that hexadecimal digits spell; other characters count as zero. -/
def hexNumber (cs : List Char) : Nat :=
  cs.foldl (fun n c => 16 * n + (hexValue? c).getD 0) 0

/-- The words of a table: its text cut at spaces and line ends. -/
def tableWords (table : String) : List (List Char) :=
  (table.toList.splitOnP fun c => c == ' ' || c == '\n').filter (!·.isEmpty)

/-- A set of code points, as runs from a first to a last member. -/
structure CodeSet where
  /-- The first and the last code point of each run. -/
  runs : Array (Nat × Nat)

namespace CodeSet

/-- One run: `first-last`, or one code point alone. -/
def readRun (word : List Char) : Nat × Nat :=
  match word.splitOn '-' with
  | [a, b] => (hexNumber a, hexNumber b)
  | _ => (hexNumber word, hexNumber word)

/-- The set that a table of runs writes. -/
def ofText (table : String) : CodeSet :=
  ⟨((tableWords table).map readRun).toArray⟩

/-- Whether a character is in the set. -/
def contains (s : CodeSet) (c : Char) : Bool :=
  s.runs.any fun (first, last) => first ≤ c.toNat && c.toNat ≤ last

end CodeSet

end AgentId.Text
