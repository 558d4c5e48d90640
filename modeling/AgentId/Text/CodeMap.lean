/-
Maps of characters written as runs of code points.

Where the Unicode standard sends characters to characters, it mostly does so by runs: the
letters from U+00C0 to U+00D6 go to the letters from U+00E0 on, and every second code
point from U+0100 to U+012E goes to the one behind it.  A table is kept as text,
`00C0-00D6>00E0 0100-012E/2>0101 00BC>0031+2044+0034 00AD>`, every word one run and the
image of its first member.  Along a run only the first code point of the image moves; an
image may be empty.
-/
import AgentId.Text.CodeSet

namespace AgentId.Text

/-- Code points from `first` to `last`, `step` apart, and the image of the first. -/
structure CodeRun where
  first : Nat
  last : Nat
  step : Nat
  image : List Nat

/-- One word of a table. -/
def CodeRun.read (word : List Char) : CodeRun :=
  let (source, image) := (cutWord '>' word)
  let (run, step) := cutWord '/' source
  let (first, last) := CodeSet.readRun run
  { first, last
    step := if step.isEmpty then 1 else hexNumber step
    image := ((image.splitOn '+').filter (!·.isEmpty)).map hexNumber }
where
  cutWord (sep : Char) (word : List Char) : List Char × List Char :=
    (word.takeWhile (· != sep), (word.dropWhile (· != sep)).drop 1)

/-- The image of a code point, if it is in the run. -/
def CodeRun.send? (r : CodeRun) (n : Nat) : Option (List Nat) :=
  if r.first ≤ n ∧ n ≤ r.last ∧ (n - r.first) % r.step = 0 then
    match r.image with
    | [] => some []
    | a :: rest => some ((a + (n - r.first)) :: rest)
  else none

/-- A map from code points to lists of them. -/
structure CodeMap where
  runs : Array CodeRun

namespace CodeMap

/-- The map that a table writes. -/
def ofText (table : String) : CodeMap :=
  ⟨((tableWords table).map CodeRun.read).toArray⟩

/-- The image of a character, if the map has one. -/
def get? (m : CodeMap) (c : Char) : Option (List Char) :=
  (m.runs.findSome? (·.send? c.toNat)).map (·.map Char.ofNat)

end CodeMap

end AgentId.Text
