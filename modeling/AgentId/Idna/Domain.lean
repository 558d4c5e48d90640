/-
Host names in ASCII.

A host name is written with any characters but known by ASCII ones.  `toAscii?` respells
the name, composes it, cuts it into labels at its dots and writes every label that needs
it in Punycode behind `xn--`.  A label that already starts so is read first, and both
kinds then keep the same rules: all characters can stand in a name, no mark stands first,
joiners stand where they may, and if any label runs from right to left every one of them
runs one way.
-/
import AgentId.Idna.Joining
import AgentId.Idna.Mapping
import AgentId.Idna.Punycode
import AgentId.Text.Cut

namespace AgentId.Idna

open Text (CodeSet)

/-- Marks that take room of their own, and a few that do not but count like those. -/
def spacingMarks : CodeSet := .ofText
  "0903 093B 093E-0940 0949-094C 094E-094F 0982-0983 09BE-09C0 09C7-09CC 09D7 0A03 0A3E-0A40
   0A83 0ABE-0AC0 0AC9-0ACC 0B02-0B03 0B3E 0B40 0B47-0B4C 0B57 0BBE-0BBF 0BC1-0BCC 0BD7
   0C01-0C03 0C41-0C44 0C82-0C83 0CBE-0CCB 0CD5-0CD6 0CF3 0D02-0D03 0D3E-0D40 0D46-0D4C 0D57
   0D82-0D83 0DCF-0DD1 0DD8-0DDF 0DF2-0DF3 0F3E-0F3F 0F7F 102B-102C 1031 1038 103B-103C
   1056-1057 1062-1064 1067-106D 1083-1084 1087-108C 108F 109A-109C 1715 1734 17B6 17BE-17C5
   17C7-17C8 1923-1926 1929-1931 1933-1938 1A19-1A1A 1A55 1A57 1A61 1A63-1A64 1A6D-1A72 1B04
   1B35 1B3B 1B3D-1B41 1B43-1B44 1B82 1BA1 1BA6-1BA7 1BAA 1BE7 1BEA-1BEC 1BEE 1BF2-1BF3
   1C24-1C2B 1C34-1C35 1CE1 1CF7 302E-302F A823-A824 A827 A880-A881 A8B4-A8C3 A952-A953 A983
   A9B4-A9B5 A9BA-A9BB A9BE-A9C0 AA2F-AA30 AA33-AA34 AA4D AA7B AA7D AAEB AAEE-AAEF AAF5
   ABE3-ABE4 ABE6-ABE7 ABE9-ABEA ABEC 11000 11002 11082 110B0-110B2 110B7-110B8 1112C
   11145-11146 11182 111B3-111B5 111BF-111C0 111CE 1122C-1122E 11232-11233 11235 112E0-112E2
   11302-11303 1133E-1133F 11341-1134D 11357 11362-11363 113B8-113BA 113C2-113CD 113CF
   11435-11437 11440-11441 11445 114B0-114B2 114B9 114BB-114BE 114C1 115AF-115B1 115B8-115BB
   115BE 11630-11632 1163B-1163C 1163E 116AC 116AE-116AF 116B6 11720-11721 11726 1182C-1182E
   11838 11930-11938 1193D 11940 11942 119D1-119D3 119DC-119DF 119E4 11A07-11A08 11A39
   11A57-11A58 11A97 11B61 11B65 11B67 11C2F 11C3E-11C3F 11CA9 11CB1 11CB4 11D8A-11D8E
   11D93-11D94 11D96 11EF5-11EF6 11F03 11F34-11F35 11F3E-11F3F 11F41 1612A-1612C 16F51-16F87
   16FF0-16FF1 1D165-1D166 1D16D-1D172"

/-- Whether a character belongs to the one before it. -/
def isMark (c : Char) : Bool :=
  0x300 ≤ c.toNat && (nonspacingMarks.contains c || spacingMarks.contains c)

/-- Whether a text is within ASCII. -/
def isAscii (cs : List Char) : Bool :=
  cs.all (·.toNat < 0x80)

/-- What a label starts with that is written in Punycode. -/
def codedStart : String := "xn--"

/-- The label that a respelled label stands for. -/
def meaning? (label : List Char) : Option (List Char) :=
  match Text.behind? codedStart label with
  | none => some label
  | some code => do
    let cs ← if isAscii code then Punycode.decode? code else none
    if isAscii cs || Text.composed cs ≠ cs || (Text.behind? codedStart cs).isSome then none
    else some cs

/-- Whether a label keeps the rules for labels of their own. -/
def isLabel (label : List Char) : Bool :=
  label.all isValid && !label.head?.any isMark && joinersFit label

/-- A label in ASCII. -/
def asciiLabel (label : List Char) : List Char :=
  if isAscii label then label else codedStart.toList ++ Punycode.encode label

/-- The name in ASCII, unless it breaks a rule. -/
def toAscii? (name : List Char) : Option (List Char) := do
  let spelled ← name.mapM spell?
  let labels ← ((Text.composed spelled.flatten).splitOn '.').mapM meaning?
  if labels.all isLabel && (!labels.any hasLeftward || labels.all runsOneWay) then
    some (['.'].intercalate (labels.map asciiLabel))
  else none

end AgentId.Idna
