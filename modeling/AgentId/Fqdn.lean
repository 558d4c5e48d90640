/-
Fully-qualified domain names.

A name is two or more labels between dots, at most 253 octets in all.  A label is one to
63 lower-case letters, digits and hyphens and has no hyphen at its ends.  Names are
compared in this form; white space around a name, the case of its letters and one dot
behind it are matters of spelling, which `normalize` removes.
-/
import AgentId.Text.Blank
import AgentId.Text.Quoted

namespace AgentId.Fqdn

/-- Why text is not a domain name. -/
inductive Fault where
  | empty
  | tooLong
  /-- There is no dot in the name. -/
  | singleLabel (name : String)
  | badLabel (name label : String)
  deriving DecidableEq, Repr

/-- The fault in words. -/
def Fault.message (f : Fault) : String :=
  "Invalid FQDN: " ++ match f with
    | .empty => "empty domain"
    | .tooLong => "domain longer than 253 characters"
    | .singleLabel name => name ++ " has a single label"
    | .badLabel name label => name ++ " has an invalid label " ++ Text.quoted label

/-- The characters of labels. -/
def isLabelChar (c : Char) : Bool :=
  c.isLower || c.isDigit || c == '-'

/-- One label. -/
def isLabel (cs : List Char) : Bool :=
  1 ≤ cs.length && cs.length ≤ 63 && cs.all isLabelChar &&
    cs.head? != some '-' && cs.getLast? != some '-'

/-- The spelling of a name, without the white space around it and one dot behind it, in
lower case. -/
def spelling (value : String) : List Char :=
  let cs := Text.trim value.toList
  let cs := if cs.getLast? = some '.' then cs.dropLast else cs
  cs.map Char.toLower

/-- The name that text spells. -/
def normalize (value : String) : Except Fault String :=
  let cs := spelling value
  let name := String.ofList cs
  let labels := cs.splitOn '.'
  if cs.isEmpty then .error .empty
  else if 253 < name.utf8ByteSize then .error .tooLong
  else if labels.length < 2 then .error (.singleLabel name)
  else
    match labels.find? (!isLabel ·) with
    | some l => .error (.badLabel name (String.ofList l))
    | none => .ok name

/-- The name that text spells, if it spells one. -/
def normalize? (value : String) : Option String :=
  (normalize value).toOption

/-- Whether text spells a domain name. -/
def isFqdn (value : String) : Bool :=
  (normalize? value).isSome

end AgentId.Fqdn
