/-
Versions of agents.

A version is three numbers between dots, then perhaps a hyphen and a pre-release, then
perhaps a plus sign and a build; a `v` may stand in front.  Numbers have no zeros in front
and may have digits of any script behind their first.  Pre-releases and builds are words
of letters, digits and hyphens between dots.  A number holds neither hyphen nor plus sign
and a pre-release holds no plus sign, so the text is cut in one way only.
-/
import AgentId.Text.Blank
import AgentId.Text.Cut
import AgentId.Text.Digit

namespace AgentId.Version

/-- A number without zeros in front. -/
def isNumber : List Char → Bool
  | [] => false
  | c :: cs => (c == '0' && cs.isEmpty) || ('1' ≤ c && c ≤ '9' && cs.all Text.isDecimalDigit)

/-- A word of a pre-release or a build. -/
def isWord (cs : List Char) : Bool :=
  !cs.isEmpty && cs.all fun c => c.isAlphanum || c == '-'

/-- Words between dots. -/
def areWords (cs : List Char) : Bool :=
  (cs.splitOn '.').all isWord

/-- Three numbers between dots. -/
def isCore (cs : List Char) : Bool :=
  let numbers := cs.splitOn '.'
  numbers.length == 3 && numbers.all isNumber

/-- The part of a text before a mark, when the part behind the mark is words. -/
def before? (mark : Char) (cs : List Char) : Option (List Char) :=
  match Text.cut? mark cs with
  | none => some cs
  | some (start, words) => if areWords words then some start else none

/-- Whether text is a version without a `v` in front. -/
def isVersion (cs : List Char) : Bool :=
  ((before? '+' cs).bind (before? '-')).any isCore

/-- A version without the white space around it and the `v` in front of it. -/
def normalize? (value : String) : Option String :=
  let cs := Text.trim value.toList
  let cs := match cs with
    | 'v' :: rest => rest
    | _ => cs
  if isVersion cs then some (String.ofList cs) else none

end AgentId.Version
