/-
Field lists: `key=value;key=value`.

DNS records and the parameters of an identifier are lists of fields.  The list is cut at
its semicolons and every segment at its first `=`; white space around keys and values
does not count, and neither does one pair of double quotes around a value.  A segment
without a key or without a value says nothing, and of two fields with one key the last
one counts.  No segment affects another, so whatever a list holds besides, its fields
are found.
-/
import AgentId.Dict
import AgentId.Text.Blank
import AgentId.Text.Cut

namespace AgentId.Fields

/-- A value without the pair of double quotes around it. -/
def unquote (cs : List Char) : List Char :=
  match cs with
  | '"' :: rest => if rest.getLast? = some '"' then rest.dropLast else cs
  | _ => cs

/-- The key and the value of a segment, if it has both. -/
def segment? (cs : List Char) : Option (String × String) := do
  let (key, value) ← Text.cut? '=' cs
  let key := Text.trim key
  let value := Text.trim (unquote (Text.trim value))
  if key.isEmpty || value.isEmpty then none
  else some (String.ofList key, String.ofList value)

/-- The fields of a list. -/
def parse (s : String) : Dict String :=
  .ofList ((s.toList.splitOn ';').filterMap segment?)

end AgentId.Fields
