/-
TXT records of hosts.

A table of records finds a host whatever the case of its letters and however many dots
stand behind it.  Records stored for one host under several spellings follow one another.
-/
import AgentId.Dict
import AgentId.Text.Blank

namespace AgentId.Dns

/-- The spelling under which a host is stored: no dots behind it, in lower case. -/
def hostKey (host : String) : String :=
  String.ofList ((Text.trimEnd (· == '.') host.toList).map Char.toLower)

/-- Records under their hosts. -/
structure Table where
  records : Dict (List String) := {}

namespace Table

/-- The records of a host; a host that is not stored has none. -/
def lookup (t : Table) (host : String) : List String :=
  (t.records.get? (hostKey host)).getD []

/-- The table with more records for a host. -/
def add (t : Table) (host : String) (records : List String) : Table :=
  ⟨t.records.insert (hostKey host) (t.lookup host ++ records)⟩

end Table

end AgentId.Dns
