/-
Hosts in URLs.

A host in brackets is an address of version 6.  Any other host of a special scheme is a
domain: its escapes are read, it is brought into ASCII, and if it ends in a number it has
to be an address of version 4.  Other schemes take any text for a host that holds none of
the characters with which URLs are put together.
-/
import AgentId.Idna.Domain
import AgentId.Text.Percent
import AgentId.Url.Ip

namespace AgentId.Url

/-- A host. -/
inductive Host where
  /-- A domain, or the name of a host of a scheme that is not special. -/
  | name (text : String)
  | ipv4 (address : Nat)
  | ipv6 (groups : List Nat)
  deriving DecidableEq, Repr

namespace Host

/-- The host in text that is no address of version 6. -/
def text? : Host → Option String
  | name text => some text
  | ipv4 address => some (Ipv4.text address)
  | ipv6 _ => none

/-- The characters that no host holds. -/
def isForbidden (c : Char) : Bool :=
  "\x00\t\n\r #/:<>?@[\\]^|".toList.contains c

/-- The characters that no domain holds: also controls and the percent sign. -/
def isForbiddenInDomain (c : Char) : Bool :=
  isForbidden c || c.toNat < 0x20 || c == '%' || c.toNat == 0x7F

/-- The domain that text spells. -/
def domain? (cs : List Char) : Option (List Char) := do
  let octets := Text.Percent.decodeBytes (Text.Utf8.encode (String.ofList cs))
  let name ← (Text.Utf8.decode octets).toOption
  let ascii ← Idna.toAscii? name.toList
  if ascii.isEmpty || ascii.any isForbiddenInDomain then none else some ascii

/-- The address of version 6 in brackets. -/
def bracketed? (cs : List Char) : Option Host :=
  if cs.getLast? = some ']' then (Ipv6.parse? cs.dropLast).map ipv6 else none

/-- The host that text spells in a URL of a special scheme. -/
def special? (cs : List Char) : Option Host :=
  match cs with
  | '[' :: rest => bracketed? rest
  | _ => do
    let domain ← domain? cs
    if Ipv4.endsInNumber domain then (Ipv4.parse? domain).map ipv4
    else some (name (String.ofList domain))

/-- Whether a character is written as it is in a host of any other scheme. -/
def isPrintable (c : Char) : Bool :=
  0x20 ≤ c.toNat && c.toNat < 0x7F

/-- The host that text spells in a URL of any other scheme. -/
def opaqueHost? (cs : List Char) : Option Host :=
  match cs with
  | '[' :: rest => bracketed? rest
  | _ =>
    if cs.any isForbidden then none
    else some (name (String.ofList
      (Text.Percent.encodeBytes isPrintable (Text.Utf8.encode (String.ofList cs)))))

end Host

end AgentId.Url
