/-
Text as UTF-8 octets.

`encode` writes a string as octets and `decode` reads it back.  When octets are not
UTF-8, the fault says where: at the first octet that no continuation of the octets
before it can repair.  The lead octet of a character fixes how many octets follow and
the range of the first of them; every later one is between 0x80 and 0xBF.  A character
cut short by the end of the input is incomplete; one with a wrong octet in it is
invalid, and its length counts the octets before the wrong one.
-/
namespace AgentId.Text.Utf8

/-- The octets of a string. -/
def encode (s : String) : List UInt8 :=
  s.toList.flatMap String.utf8EncodeChar

/-- Where octets stop being UTF-8. -/
inductive Fault where
  /-- `length` octets from `index` on are the start of no character. -/
  | invalid (length index : Nat)
  /-- The input ends inside the character that starts at `index`. -/
  | incomplete (index : Nat)
  deriving DecidableEq, Repr

/-- The fault in words. -/
def Fault.message : Fault → String
  | .invalid length index =>
    "invalid utf-8 sequence of " ++ toString length ++ " bytes from index " ++ toString index
  | .incomplete index => "incomplete utf-8 byte sequence from index " ++ toString index

/-- How many octets follow a lead octet above 0x7F, and the range of the first of them. -/
def lead? (b : UInt8) : Option (Nat × UInt8 × UInt8) :=
  if 0xC2 ≤ b ∧ b ≤ 0xDF then some (1, 0x80, 0xBF)
  else if b = 0xE0 then some (2, 0xA0, 0xBF)
  else if b = 0xED then some (2, 0x80, 0x9F)
  else if 0xE1 ≤ b ∧ b ≤ 0xEF then some (2, 0x80, 0xBF)
  else if b = 0xF0 then some (3, 0x90, 0xBF)
  else if 0xF1 ≤ b ∧ b ≤ 0xF3 then some (3, 0x80, 0xBF)
  else if b = 0xF4 then some (3, 0x80, 0x8F)
  else none

/-- The first fault, read from `index` on: `owed` octets are still to come of the
character that starts at `start`, the next of them from `low` to `high`. -/
def faultFrom (index start owed : Nat) (low high : UInt8) : List UInt8 → Fault
  | [] => .incomplete start
  | b :: bs =>
    if owed = 0 then
      if b < 0x80 then faultFrom (index + 1) (index + 1) 0 low high bs
      else match lead? b with
        | none => .invalid 1 index
        | some (owed, low, high) => faultFrom (index + 1) index owed low high bs
    else if low ≤ b ∧ b ≤ high then
      faultFrom (index + 1) (if owed = 1 then index + 1 else start) (owed - 1) 0x80 0xBF bs
    else .invalid (index - start) start

/-- The string that octets write, or the first fault in them. -/
def decode (bs : List UInt8) : Except Fault String :=
  match String.fromUTF8? bs.toByteArray with
  | some s => .ok s
  | none => .error (faultFrom 0 0 0 0 0 bs)

end AgentId.Text.Utf8
