/-
Octets and strings behind a `z`.

Identifiers carry octets, and strings as their UTF-8 octets, in one multibase code only:
base58, named by `z`.  Every other code is refused, and so is a bare `z`, since nothing
that is worth carrying is empty.
-/
import AgentId.Codec.Multibase

namespace AgentId.Codec.Multibase58

/-- Why a text does not carry what was asked for. -/
inductive Fault where
  /-- The text is not `z` and more. -/
  | unsupported (value : String)
  /-- What follows `z` is not base58. -/
  | malformed (value : String) (cause : Multibase.Fault)
  /-- The octets are not the UTF-8 form of a string. -/
  | notText (cause : Text.Utf8.Fault)
  deriving DecidableEq, Repr

/-- The fault in words. -/
def Fault.message : Fault → String
  | .unsupported value => "unsupported multibase value: " ++ value
  | .malformed value cause => "invalid multibase value: " ++ value ++ ": " ++ cause.message
  | .notText cause => "invalid multibase value: " ++ cause.message

/-- Octets behind a `z`. -/
def encode (bs : List UInt8) : String :=
  "z" ++ Base58.encode bs

/-- A string behind a `z`. -/
def encodeString (s : String) : String :=
  encode (Text.Utf8.encode s)

/-- The octets behind a `z`. -/
def decode (value : String) : Except Fault (List UInt8) :=
  match value.toList with
  | 'z' :: c :: cs =>
    match Multibase.decode ('z' :: c :: cs) with
    | .ok bs => .ok bs
    | .error cause => .error (.malformed value cause)
  | _ => .error (.unsupported value)

/-- The string behind a `z`. -/
def decodeString (value : String) : Except Fault String := do
  let bs ← decode value
  match Text.Utf8.decode bs with
  | .ok s => .ok s
  | .error cause => .error (.notText cause)

end AgentId.Codec.Multibase58
