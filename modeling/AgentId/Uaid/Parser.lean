/-
Reading agent identifiers.

Text is `uaid:`, the target, a colon, what the target names, and after a semicolon a
list of parameters.  White space around the whole and around the name does not count.
The parameters are a field list whose values are percent-encoded; a parameter that
cannot be read is no reason to refuse the text, so the only faults are in what stands
before the first semicolon.
-/
import AgentId.Fields
import AgentId.Text.Quoted
import AgentId.Uaid.Basic
import AgentId.Json.Record

namespace AgentId

namespace Uaid

/-- Why text is not an agent identifier. -/
inductive Fault where
  /-- The text does not start with `uaid:`. -/
  | noScheme (text : String)
  /-- There is no colon behind a target. -/
  | noTarget (text : String)
  /-- The target has another name than the two there are. -/
  | unknownTarget (name : String)
  /-- The target is not said what it is. -/
  | noIdentifier (text : String)
  deriving DecidableEq, Repr

/-- The fault in words. -/
def Fault.message (f : Fault) : String :=
  "Invalid UAID: " ++ match f with
    | .noScheme text => Text.quoted text ++ " is missing the uaid: prefix"
    | .noTarget text => Text.quoted text ++ " is missing a target"
    | .unknownTarget name => "unsupported target " ++ Text.quoted name
    | .noIdentifier text => Text.quoted text ++ " has an empty identifier"

/-- The target of a name. -/
def parseTarget (name : String) : Except Fault Target :=
  if name = "aid" then .ok .aid
  else if name = "did" then .ok .did
  else .error (.unknownTarget name)

/-- The parameters that a field list gives. -/
def parseParams (section_ : String) : Dict String :=
  (Fields.parse section_).map Text.Percent.decode

/-- The identifier that text spells. -/
def parse (s : String) : Except Fault Uaid :=
  let whole := Text.trimmed s
  match Text.behind? "uaid:" whole.toList with
  | none => .error (.noScheme whole)
  | some rest =>
    match Text.cut? ':' rest with
    | none => .error (.noTarget whole)
    | some (target, rest) =>
      match parseTarget (String.ofList target) with
      | .error e => .error e
      | .ok target =>
        let (name, fields) := Text.breakAt (· == ';') rest
        let identifier := Text.trim name
        if identifier.isEmpty then .error (.noIdentifier whole)
        else .ok {
          target
          identifier := String.ofList identifier
          params := parseParams (String.ofList (fields.drop 1)) }

/-! ### As a record -/

/-- The record of an identifier. -/
def toJson (u : Uaid) : Json :=
  .obj [
    ("target", .str u.target.text),
    ("identifier", .str u.identifier),
    ("params", .ofDict .str u.params)]

/-- The target that a record names. -/
def target? (v : Json) : Option Target := do
  let name ← v.tag?
  (parseTarget name).toOption

/-- The identifier of a record. -/
def ofJson? (v : Json) : Option Uaid := do
  let fields ← v.fields? ["target", "identifier", "params"]
  return {
    target := ← Json.required fields "target" target?
    identifier := ← Json.required fields "identifier" Json.string?
    params := ← Json.required fields "params" (Json.dict? Json.string?) }

end Uaid

end AgentId
