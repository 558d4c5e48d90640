/-
Chain identifiers: `family:reference`.

The family is three to eight characters, lower-case letters, digits and hyphens; the
reference is one to sixty-four letters of either case, digits, hyphens and underscores.
Neither part can hold the colon, so the text of an identifier is cut in one way only, and
reading it gives what building it from its parts gives.  Every `ChainId` carries the
proof that its parts keep these rules.

Text is asked as a whole whether it has the pattern of an identifier before it is cut.
-/
import AgentId.Text.Cut
import AgentId.Text.Pattern
import AgentId.Caip.Error

namespace AgentId.Caip

/-- What the name of a family of chains is made of. -/
def familyPiece : Text.Piece := ⟨3, 8, fun c => c.isLower || c.isDigit || c == '-'⟩

/-- What a reference to one chain of a family is made of. -/
def referencePiece : Text.Piece := ⟨1, 64, fun c => c.isAlphanum || c == '-' || c == '_'⟩

/-- The name of a family of chains. -/
def isFamily (s : String) : Bool :=
  Text.fits [familyPiece] s.toList

/-- A reference to one chain of a family. -/
def isReference (s : String) : Bool :=
  Text.fits [referencePiece] s.toList

/-- An identifier of a chain. -/
structure ChainId where
  family : String
  reference : String
  family_ok : isFamily family = true
  reference_ok : isReference reference = true
  deriving DecidableEq, Repr

namespace ChainId

/-- The identifier with the given parts. -/
def ofParts (family reference : String) : Except Error ChainId :=
  if hf : isFamily family = true then
    if hr : isReference reference = true then .ok ⟨family, reference, hf, hr⟩
    else .error (.reference reference)
  else .error (.family family)

/-- The pattern of the whole text of an identifier. -/
def pattern : List Text.Piece := [familyPiece, .mark ':', referencePiece]

/-- The identifier that text spells. -/
def parse (s : String) : Except Error ChainId :=
  if !Text.fits pattern s.toList then .error (.chainId s)
  else
    match Text.cut? ':' s.toList with
    | none => .error (.chainId s)
    | some (a, b) => ofParts (String.ofList a) (String.ofList b)

/-- The text of an identifier. -/
def text (c : ChainId) : String :=
  c.family ++ ":" ++ c.reference

theorem ofParts_self (c : ChainId) : ofParts c.family c.reference = .ok c := by
  simp [ofParts, c.family_ok, c.reference_ok]

theorem ofParts_eq_ok {family reference : String} {c : ChainId} :
    ofParts family reference = .ok c ↔ c.family = family ∧ c.reference = reference := by
  constructor
  · intro h
    unfold ofParts at h
    split at h
    · split at h
      · cases h; exact ⟨rfl, rfl⟩
      · cases h
    · cases h
  · rintro ⟨rfl, rfl⟩
    exact ofParts_self c

end ChainId

end AgentId.Caip
