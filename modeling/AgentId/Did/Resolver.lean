/-
Resolvers of DIDs.

A resolver says which DIDs it is for and answers with a document, with nothing when it
does not know the DID, or with a fault; what it answers may depend on what happened
before.  Two are at hand, which always answer the same.

A DID of method `key` is its own document: the key stands in the DID as a multibase
text, and the first two octets of the key say what kind it is.

A table holds documents under their DIDs.  What is asked for is cut to the DID that a DID
URL starts with; what is stored is stored under the text given.
-/
import AgentId.Codec.Multibase
import AgentId.Resolution.History
import AgentId.Text.Hex

namespace AgentId

/-- Answers for some DIDs. -/
structure DidResolver where
  supports : String → Bool
  resolve : History → String → Except Fault (Option DidDocument)

/-- Finds more for some DIDs than their documents. -/
structure DidProfile where
  id : String
  supports : String → Bool
  resolve : History → String → Except Fault Resolution

namespace Did

/-- The DID that a DID URL starts with: the text before a query or a fragment. -/
def ofUrl (url : String) : String :=
  String.ofList (url.toList.takeWhile fun c => !(c == '?' || c == '#'))

/-! ### Keys -/

namespace Key

/-- The kind of a key, by the octets it starts with. -/
def kind? : List UInt8 → Option String
  | 0xED :: 0x01 :: _ => some "Ed25519VerificationKey2020"
  | 0xEC :: 0x01 :: _ => some "X25519KeyAgreementKey2020"
  | 0xE7 :: 0x01 :: _ => some "EcdsaSecp256k1VerificationKey2019"
  | 0x80 :: 0x24 :: _ => some "JsonWebKey2020"
  | _ => none

/-- Octets in a message. -/
def showOctets (bs : List UInt8) : String :=
  "[" ++ ", ".intercalate (bs.map fun b => String.ofList (Text.Hex.pair false b)) ++ "]"

/-- The key in a DID of method `key`, if there is one. -/
def text? (did : String) : Option String := do
  let rest ← Text.behind? "did:key:" did.toList
  let key := ofUrl (String.ofList rest)
  if key = "" then none else some key

/-- The document of a key. -/
def document (key kind : String) : DidDocument :=
  let did := "did:key:" ++ key
  let method := did ++ "#" ++ key
  { id := did
    verificationMethod :=
      [{ id := method, kind, controller := did, publicKeyMultibase := some key }]
    authentication := [method]
    assertionMethod := [method] }

/-- The document that a DID of method `key` stands for. -/
def resolve (did : String) : Except Fault DidDocument :=
  match text? did with
  | none => .error (.invalidDid ("Not a did:key: " ++ did))
  | some key =>
    match Codec.Multibase.decode key.toList with
    | .error cause =>
      .error (.didResolution ("Failed to decode multibase key: " ++ cause.message))
    | .ok octets =>
      match kind? octets with
      | some kind => .ok (document key kind)
      | none =>
        .error (.didResolution ("Unsupported key type: " ++ showOctets (octets.take 2)))

/-- The resolver of method `key`. -/
def resolver : DidResolver where
  supports := Text.startsWith "did:key:"
  resolve := fun _ did => (resolve did).map some

end Key

/-! ### Tables -/

/-- Documents under their DIDs. -/
structure Table where
  documents : Dict DidDocument := {}

namespace Table

/-- The table with a document stored under a DID. -/
def insert (t : Table) (did : String) (document : DidDocument) : Table :=
  ⟨t.documents.insert did document⟩

/-- The table with a document stored under its own DID. -/
def add (t : Table) (document : DidDocument) : Table :=
  t.insert document.id document

/-- The document for a DID URL. -/
def get? (t : Table) (url : String) : Option DidDocument :=
  t.documents.get? (ofUrl url)

/-- Whether there is a document for a DID URL. -/
def contains (t : Table) (url : String) : Bool :=
  (t.get? url).isSome

/-- The resolver that answers from a table. -/
def resolver (t : Table) : DidResolver where
  supports := t.contains
  resolve := fun _ did => .ok (t.get? did)

end Table

end Did

end AgentId
