/-
Documents and their records.

What a document is written as is read as the same document (`DidDocument.ofJson?_toJson`), and
so for the two kinds of records in it.  There is one exception among the values that can be
built: a key that is null is written as a null, which is read as no key.  No reader gives such a
value (`VerificationMethod.publicKeyJwk_ne_null`), so whatever was read is read again.
-/
import AgentId.Did.Document
import AgentId.Proofs.Json.Record

namespace AgentId

open Json

/-! ### Verification methods -/

namespace VerificationMethod

/-- The fields of the record. -/
def names : List String := ["id", "type", "controller", "publicKeyMultibase", "publicKeyJwk"]

/-- Which fields are written. -/
def present (m : VerificationMethod) : List (String × Bool) :=
  [("id", true), ("type", true), ("controller", true),
    ("publicKeyMultibase", m.publicKeyMultibase.isSome), ("publicKeyJwk", m.publicKeyJwk.isSome)]

/-- What is written for each field. -/
def table (m : VerificationMethod) : List (String × Option Json) :=
  [("id", some (.str m.id)), ("type", some (.str m.kind)),
    ("controller", some (.str m.controller)),
    ("publicKeyMultibase", m.publicKeyMultibase.map .str),
    ("publicKeyJwk", m.publicKeyJwk.map fun v => v)]

/-- The fields of a record say what is in the method. -/
structure Reads (fields : List (String × Json)) (m : VerificationMethod) : Prop where
  id : required fields "id" string? = some m.id
  kind : required fields "type" string? = some m.kind
  controller : required fields "controller" string? = some m.controller
  publicKeyMultibase : optional fields "publicKeyMultibase" string? = some m.publicKeyMultibase
  publicKeyJwk : optional fields "publicKeyJwk" some = some m.publicKeyJwk

theorem ofJson?_eq_some_iff {v : Json} {m : VerificationMethod} :
    ofJson? v = some m ↔ ∃ fields, v.fields? names = some fields ∧ Reads fields m := by
  obtain ⟨id, kind, controller, publicKeyMultibase, publicKeyJwk⟩ := m
  unfold ofJson?
  simp only [Option.bind_eq_bind, Option.bind_eq_some_iff, Option.pure_def, Option.some.injEq,
    mk.injEq]
  constructor
  · rintro ⟨fields, hfields, _, hid, _, hkind, _, hcontroller, _, hkey, _, hjwk,
      rfl, rfl, rfl, rfl, rfl⟩
    exact ⟨fields, hfields, hid, hkind, hcontroller, hkey, hjwk⟩
  · rintro ⟨fields, hfields, hid, hkind, hcontroller, hkey, hjwk⟩
    exact ⟨fields, hfields, _, hid, _, hkind, _, hcontroller, _, hkey, _, hjwk,
      rfl, rfl, rfl, rfl, rfl⟩

theorem tabled : Tabled toJson names table present where
  distinct := by decide
  named _ := rfl
  write_eq _ := by
    simp only [toJson, table, written_some, written_map, written_nil, List.cons_append,
      List.nil_append, List.append_nil]
  present_eq _ := by simp [table, present]

/-- A key that was read is not null. -/
theorem publicKeyJwk_ne_null {v : Json} {m : VerificationMethod} (h : ofJson? v = some m) :
    m.publicKeyJwk ≠ some .null := by
  obtain ⟨fields, -, hreads⟩ := ofJson?_eq_some_iff.mp h
  intro hnull
  have hjwk := hreads.publicKeyJwk
  rw [hnull] at hjwk
  obtain ⟨w, -, hne, hw⟩ := optional_eq_some_some_iff.mp hjwk
  exact hne (Option.some.inj hw)

/-- **A method is read back from its record**, unless its key is null. -/
theorem ofJson?_toJson {m : VerificationMethod} (h : m.publicKeyJwk ≠ some .null) :
    ofJson? m.toJson = some m := by
  rw [ofJson?_eq_some_iff]
  refine ⟨_, tabled.fields? _, ?_, ?_, ?_, ?_, ?_⟩
  · exact required_of_lookup (tabled.lookup m "id") rfl
  · exact required_of_lookup (tabled.lookup m "type") rfl
  · exact required_of_lookup (tabled.lookup m "controller") rfl
  · exact optional_string_of_lookup (tabled.lookup m "publicKeyMultibase")
  · exact optional_of_lookup (tabled.lookup m "publicKeyJwk")
      fun _ hy => ⟨fun hnull => h (hy.trans (congrArg some hnull)), rfl⟩

/-- The key in the record of a method, if it is given as a value of its own. -/
def keyOf (v : Json) : Option Json :=
  (v.field? names "publicKeyJwk").bind given?

theorem keyOf_of_ofJson? {v : Json} {m : VerificationMethod} (h : ofJson? v = some m) :
    keyOf v = m.publicKeyJwk := by
  obtain ⟨fields, hfields, hreads⟩ := ofJson?_eq_some_iff.mp h
  have hkey : (fields.lookup "publicKeyJwk").bind given? = m.publicKeyJwk.map fun k => k :=
    bind_lookup_of_optional hreads.publicKeyJwk rfl fun w k hne hk => by
      rw [given?_of_ne_null hne]
      exact hk
  rw [keyOf, field?_eq hfields, hkey, Option.map_id']

/-- The key stays as it is when a method is read and written. -/
theorem keyOf_of_rewritten {v w : Json} (h : Rewritten ofJson? toJson v w) :
    keyOf w = keyOf v := by
  obtain ⟨m, hread, rfl⟩ := h
  rw [keyOf_of_ofJson? hread,
    keyOf_of_ofJson? (ofJson?_toJson (publicKeyJwk_ne_null hread))]

end VerificationMethod

/-! ### Services -/

namespace Service

/-- The fields of the record. -/
def names : List String := ["id", "type", "serviceEndpoint", "source"]

/-- Which fields are written. -/
def present (s : Service) : List (String × Bool) :=
  [("id", true), ("type", true), ("serviceEndpoint", true), ("source", s.source.isSome)]

/-- What is written for each field. -/
def table (s : Service) : List (String × Option Json) :=
  [("id", some (.str s.id)), ("type", some (.str s.kind)),
    ("serviceEndpoint", some (.str s.endpoint)), ("source", s.source.map .str)]

theorem tabled : Tabled toJson names table present where
  distinct := by decide
  named _ := rfl
  write_eq _ := by
    simp only [toJson, table, written_some, written_map, written_nil, List.cons_append,
      List.nil_append, List.append_nil]
  present_eq _ := by simp [table, present]

/-- **A service is read back from its record.** -/
theorem ofJson?_toJson (s : Service) : ofJson? s.toJson = some s := by
  have hid : required (written (table s)) "id" string? = some s.id :=
    required_of_lookup (tabled.lookup s "id") rfl
  have hkind : required (written (table s)) "type" string? = some s.kind :=
    required_of_lookup (tabled.lookup s "type") rfl
  have hendpoint : required (written (table s)) "serviceEndpoint" string? = some s.endpoint :=
    required_of_lookup (tabled.lookup s "serviceEndpoint") rfl
  have hsource := optional_string_of_lookup (tabled.lookup s "source")
  have hfields := tabled.fields? s
  unfold names at hfields
  unfold ofJson?
  simp only [hfields, Option.bind_eq_bind, Option.bind_some, hid, hkind, hendpoint, hsource]
  rfl

end Service

/-! ### Documents -/

namespace DidDocument

/-- The fields of the record. -/
def names : List String :=
  ["id", "alsoKnownAs", "verificationMethod", "authentication", "assertionMethod", "service"]

/-- Which fields are written. -/
def present (d : DidDocument) : List (String × Bool) :=
  [("id", true), ("alsoKnownAs", !d.alsoKnownAs.isEmpty),
    ("verificationMethod", !d.verificationMethod.isEmpty),
    ("authentication", !d.authentication.isEmpty),
    ("assertionMethod", !d.assertionMethod.isEmpty), ("service", !d.service.isEmpty)]

/-- What is written for each field. -/
def table (d : DidDocument) : List (String × Option Json) :=
  [("id", some (.str d.id)), ("alsoKnownAs", listed .str d.alsoKnownAs),
    ("verificationMethod", listed VerificationMethod.toJson d.verificationMethod),
    ("authentication", listed .str d.authentication),
    ("assertionMethod", listed .str d.assertionMethod),
    ("service", listed Service.toJson d.service)]

/-- The fields of a record say what is in the document. -/
structure Reads (fields : List (String × Json)) (d : DidDocument) : Prop where
  id : required fields "id" string? = some d.id
  alsoKnownAs : defaulted fields "alsoKnownAs" (list? string?) [] = some d.alsoKnownAs
  verificationMethod : defaulted fields "verificationMethod"
    (list? VerificationMethod.ofJson?) [] = some d.verificationMethod
  authentication : defaulted fields "authentication" (list? string?) [] = some d.authentication
  assertionMethod : defaulted fields "assertionMethod" (list? string?) [] = some d.assertionMethod
  service : defaulted fields "service" (list? Service.ofJson?) [] = some d.service

theorem ofJson?_eq_some_iff {v : Json} {d : DidDocument} :
    ofJson? v = some d ↔ ∃ fields, v.fields? names = some fields ∧ Reads fields d := by
  obtain ⟨id, alsoKnownAs, verificationMethod, authentication, assertionMethod, service⟩ := d
  unfold ofJson?
  simp only [Option.bind_eq_bind, Option.bind_eq_some_iff, Option.pure_def, Option.some.injEq,
    mk.injEq]
  constructor
  · rintro ⟨fields, hfields, _, hid, _, hknown, _, hmethods, _, hauthentication, _, hassertion,
      _, hservice, rfl, rfl, rfl, rfl, rfl, rfl⟩
    exact ⟨fields, hfields, hid, hknown, hmethods, hauthentication, hassertion, hservice⟩
  · rintro ⟨fields, hfields, hid, hknown, hmethods, hauthentication, hassertion, hservice⟩
    exact ⟨fields, hfields, _, hid, _, hknown, _, hmethods, _, hauthentication, _, hassertion,
      _, hservice, rfl, rfl, rfl, rfl, rfl, rfl⟩

theorem tabled : Tabled toJson names table present where
  distinct := by decide
  named _ := rfl
  write_eq _ := by
    simp only [toJson, table, written_some, written_listed, written_nil, List.append_assoc,
      List.cons_append, List.nil_append, List.append_nil]
  present_eq _ := by simp [table, present, isSome_listed]

/-- **A document is read back from its record**, unless a key in it is null. -/
theorem ofJson?_toJson {d : DidDocument}
    (h : ∀ m ∈ d.verificationMethod, m.publicKeyJwk ≠ some .null) : ofJson? d.toJson = some d := by
  rw [ofJson?_eq_some_iff]
  refine ⟨_, tabled.fields? _, ?_, ?_, ?_, ?_, ?_, ?_⟩
  · exact required_of_lookup (tabled.lookup d "id") rfl
  · exact strings_of_lookup (tabled.lookup d "alsoKnownAs")
  · exact defaulted_of_lookup (tabled.lookup d "verificationMethod")
      fun m hm => VerificationMethod.ofJson?_toJson (h m hm)
  · exact strings_of_lookup (tabled.lookup d "authentication")
  · exact strings_of_lookup (tabled.lookup d "assertionMethod")
  · exact defaulted_of_lookup (tabled.lookup d "service") fun s _ => s.ofJson?_toJson

/-- Keys of methods that were read in a list are not null. -/
theorem publicKeyJwk_ne_null_of_defaulted {fields : List (String × Json)} {name : String}
    {l : List VerificationMethod}
    (h : defaulted fields name (list? VerificationMethod.ofJson?) [] = some l) :
    ∀ m ∈ l, m.publicKeyJwk ≠ some .null := by
  intro m hm
  obtain ⟨v, -, hv⟩ := exists_of_mem_of_mapM (mapM_items_of_defaulted h) hm
  exact VerificationMethod.publicKeyJwk_ne_null hv

/-- No key that was read in a document is null. -/
theorem publicKeyJwk_ne_null {v : Json} {d : DidDocument} (h : ofJson? v = some d) :
    ∀ m ∈ d.verificationMethod, m.publicKeyJwk ≠ some .null := by
  obtain ⟨fields, -, hreads⟩ := ofJson?_eq_some_iff.mp h
  exact publicKeyJwk_ne_null_of_defaulted hreads.verificationMethod

/-- The lists of the second record are those of the first, item by item in their order, and the
keys in the methods are the same values.  The fields are those of a document; a resolution has
them among its own. -/
structure SameLists (names : List String) (v w : Json) : Prop where
  alsoKnownAs : items (w.field? names "alsoKnownAs") = items (v.field? names "alsoKnownAs")
  verificationMethod :
    List.Forall₂ (Rewritten VerificationMethod.ofJson? VerificationMethod.toJson)
      (items (v.field? names "verificationMethod")) (items (w.field? names "verificationMethod"))
  keys : (items (w.field? names "verificationMethod")).map VerificationMethod.keyOf =
    (items (v.field? names "verificationMethod")).map VerificationMethod.keyOf
  authentication : items (w.field? names "authentication") = items (v.field? names "authentication")
  assertionMethod :
    items (w.field? names "assertionMethod") = items (v.field? names "assertionMethod")
  service : List.Forall₂ (Rewritten Service.ofJson? Service.toJson)
    (items (v.field? names "service")) (items (w.field? names "service"))

theorem keys_eq {vs ws : List Json}
    (h : List.Forall₂ (Rewritten VerificationMethod.ofJson? VerificationMethod.toJson) vs ws) :
    ws.map VerificationMethod.keyOf = vs.map VerificationMethod.keyOf := by
  induction h with
  | nil => rfl
  | cons hmethod _ ih =>
      rw [List.map_cons, List.map_cons, ih, VerificationMethod.keyOf_of_rewritten hmethod]

/-- The record has the members of what the document has, and so has each record in it. -/
structure Concise (d : DidDocument) (w : Json) : Prop where
  document : w.HasMembers d.present
  verificationMethod : List.Forall₂ (fun m v => v.HasMembers m.present) d.verificationMethod
    (items (w.field? names "verificationMethod"))
  service : List.Forall₂ (fun s v => v.HasMembers s.present) d.service
    (items (w.field? names "service"))

theorem concise_toJson (d : DidDocument) : d.Concise d.toJson where
  document := tabled.hasMembers d
  verificationMethod := by
    rw [tabled.field?]
    exact VerificationMethod.tabled.forall₂_hasMembers _
  service := by
    rw [tabled.field?]
    exact Service.tabled.forall₂_hasMembers _

/-- **What was read as a document is written with the lists that it was read from.** -/
theorem sameLists_toJson {v : Json} {d : DidDocument} (h : ofJson? v = some d) :
    SameLists names v d.toJson := by
  obtain ⟨fields, hfields, hreads⟩ := ofJson?_eq_some_iff.mp h
  have hmethods := records_kept hfields hreads.verificationMethod (tabled.field? d _)
  exact {
    alsoKnownAs := strings_kept hfields hreads.alsoKnownAs (tabled.field? d _)
    verificationMethod := hmethods
    keys := keys_eq hmethods
    authentication := strings_kept hfields hreads.authentication (tabled.field? d _)
    assertionMethod := strings_kept hfields hreads.assertionMethod (tabled.field? d _)
    service := records_kept hfields hreads.service (tabled.field? d _) }

end DidDocument

end AgentId
