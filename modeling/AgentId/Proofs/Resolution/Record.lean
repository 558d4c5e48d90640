/-
Resolutions and their records.

What was read as a resolution is written as a record that is read as the same resolution, whatever
the record was that it was read from: an object with members of other names or in another order,
an array, a code as the only member of an object.  What is written leaves out exactly what the
resolution does not have, and has the lists of what was read item by item in their order.

The fields of each of the six kinds of records are in a table (`Json.Tabled`), so a record is read
back because each of its fields is, and a record in a record because it is read back.  A key that
is null is the one value that is not, and none is ever read.
-/
import AgentId.Resolution.Result
import AgentId.Proofs.Did.Document

namespace AgentId

open Json

/-! ### Words -/

theorem VerificationLevel.ofJson?_text (l : VerificationLevel) :
    VerificationLevel.ofJson? (.str l.text) = some l := by
  cases l <;> decide

theorem ResolutionMode.ofJson?_text (m : ResolutionMode) :
    ResolutionMode.ofJson? (.str m.text) = some m := by
  cases m <;> decide

theorem FailureCode.ofJson?_text (c : FailureCode) :
    FailureCode.ofJson? (.str c.text) = some c := by
  cases c <;> decide

/-! ### Failures -/

namespace Failure

/-- The fields of the record. -/
def names : List String := ["code", "message", "details"]

/-- Which fields are written. -/
def present (f : Failure) : List (String × Bool) :=
  [("code", true), ("message", true), ("details", !f.details.isEmpty)]

/-- What is written for each field. -/
def table (f : Failure) : List (String × Option Json) :=
  [("code", some (.str f.code.text)), ("message", some (.str f.message)),
    ("details", mapped (fun v => v) f.details)]

/-- The fields of a record say what is in the failure. -/
structure Reads (fields : List (String × Json)) (f : Failure) : Prop where
  code : required fields "code" FailureCode.ofJson? = some f.code
  message : required fields "message" string? = some f.message
  details : defaulted fields "details" (dict? some) {} = some f.details

theorem ofJson?_eq_some_iff {v : Json} {f : Failure} :
    ofJson? v = some f ↔ ∃ fields, v.fields? names = some fields ∧ Reads fields f := by
  obtain ⟨code, message, details⟩ := f
  unfold ofJson?
  simp only [Option.bind_eq_bind, Option.bind_eq_some_iff, Option.pure_def, Option.some.injEq,
    mk.injEq]
  constructor
  · rintro ⟨fields, hfields, _, hcode, _, hmessage, _, hdetails, rfl, rfl, rfl⟩
    exact ⟨fields, hfields, hcode, hmessage, hdetails⟩
  · rintro ⟨fields, hfields, hcode, hmessage, hdetails⟩
    exact ⟨fields, hfields, _, hcode, _, hmessage, _, hdetails, rfl, rfl, rfl⟩

theorem tabled : Tabled toJson names table present where
  distinct := by decide
  named _ := rfl
  write_eq f := by
    unfold toJson table mapped
    cases f.details.isEmpty <;> rfl
  present_eq f := by simp [table, present, isSome_mapped]

/-- **A failure is read back from its record.** -/
theorem ofJson?_toJson (f : Failure) : ofJson? f.toJson = some f := by
  rw [ofJson?_eq_some_iff]
  refine ⟨_, tabled.fields? _, ?_, ?_, ?_⟩
  · exact required_of_lookup (tabled.lookup f "code") f.code.ofJson?_text
  · exact required_of_lookup (tabled.lookup f "message") rfl
  · exact dict_of_lookup (tabled.lookup f "details") fun _ => rfl

end Failure

/-! ### Provenances -/

namespace Provenance

/-- The fields of the record. -/
def names : List String :=
  ["profile", "resolved", "verificationLevel", "verificationMethod", "precedenceSource",
    "resolutionMode", "selectedFollowupProfile", "reconstructedUaid", "baseDid",
    "baseDidResolved", "protocol", "endpoint", "agentCardUrl"]

/-- Which fields are written. -/
def present (p : Provenance) : List (String × Bool) :=
  [("profile", p.profile.isSome), ("resolved", true),
    ("verificationLevel", p.verificationLevel.isSome),
    ("verificationMethod", p.verificationMethod.isSome),
    ("precedenceSource", p.precedenceSource.isSome),
    ("resolutionMode", p.resolutionMode.isSome),
    ("selectedFollowupProfile", p.selectedFollowupProfile.isSome),
    ("reconstructedUaid", p.reconstructedUaid.isSome), ("baseDid", p.baseDid.isSome),
    ("baseDidResolved", p.baseDidResolved.isSome), ("protocol", p.protocol.isSome),
    ("endpoint", p.endpoint.isSome), ("agentCardUrl", p.agentCardUrl.isSome)]

/-- What is written for each field. -/
def table (p : Provenance) : List (String × Option Json) :=
  [("profile", p.profile.map .str), ("resolved", some (.bool p.resolved)),
    ("verificationLevel", p.verificationLevel.map (.str ·.text)),
    ("verificationMethod", p.verificationMethod.map .str),
    ("precedenceSource", p.precedenceSource.map .str),
    ("resolutionMode", p.resolutionMode.map (.str ·.text)),
    ("selectedFollowupProfile", p.selectedFollowupProfile.map .str),
    ("reconstructedUaid", p.reconstructedUaid.map .str), ("baseDid", p.baseDid.map .str),
    ("baseDidResolved", p.baseDidResolved.map .bool), ("protocol", p.protocol.map .str),
    ("endpoint", p.endpoint.map .str), ("agentCardUrl", p.agentCardUrl.map .str)]

/-- The fields of a record say what is in the provenance. -/
structure Reads (fields : List (String × Json)) (p : Provenance) : Prop where
  profile : optional fields "profile" string? = some p.profile
  resolved : required fields "resolved" bool? = some p.resolved
  verificationLevel :
    optional fields "verificationLevel" VerificationLevel.ofJson? = some p.verificationLevel
  verificationMethod : optional fields "verificationMethod" string? = some p.verificationMethod
  precedenceSource : optional fields "precedenceSource" string? = some p.precedenceSource
  resolutionMode : optional fields "resolutionMode" ResolutionMode.ofJson? = some p.resolutionMode
  selectedFollowupProfile :
    optional fields "selectedFollowupProfile" string? = some p.selectedFollowupProfile
  reconstructedUaid : optional fields "reconstructedUaid" string? = some p.reconstructedUaid
  baseDid : optional fields "baseDid" string? = some p.baseDid
  baseDidResolved : optional fields "baseDidResolved" bool? = some p.baseDidResolved
  protocol : optional fields "protocol" string? = some p.protocol
  endpoint : optional fields "endpoint" string? = some p.endpoint
  agentCardUrl : optional fields "agentCardUrl" string? = some p.agentCardUrl

theorem ofJson?_eq_some_iff {v : Json} {p : Provenance} :
    ofJson? v = some p ↔ ∃ fields, v.fields? names = some fields ∧ Reads fields p := by
  unfold ofJson? names
  -- One step for each field: rewriting all the binds at once takes `simp` too long.
  constructor
  · intro h
    obtain ⟨fields, hfields, h⟩ := Option.bind_eq_some_iff.mp h
    obtain ⟨_, hprofile, h⟩ := Option.bind_eq_some_iff.mp h
    obtain ⟨_, hresolved, h⟩ := Option.bind_eq_some_iff.mp h
    obtain ⟨_, hlevel, h⟩ := Option.bind_eq_some_iff.mp h
    obtain ⟨_, hmethod, h⟩ := Option.bind_eq_some_iff.mp h
    obtain ⟨_, hsource, h⟩ := Option.bind_eq_some_iff.mp h
    obtain ⟨_, hmode, h⟩ := Option.bind_eq_some_iff.mp h
    obtain ⟨_, hselected, h⟩ := Option.bind_eq_some_iff.mp h
    obtain ⟨_, hreconstructed, h⟩ := Option.bind_eq_some_iff.mp h
    obtain ⟨_, hbase, h⟩ := Option.bind_eq_some_iff.mp h
    obtain ⟨_, hbaseResolved, h⟩ := Option.bind_eq_some_iff.mp h
    obtain ⟨_, hprotocol, h⟩ := Option.bind_eq_some_iff.mp h
    obtain ⟨_, hendpoint, h⟩ := Option.bind_eq_some_iff.mp h
    obtain ⟨_, hcard, h⟩ := Option.bind_eq_some_iff.mp h
    obtain rfl := Option.some.inj h
    exact ⟨fields, hfields, hprofile, hresolved, hlevel, hmethod, hsource, hmode, hselected,
      hreconstructed, hbase, hbaseResolved, hprotocol, hendpoint, hcard⟩
  · rintro ⟨fields, hfields, h⟩
    refine Option.bind_eq_some_iff.mpr ⟨fields, hfields, ?_⟩
    refine Option.bind_eq_some_iff.mpr ⟨_, h.profile, ?_⟩
    refine Option.bind_eq_some_iff.mpr ⟨_, h.resolved, ?_⟩
    refine Option.bind_eq_some_iff.mpr ⟨_, h.verificationLevel, ?_⟩
    refine Option.bind_eq_some_iff.mpr ⟨_, h.verificationMethod, ?_⟩
    refine Option.bind_eq_some_iff.mpr ⟨_, h.precedenceSource, ?_⟩
    refine Option.bind_eq_some_iff.mpr ⟨_, h.resolutionMode, ?_⟩
    refine Option.bind_eq_some_iff.mpr ⟨_, h.selectedFollowupProfile, ?_⟩
    refine Option.bind_eq_some_iff.mpr ⟨_, h.reconstructedUaid, ?_⟩
    refine Option.bind_eq_some_iff.mpr ⟨_, h.baseDid, ?_⟩
    refine Option.bind_eq_some_iff.mpr ⟨_, h.baseDidResolved, ?_⟩
    refine Option.bind_eq_some_iff.mpr ⟨_, h.protocol, ?_⟩
    refine Option.bind_eq_some_iff.mpr ⟨_, h.endpoint, ?_⟩
    refine Option.bind_eq_some_iff.mpr ⟨_, h.agentCardUrl, ?_⟩
    rfl

theorem tabled : Tabled toJson names table present where
  distinct := by decide
  named _ := rfl
  write_eq _ := by
    simp only [toJson, table, written_some, written_map, written_nil, List.append_assoc,
      List.cons_append, List.nil_append, List.append_nil]
  present_eq _ := by simp [table, present]

/-- **A provenance is read back from its record.** -/
theorem ofJson?_toJson (p : Provenance) : ofJson? p.toJson = some p := by
  rw [ofJson?_eq_some_iff]
  refine ⟨_, tabled.fields? _, ?_, ?_, ?_, ?_, ?_, ?_, ?_, ?_, ?_, ?_, ?_, ?_, ?_⟩
  · exact optional_string_of_lookup (tabled.lookup p "profile")
  · exact required_of_lookup (tabled.lookup p "resolved") rfl
  · exact optional_of_lookup (tabled.lookup p "verificationLevel")
      fun l _ => ⟨nofun, l.ofJson?_text⟩
  · exact optional_string_of_lookup (tabled.lookup p "verificationMethod")
  · exact optional_string_of_lookup (tabled.lookup p "precedenceSource")
  · exact optional_of_lookup (tabled.lookup p "resolutionMode")
      fun m _ => ⟨nofun, m.ofJson?_text⟩
  · exact optional_string_of_lookup (tabled.lookup p "selectedFollowupProfile")
  · exact optional_string_of_lookup (tabled.lookup p "reconstructedUaid")
  · exact optional_string_of_lookup (tabled.lookup p "baseDid")
  · exact optional_of_lookup (tabled.lookup p "baseDidResolved") fun _ _ => ⟨nofun, rfl⟩
  · exact optional_string_of_lookup (tabled.lookup p "protocol")
  · exact optional_string_of_lookup (tabled.lookup p "endpoint")
  · exact optional_string_of_lookup (tabled.lookup p "agentCardUrl")

end Provenance

/-! ### Resolutions -/

namespace Resolution

/-- The fields of the record. -/
def names : List String :=
  ["id", "did", "alsoKnownAs", "verificationMethod", "authentication", "assertionMethod",
    "service", "metadata", "error"]

/-- Which fields are written. -/
def present (r : Resolution) : List (String × Bool) :=
  [("id", true), ("did", r.did.isSome), ("alsoKnownAs", !r.alsoKnownAs.isEmpty),
    ("verificationMethod", !r.verificationMethod.isEmpty),
    ("authentication", !r.authentication.isEmpty),
    ("assertionMethod", !r.assertionMethod.isEmpty), ("service", !r.service.isEmpty),
    ("metadata", true), ("error", r.failure.isSome)]

/-- What is written for each field. -/
def table (r : Resolution) : List (String × Option Json) :=
  [("id", some (.str r.id)), ("did", r.did.map .str),
    ("alsoKnownAs", listed .str r.alsoKnownAs),
    ("verificationMethod", listed VerificationMethod.toJson r.verificationMethod),
    ("authentication", listed .str r.authentication),
    ("assertionMethod", listed .str r.assertionMethod),
    ("service", listed Service.toJson r.service), ("metadata", some r.metadata.toJson),
    ("error", r.failure.map Failure.toJson)]

/-- The fields of a record say what is in the resolution. -/
structure Reads (fields : List (String × Json)) (r : Resolution) : Prop where
  id : required fields "id" string? = some r.id
  did : optional fields "did" string? = some r.did
  alsoKnownAs : defaulted fields "alsoKnownAs" (list? string?) [] = some r.alsoKnownAs
  verificationMethod : defaulted fields "verificationMethod"
    (list? VerificationMethod.ofJson?) [] = some r.verificationMethod
  authentication : defaulted fields "authentication" (list? string?) [] = some r.authentication
  assertionMethod : defaulted fields "assertionMethod" (list? string?) [] = some r.assertionMethod
  service : defaulted fields "service" (list? Service.ofJson?) [] = some r.service
  metadata : required fields "metadata" Provenance.ofJson? = some r.metadata
  failure : optional fields "error" Failure.ofJson? = some r.failure

theorem ofJson?_eq_some_iff {v : Json} {r : Resolution} :
    ofJson? v = some r ↔ ∃ fields, v.fields? names = some fields ∧ Reads fields r := by
  obtain ⟨id, did, alsoKnownAs, verificationMethod, authentication, assertionMethod, service,
    metadata, failure⟩ := r
  unfold ofJson?
  simp only [Option.bind_eq_bind, Option.bind_eq_some_iff, Option.pure_def, Option.some.injEq,
    mk.injEq]
  constructor
  · rintro ⟨fields, hfields, _, hid, _, hdid, _, hknown, _, hmethods, _, hauthentication,
      _, hassertion, _, hservice, _, hmetadata, _, hfailure,
      rfl, rfl, rfl, rfl, rfl, rfl, rfl, rfl, rfl⟩
    exact ⟨fields, hfields, hid, hdid, hknown, hmethods, hauthentication, hassertion, hservice,
      hmetadata, hfailure⟩
  · rintro ⟨fields, hfields, hid, hdid, hknown, hmethods, hauthentication, hassertion, hservice,
      hmetadata, hfailure⟩
    exact ⟨fields, hfields, _, hid, _, hdid, _, hknown, _, hmethods, _, hauthentication,
      _, hassertion, _, hservice, _, hmetadata, _, hfailure,
      rfl, rfl, rfl, rfl, rfl, rfl, rfl, rfl, rfl⟩

theorem tabled : Tabled toJson names table present where
  distinct := by decide
  named _ := rfl
  write_eq _ := by
    simp only [toJson, table, written_some, written_map, written_listed, written_nil,
      List.append_assoc, List.cons_append, List.nil_append, List.append_nil]
  present_eq _ := by simp [table, present, isSome_listed]

/-- **A resolution is read back from its record**, unless a key in it is null. -/
theorem ofJson?_toJson {r : Resolution}
    (h : ∀ m ∈ r.verificationMethod, m.publicKeyJwk ≠ some .null) : ofJson? r.toJson = some r := by
  rw [ofJson?_eq_some_iff]
  refine ⟨_, tabled.fields? _, ?_, ?_, ?_, ?_, ?_, ?_, ?_, ?_, ?_⟩
  · exact required_of_lookup (tabled.lookup r "id") rfl
  · exact optional_string_of_lookup (tabled.lookup r "did")
  · exact strings_of_lookup (tabled.lookup r "alsoKnownAs")
  · exact defaulted_of_lookup (tabled.lookup r "verificationMethod")
      fun m hm => VerificationMethod.ofJson?_toJson (h m hm)
  · exact strings_of_lookup (tabled.lookup r "authentication")
  · exact strings_of_lookup (tabled.lookup r "assertionMethod")
  · exact defaulted_of_lookup (tabled.lookup r "service") fun s _ => s.ofJson?_toJson
  · exact required_of_lookup (tabled.lookup r "metadata") r.metadata.ofJson?_toJson
  · exact optional_of_lookup (tabled.lookup r "error") fun f _ => ⟨nofun, f.ofJson?_toJson⟩

/-- The record has the members of what the resolution has, and so has each record in it. -/
structure Concise (r : Resolution) (w : Json) : Prop where
  resolution : w.HasMembers r.present
  verificationMethod : List.Forall₂ (fun m v => v.HasMembers m.present) r.verificationMethod
    (items (w.field? names "verificationMethod"))
  service : List.Forall₂ (fun s v => v.HasMembers s.present) r.service
    (items (w.field? names "service"))
  metadata : ∃ v, w.field? names "metadata" = some v ∧ v.HasMembers r.metadata.present
  failure : ∀ f, r.failure = some f →
    ∃ v, w.field? names "error" = some v ∧ v.HasMembers f.present

theorem concise_toJson (r : Resolution) : r.Concise r.toJson where
  resolution := tabled.hasMembers r
  verificationMethod := by
    rw [tabled.field?]
    exact VerificationMethod.tabled.forall₂_hasMembers _
  service := by
    rw [tabled.field?]
    exact Service.tabled.forall₂_hasMembers _
  metadata := ⟨_, tabled.field? r "metadata", Provenance.tabled.hasMembers _⟩
  failure f hf := by
    have herror : r.toJson.field? names "error" = r.failure.map Failure.toJson :=
      tabled.field? r "error"
    rw [hf] at herror
    exact ⟨_, herror, Failure.tabled.hasMembers _⟩

/-- **What was read as a resolution is written with the lists that it was read from.** -/
theorem sameLists_toJson {v : Json} {r : Resolution} (h : ofJson? v = some r) :
    DidDocument.SameLists names v r.toJson := by
  obtain ⟨fields, hfields, hreads⟩ := ofJson?_eq_some_iff.mp h
  have hmethods := records_kept hfields hreads.verificationMethod (tabled.field? r _)
  exact {
    alsoKnownAs := strings_kept hfields hreads.alsoKnownAs (tabled.field? r _)
    verificationMethod := hmethods
    keys := DidDocument.keys_eq hmethods
    authentication := strings_kept hfields hreads.authentication (tabled.field? r _)
    assertionMethod := strings_kept hfields hreads.assertionMethod (tabled.field? r _)
    service := records_kept hfields hreads.service (tabled.field? r _) }

/-! ### What a record says of how the resolution ended -/

/-- Whether the agent was found, as the record has it. -/
def resolvedOf (v : Json) : Option Json :=
  (v.field? names "metadata").bind (·.field? Provenance.names "resolved")

/-- The name of the verification level in the record. -/
def levelOf (v : Json) : Option String :=
  (v.field? names "metadata").bind fun m =>
    (m.field? Provenance.names "verificationLevel").bind tag?

/-- The name of the code in the record. -/
def codeOf (v : Json) : Option String :=
  (v.field? names "error").bind fun f => (f.field? Failure.names "code").bind tag?

/-- The details of the failure in the record. -/
def detailsOf (v : Json) : Option (Dict Json) :=
  (v.field? names "error").bind fun f =>
    f.given?.map fun f => ((f.field? Failure.names "details").bind (dict? some)).getD {}

/-- The record says of the end of the resolution what the resolution says. -/
structure Reports (v : Json) (r : Resolution) : Prop where
  resolved : resolvedOf v = some (.bool r.metadata.resolved)
  level : levelOf v = r.metadata.verificationLevel.map (·.text)
  code : codeOf v = r.code?.map (·.text)
  details : detailsOf v = r.failure.map (·.details)

theorem reports_of_ofJson? {v : Json} {r : Resolution} (h : ofJson? v = some r) :
    Reports v r := by
  obtain ⟨fields, hfields, hreads⟩ := ofJson?_eq_some_iff.mp h
  obtain ⟨m, hm, hmetadata⟩ := Option.bind_eq_some_iff.mp hreads.metadata
  obtain ⟨ofMetadata, hof, hprovenance⟩ := Provenance.ofJson?_eq_some_iff.mp hmetadata
  refine ⟨?_, ?_, ?_, ?_⟩
  · rw [resolvedOf, field?_eq hfields, hm, Option.bind_some, field?_eq hof]
    exact (required_eq_some_iff fun _ => bool?_eq_some_iff).mp hprovenance.resolved
  · rw [levelOf, field?_eq hfields, hm, Option.bind_some, field?_eq hof]
    exact bind_lookup_of_optional hprovenance.verificationLevel rfl
      fun _ _ _ hread => tag?_of_find? hread
  · rw [codeOf, field?_eq hfields, code?, Option.map_map]
    refine bind_lookup_of_optional hreads.failure rfl fun e f _ hread => ?_
    obtain ⟨ofFailure, hof, hfailure⟩ := Failure.ofJson?_eq_some_iff.mp hread
    obtain ⟨c, hc, hcode⟩ := Option.bind_eq_some_iff.mp hfailure.code
    have htag : c.tag? = some f.code.text := tag?_of_find? hcode
    rw [field?_eq hof, hc]
    exact htag
  · rw [detailsOf, field?_eq hfields]
    refine bind_lookup_of_optional hreads.failure rfl fun e f hne hread => ?_
    obtain ⟨ofFailure, hof, hfailure⟩ := Failure.ofJson?_eq_some_iff.mp hread
    rw [given?_of_ne_null hne, Option.map_some, field?_eq hof,
      getD_of_defaulted hfailure.details]

/-! ### Reading and writing -/

/-- No key that was read in a resolution is null. -/
theorem publicKeyJwk_ne_null {v : Json} {r : Resolution} (h : ofJson? v = some r) :
    ∀ m ∈ r.verificationMethod, m.publicKeyJwk ≠ some .null := by
  obtain ⟨fields, -, hreads⟩ := ofJson?_eq_some_iff.mp h
  exact DidDocument.publicKeyJwk_ne_null_of_defaulted hreads.verificationMethod

/-- **Whatever was read as a resolution, or as a document, is written as a record that is read as
the same and is then written the same.**  The record has no members but those of what there is,
in it and in every record inside; it says of the end of the resolution what the first one says;
and it has the same lists, item by item. -/
theorem record_round_trips (v : Json) :
    (∀ r, ofJson? v = some r →
      ofJson? r.toJson = some r ∧
      (ofJson? r.toJson).map toJson = some r.toJson ∧
      r.Concise r.toJson ∧
      (Reports v r ∧ Reports r.toJson r) ∧
      DidDocument.SameLists names v r.toJson) ∧
    (∀ d, DidDocument.ofJson? v = some d →
      DidDocument.ofJson? d.toJson = some d ∧
      (DidDocument.ofJson? d.toJson).map DidDocument.toJson = some d.toJson ∧
      d.Concise d.toJson ∧
      DidDocument.SameLists DidDocument.names v d.toJson) := by
  refine ⟨fun r hr => ?_, fun d hd => ?_⟩
  · have hagain : ofJson? r.toJson = some r := ofJson?_toJson (publicKeyJwk_ne_null hr)
    refine ⟨hagain, ?_, r.concise_toJson, ⟨reports_of_ofJson? hr, reports_of_ofJson? hagain⟩,
      sameLists_toJson hr⟩
    rw [hagain, Option.map_some]
  · have hagain : DidDocument.ofJson? d.toJson = some d :=
      DidDocument.ofJson?_toJson (DidDocument.publicKeyJwk_ne_null hd)
    refine ⟨hagain, ?_, d.concise_toJson, DidDocument.sameLists_toJson hd⟩
    rw [hagain, Option.map_some]

/-- A record with members of no meaning, nulls, empty lists, and records written as arrays. -/
def mixed : Json :=
  .obj [("context", .str "none"), ("id", .str "uaid:aid:a"), ("did", .null),
    ("alsoKnownAs", .strings ["b", "a"]), ("service", .arr []),
    ("verificationMethod", .arr [
      .arr [.str "#k", .str "JsonWebKey2020", .str "did:web:a", .null, .obj [("n", .nat 1)]],
      .obj [("controller", .str "did:web:a"), ("type", .str "Multikey"), ("id", .str "#j"),
        ("publicKeyJwk", .null)]]),
    ("metadata", .arr [.null, .bool false, .obj [("metadata", .null)]]),
    ("error", .obj [("message", .str ""), ("code", .obj [("ERR_NO_ENDPOINT", .null)]),
      ("details", .obj [])])]

/-- What the record says. -/
def ofMixed : Resolution where
  id := "uaid:aid:a"
  alsoKnownAs := ["b", "a"]
  verificationMethod := [
    { id := "#k", kind := "JsonWebKey2020", controller := "did:web:a"
      publicKeyJwk := some (.obj [("n", .nat 1)]) },
    { id := "#j", kind := "Multikey", controller := "did:web:a" }]
  metadata := { verificationLevel := some .metadata }
  failure := some { code := .noEndpoint, message := "" }

theorem record_round_trips_mixed :
    (ofJson? mixed = some ofMixed ∧ ofJson? ofMixed.toJson = some ofMixed ∧
      Reports mixed ofMixed ∧ Reports ofMixed.toJson ofMixed) ∧
    (DidDocument.ofJson? (.arr [.str "did:web:a", .strings ["b", "a"]]) =
        some { id := "did:web:a", alsoKnownAs := ["b", "a"] } ∧
      DidDocument.ofJson? (.obj [("id", .str "did:web:a"), ("alsoKnownAs", .strings ["b", "a"])]) =
        some { id := "did:web:a", alsoKnownAs := ["b", "a"] }) := by
  have hmixed : ofJson? mixed = some ofMixed := rfl
  have harray : DidDocument.ofJson? (.arr [.str "did:web:a", .strings ["b", "a"]]) =
      some { id := "did:web:a", alsoKnownAs := ["b", "a"] } := rfl
  obtain ⟨hagain, -, -, hreports, -⟩ := (record_round_trips mixed).1 ofMixed hmixed
  exact ⟨⟨hmixed, hagain, hreports⟩, harray, ((record_round_trips _).2 _ harray).1⟩

end Resolution

end AgentId
