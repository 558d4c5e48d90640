/-
Which records name an endpoint.

A record names an endpoint if its version starts with `aid`, if it says which protocol the
agent speaks and where, and if one of the schemes allows the place; a key and its name may come
with it.  `Names` says this field by field.

Several records of a host may name endpoints.  Which of them comes first is settled by their
texts, and `Precedes` writes these out.
-/
import AgentId.Proofs.Text.Cutting
import AgentId.Proofs.Url.Scheme

namespace AgentId.AgentRecord

/-- The fields of a text name the endpoint of a record. -/
structure Names (schemes : SchemesConfig) (text : String) (r : AgentRecord) : Prop where
  version : (Fields.parse text).get? "v" = some r.version
  tagged : "aid".toList <+: r.version.toList
  protocol : ((Fields.parse text).get? "p" <|> (Fields.parse text).get? "proto") = some r.protocol
  endpoint : (Fields.parse text).get? "u" = some r.endpoint
  supported : schemes.Supports r.endpoint
  publicKey : (Fields.parse text).get? "k" = r.publicKey
  keyId : (Fields.parse text).get? "i" = r.keyId

/-- One of the texts names the endpoint of a record. -/
def Listed (schemes : SchemesConfig) (texts : List String) (r : AgentRecord) : Prop :=
  ∃ text ∈ texts, Names schemes text r

/-- A record comes before another one: its protocol, its endpoint, its key and the name of the
key, with bars between them, are the smaller text. -/
def Precedes (a b : AgentRecord) : Prop :=
  a.protocol ++ "|" ++ a.endpoint ++ "|" ++ a.publicKey.getD "" ++ "|" ++ a.keyId.getD "" <
    b.protocol ++ "|" ++ b.endpoint ++ "|" ++ b.publicKey.getD "" ++ "|" ++ b.keyId.getD ""

theorem precedes_iff {a b : AgentRecord} : a.Precedes b ↔ a.orderKey < b.orderKey := Iff.rfl

/-- **What is read from a text is what its fields name.** -/
theorem ofText?_eq_some_iff {schemes : SchemesConfig} {text : String} {r : AgentRecord} :
    ofText? schemes text = some r ↔ Names schemes text r := by
  simp only [ofText?, Option.bind_eq_bind, Option.bind_eq_some_iff]
  constructor
  · rintro ⟨version, hversion, protocol, hprotocol, endpoint, hendpoint, h⟩
    obtain ⟨hgiven, htagged⟩ := Option.filter_eq_some_iff.mp hversion
    split at h
    · rename_i hallowed
      obtain rfl := Option.some.inj h
      exact ⟨hgiven, Text.startsWith_iff.mp htagged, hprotocol, hendpoint,
        SchemesConfig.allows_iff.mp hallowed, rfl, rfl⟩
    · cases h
  · intro h
    refine ⟨r.version, ?_, r.protocol, h.protocol, r.endpoint, h.endpoint, ?_⟩
    · exact Option.filter_eq_some_iff.mpr ⟨h.version, Text.startsWith_iff.mpr h.tagged⟩
    · rw [if_pos (SchemesConfig.allows_iff.mpr h.supported), h.publicKey, h.keyId]
      rfl

theorem mem_filterMap_ofText?_iff {schemes : SchemesConfig} {texts : List String}
    {r : AgentRecord} : r ∈ texts.filterMap (ofText? schemes) ↔ Listed schemes texts r := by
  simp only [List.mem_filterMap, ofText?_eq_some_iff, Listed]

theorem filterMap_ofText?_eq_nil_iff {schemes : SchemesConfig} {texts : List String} :
    texts.filterMap (ofText? schemes) = [] ↔ ∀ r, ¬ Listed schemes texts r := by
  simp only [List.eq_nil_iff_forall_not_mem, mem_filterMap_ofText?_iff]

end AgentId.AgentRecord
