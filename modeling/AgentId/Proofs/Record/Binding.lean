/-
Which records bind an identifier.

A record binds an identifier when the two have one canonical text.  What that means for
the fields of the record is not obvious from the text: values are escaped, domain names
are brought to one spelling, parameters without a value are left out, and an identifier
may have parameters that no record can carry.  `Binds` says it field by field, and
`exists_binding_iff` shows the comparison of texts to come to exactly this.  It rests on
the text telling well-formed identifiers apart, so no two of them can be confused
whatever characters their parts hold.
-/
import AgentId.Proofs.Fqdn
import AgentId.Proofs.Uaid.RoundTrip
import AgentId.Record.Binding

namespace AgentId.Binding

open Uaid Fields

/-- The fields of a record that names all that is bound at the home of an agent. -/
structure Complete (home : String) (fields : Dict String) : Prop where
  target : ∃ t : Target, fields.get? "target" = some t.text ∧
    ∀ did, fields.get? "did" = some did → Text.startsWith "did:" did = true ∧ t = .did
  identifier : (fields.get? "id").isSome
  uid : (fields.get? Key.uid).isSome
  proto : (fields.get? Key.proto).isSome
  nativeId : (fields.get? Key.nativeId).bind Fqdn.normalize? = some home
  domain : ∀ domain, fields.get? Key.domain = some domain → (Fqdn.normalize? domain).isSome

/-- Two texts that are both absent, or spell one domain name. -/
def SameDomain (a b : Option String) : Prop :=
  (a = none ∧ b = none) ∨
    ∃ name, a.bind Fqdn.normalize? = some name ∧ b.bind Fqdn.normalize? = some name

/-- The fields of a record agree with an identifier whose agent has the given home. -/
structure Binds (u : Uaid) (home : String) (fields : Dict String) : Prop where
  target : fields.get? "target" = some u.target.text
  identifier : fields.get? "id" = some u.identifier
  uid : (fields.get? Key.uid).isSome
  proto : (fields.get? Key.proto).isSome
  plain : ∀ key ∈ [Key.uid, Key.registry, Key.proto, Key.src, Key.version],
    fields.get? key = u.params.get? key
  nativeId : (fields.get? Key.nativeId).bind Fqdn.normalize? = some home
  domain : SameDomain (fields.get? Key.domain) (u.params.get? Key.domain)
  known : ∀ key, (u.params.get? key).isSome → key ∈ Key.order
  did : ∀ did, fields.get? "did" = some did →
    Text.startsWith "did:" did = true ∧ u.target = .did

/-! ### What a record comes to -/

theorem get?_params_eq_some_iff {fields : Dict String} {home : String} {domain : Option String}
    {key value : String} :
    (params fields home domain).get? key = some value ↔
      (key ∈ plainKeys ∧ fields.get? key = some value) ∨
        (key = Key.domain ∧ domain = some value) ∨ (key = Key.nativeId ∧ value = home) := by
  have hmem : ∀ k v, (k, v) ∈ plainKeys.filterMap (fun key => (fields.get? key).map (key, ·)) ++
        domain.toList.map (Key.domain, ·) ++ [(Key.nativeId, home)] ↔
      (k ∈ plainKeys ∧ fields.get? k = some v) ∨
        (k = Key.domain ∧ domain = some v) ∨ (k = Key.nativeId ∧ v = home) := by
    intro k v
    simp only [List.mem_append, List.mem_filterMap, List.mem_map, Option.map_eq_some_iff,
      Option.mem_toList, List.mem_singleton, Prod.mk.injEq, or_assoc]
    refine or_congr ?_ (or_congr ?_ Iff.rfl)
    · constructor
      · rintro ⟨_, hplain, _, hget, rfl, rfl⟩
        exact ⟨hplain, hget⟩
      · rintro ⟨hplain, hget⟩
        exact ⟨k, hplain, v, hget, rfl, rfl⟩
    · constructor
      · rintro ⟨_, hdomain, rfl, rfl⟩
        exact ⟨rfl, hdomain⟩
      · rintro ⟨rfl, hdomain⟩
        exact ⟨v, hdomain, rfl, rfl⟩
  have hdomain : Key.domain ∉ plainKeys := by decide
  have hnative : Key.nativeId ∉ plainKeys := by decide
  have hother : Key.domain ≠ Key.nativeId := by decide
  unfold params
  rw [Dict.get?_ofList_eq_some_iff, hmem]
  -- No two of the three sources write to one key.
  intro k v v' hv hv'
  rw [hmem] at hv hv'
  rcases hv with ⟨hplain, hget⟩ | ⟨rfl, hd⟩ | ⟨rfl, rfl⟩
  · rcases hv' with ⟨-, hget'⟩ | ⟨rfl, -⟩ | ⟨rfl, -⟩
    · exact Option.some.inj (hget.symm.trans hget')
    · exact absurd hplain hdomain
    · exact absurd hplain hnative
  · rcases hv' with ⟨hplain, -⟩ | ⟨-, hd'⟩ | ⟨heq, -⟩
    · exact absurd hplain hdomain
    · exact Option.some.inj (hd.symm.trans hd')
    · exact absurd heq hother
  · rcases hv' with ⟨hplain, -⟩ | ⟨heq, -⟩ | ⟨-, rfl⟩
    · exact absurd hplain hnative
    · exact absurd heq.symm hother
    · rfl

/-- What the fields of a record come to. -/
structure Spells (home : String) (fields : Dict String) (spelled : Option String) (b : Binding) :
    Prop where
  target : fields.get? "target" = some b.uaid.target.text
  identifier : fields.get? "id" = some b.uaid.identifier
  nativeId : (fields.get? Key.nativeId).bind Fqdn.normalize? = some home
  uid : fields.contains Key.uid = true
  proto : fields.contains Key.proto = true
  did : did? b.uaid.target fields = some b.did
  domain : domain? fields = some spelled
  params : b.uaid.params = params fields home spelled

theorem target?_eq_some_iff {name : Option String} {t : Target} :
    (name.bind fun name => (parseTarget name).toOption) = some t ↔ name = some t.text := by
  rw [Option.bind_eq_some_iff]
  constructor
  · rintro ⟨n, rfl, ht⟩
    cases hparse : parseTarget n with
    | error fault => simp [hparse, Except.toOption] at ht
    | ok t' =>
        rw [hparse] at ht
        obtain rfl : t' = t := Option.some.inj ht
        rw [parseTarget_eq_ok_iff.mp hparse]
  · rintro rfl
    refine ⟨t.text, rfl, ?_⟩
    rw [parseTarget_eq_ok_iff.mpr rfl]
    rfl

/-- **A record is a binding when its fields say all that one has to.** -/
theorem ofText?_eq_some_iff {home record : String} {b : Binding} :
    ofText? home record = some b ↔ ∃ domain, Spells home (Fields.parse record) domain b := by
  constructor
  · intro h
    simp only [ofText?, Option.bind_eq_bind] at h
    obtain ⟨target, htarget, h⟩ := Option.bind_eq_some_iff.mp h
    obtain ⟨identifier, hidentifier, h⟩ := Option.bind_eq_some_iff.mp h
    obtain ⟨recordHome, hhome, h⟩ := Option.bind_eq_some_iff.mp h
    split at h
    · rename_i hfields
      obtain ⟨did, hdid, h⟩ := Option.bind_eq_some_iff.mp h
      obtain ⟨spelled, hdomain, h⟩ := Option.bind_eq_some_iff.mp h
      obtain rfl := Option.some.inj h
      obtain ⟨rfl, huid, hproto⟩ := hfields
      exact ⟨spelled, target?_eq_some_iff.mp htarget, hidentifier, hhome, huid, hproto, hdid,
        hdomain, rfl⟩
    · cases h
  · rintro ⟨spelled, h⟩
    unfold ofText?
    simp only [target?_eq_some_iff.mpr h.target, h.identifier, h.nativeId, h.uid, h.proto, h.did,
      h.domain, Option.bind_eq_bind, Option.bind_some, and_self, if_true]
    rw [← h.params]
    rfl

/-! ### What an identifier wants of a record -/

/-- The identifier that a record has to spell: with the home of its agent for its native
identifier, and its domain in its normal form where it has one. -/
def wanted (u : Uaid) (home : String) : Uaid :=
  let params := u.params.insert Key.nativeId home
  { u with
    params := match (u.param? Key.domain).bind Fqdn.normalize? with
      | some domain => params.insert Key.domain domain
      | none => params }

theorem expected_eq_text (u : Uaid) (home : String) : expected u home = (wanted u home).text := by
  unfold expected wanted
  cases (u.param? Key.domain).bind Fqdn.normalize? <;> rfl

/-- A parameter that is a domain name is not an empty one. -/
theorem normalize?_param? (u : Uaid) (key : String) :
    (u.param? key).bind Fqdn.normalize? = (u.params.get? key).bind Fqdn.normalize? := by
  have hempty : Fqdn.normalize? "" = none := rfl
  unfold param?
  cases u.params.get? key with
  | none => rfl
  | some value =>
      by_cases hne : value = ""
      · simp [Option.filter, hne, hempty]
      · simp [Option.filter, hne]

theorem get?_wanted (u : Uaid) (home key : String) :
    (wanted u home).params.get? key =
      if key = Key.domain then
        (u.params.get? Key.domain).bind Fqdn.normalize? <|> u.params.get? Key.domain
      else if key = Key.nativeId then some home
      else u.params.get? key := by
  unfold wanted
  rw [normalize?_param?]
  by_cases hdomain : key = Key.domain
  · subst hdomain
    have hother : Key.domain ≠ Key.nativeId := by decide
    cases (u.params.get? Key.domain).bind Fqdn.normalize? <;> simp [hother]
  · cases (u.params.get? Key.domain).bind Fqdn.normalize? <;> simp [hdomain]

/-! ### Both are written as texts that tell them apart -/

theorem ne_empty_of_normalize? {value name : String} (h : Fqdn.normalize? value = some name) :
    name ≠ "" := by
  obtain ⟨hname, rfl⟩ := Fqdn.normalize?_eq_some_iff.mp h
  intro hempty
  exact hname.ne_nil (by rw [← String.toList_ofList (l := Fqdn.spelling value), hempty]; rfl)

theorem wellFormed_of_spells {home record : String} {spelled : Option String} {b : Binding}
    (h : Spells home (Fields.parse record) spelled b) :
    b.uaid.WellFormed ∧ substance b.uaid.params = b.uaid.params := by
  obtain ⟨native, -, hnative⟩ := Option.bind_eq_some_iff.mp h.nativeId
  have hparams : ∀ key value, b.uaid.params.get? key = some value →
      key ∈ Key.order ∧ value ≠ "" := by
    intro key value hget
    rw [h.params, get?_params_eq_some_iff] at hget
    rcases hget with ⟨hplain, hfield⟩ | ⟨rfl, rfl⟩ | ⟨rfl, rfl⟩
    · have hsub : plainKeys ⊆ Key.order := by decide
      exact ⟨hsub hplain, (isKey_and_isToken_of_get?_parse hfield).2.ne_empty⟩
    · refine ⟨by decide, ?_⟩
      have hdomain := h.domain
      unfold domain? at hdomain
      split at hdomain
      · cases hdomain
      · obtain ⟨name, hname, heq⟩ := Option.map_eq_some_iff.mp hdomain
        obtain rfl := Option.some.inj heq
        exact ne_empty_of_normalize? hname
    · exact ⟨by decide, ne_empty_of_normalize? hnative⟩
  refine wellFormed_of_params (isKey_and_isToken_of_get?_parse h.identifier).2 ?_
  intro key value hget
  obtain ⟨hkey, hvalue⟩ := hparams key value hget
  exact ⟨isKey_of_mem_order hkey, hvalue⟩

theorem wellFormed_wanted {s home value : String} {u : Uaid} (parsed : Uaid.parse s = .ok u)
    (atHome : Fqdn.normalize? value = some home) :
    (wanted u home).WellFormed ∧ substance (wanted u home).params = (wanted u home).params := by
  obtain ⟨⟨hidentifier, hkeys⟩, hsay⟩ := wellFormed_of_parse parsed
  refine wellFormed_of_params hidentifier fun key value hget => ?_
  rw [get?_wanted] at hget
  split at hget
  · rename_i hdomain
    refine ⟨hdomain ▸ isKey_of_mem_order (by decide), ?_⟩
    cases hnormal : (u.params.get? Key.domain).bind Fqdn.normalize? with
    | none =>
        rw [hnormal] at hget
        exact hsay _ _ hget
    | some name =>
        rw [hnormal] at hget
        obtain rfl := Option.some.inj hget
        obtain ⟨raw, -, hraw⟩ := Option.bind_eq_some_iff.mp hnormal
        exact ne_empty_of_normalize? hraw
  · split at hget
    · rename_i hnative
      obtain rfl := Option.some.inj hget
      exact ⟨hnative ▸ isKey_of_mem_order (by decide), ne_empty_of_normalize? atHome⟩
    · exact ⟨hkeys key value hget (hsay key value hget), hsay key value hget⟩

/-! ### The comparison of texts, field by field -/

theorem get?_params (fields : Dict String) (home key : String) (spelled : Option String) :
    (params fields home spelled).get? key =
      if key = Key.domain then spelled
      else if key = Key.nativeId then some home
      else if key ∈ plainKeys then fields.get? key
      else none := by
  have hdomain : Key.domain ∉ plainKeys := by decide
  have hnative : Key.nativeId ∉ plainKeys := by decide
  have hother : Key.domain ≠ Key.nativeId := by decide
  refine Option.ext fun value => ?_
  rw [get?_params_eq_some_iff]
  by_cases hd : key = Key.domain
  · subst hd
    simp [hdomain, hother]
  · by_cases hn : key = Key.nativeId
    · subst hn
      simp [hnative, hd, eq_comm]
    · by_cases hp : key ∈ plainKeys
      · simp [hd, hn, hp]
      · simp [hd, hn, hp]

theorem domain?_eq_some_iff {fields : Dict String} {spelled : Option String} :
    domain? fields = some spelled ↔
      (fields.get? Key.domain).bind Fqdn.normalize? = spelled ∧
        ∀ domain, fields.get? Key.domain = some domain → (Fqdn.normalize? domain).isSome := by
  unfold domain?
  cases fields.get? Key.domain with
  | none => simp
  | some domain => cases hname : Fqdn.normalize? domain <;> simp [hname]

/-- The domain of a record is the one that is wanted, exactly when it is that of the
identifier.  One that is no domain name stays as it is, and then no record spells it. -/
theorem sameDomain_iff {field param : Option String}
    (valid : ∀ domain, field = some domain → (Fqdn.normalize? domain).isSome) :
    field.bind Fqdn.normalize? = (param.bind Fqdn.normalize? <|> param) ↔
      SameDomain field param := by
  cases field with
  | none =>
      cases param with
      | none => simp [SameDomain]
      | some raw => cases hraw : Fqdn.normalize? raw <;> simp [SameDomain, hraw]
  | some domain =>
      obtain ⟨name, hname⟩ := Option.isSome_iff_exists.mp (valid domain rfl)
      cases param with
      | none => simp [SameDomain, hname]
      | some raw =>
          cases hraw : Fqdn.normalize? raw with
          | some other => simp [SameDomain, hname, hraw, eq_comm]
          | none =>
              have hne : name ≠ raw := by
                rintro rfl
                rw [Fqdn.normalize?_of_normalize? hname] at hraw
                cases hraw
              simp [SameDomain, hname, hraw, hne]

/-- The parameters that a record gives are those that are wanted, exactly when its fields
agree with the identifier key by key. -/
theorem params_eq_wanted_iff {u : Uaid} {fields : Dict String} {home : String}
    (valid : ∀ domain, fields.get? Key.domain = some domain → (Fqdn.normalize? domain).isSome) :
    params fields home ((fields.get? Key.domain).bind Fqdn.normalize?) = (wanted u home).params ↔
      (∀ key ∈ plainKeys, fields.get? key = u.params.get? key) ∧
        SameDomain (fields.get? Key.domain) (u.params.get? Key.domain) ∧
        ∀ key, (u.params.get? key).isSome → key ∈ Key.order := by
  have hdomain : Key.domain ∉ plainKeys := by decide
  have hnative : Key.nativeId ∉ plainKeys := by decide
  have horder : ∀ key, key ∈ Key.order ↔
      key = Key.domain ∨ key = Key.nativeId ∨ key ∈ plainKeys := by
    intro key
    simp only [Key.order, plainKeys, List.mem_cons, List.not_mem_nil, or_false]
    tauto
  rw [← sameDomain_iff valid]
  constructor
  · intro h
    have hget := fun key => congrArg (Dict.get? · key) h
    simp only [get?_params, get?_wanted] at hget
    refine ⟨fun key hkey => ?_, ?_, fun key hsome => ?_⟩
    · have hd : key ≠ Key.domain := fun heq => hdomain (heq ▸ hkey)
      have hn : key ≠ Key.nativeId := fun heq => hnative (heq ▸ hkey)
      simpa [hd, hn, hkey] using hget key
    · simpa using hget Key.domain
    · rw [horder]
      by_contra hunknown
      simp only [not_or] at hunknown
      have hnone := hget key
      rw [if_neg hunknown.1, if_neg hunknown.2.1, if_neg hunknown.2.2, if_neg hunknown.1,
        if_neg hunknown.2.1] at hnone
      rw [← hnone] at hsome
      cases hsome
  · rintro ⟨hplain, hsame, hknown⟩
    refine Dict.ext_get? fun key => ?_
    rw [get?_params, get?_wanted]
    by_cases hd : key = Key.domain
    · rw [if_pos hd, if_pos hd, hsame]
    · rw [if_neg hd, if_neg hd]
      by_cases hn : key = Key.nativeId
      · rw [if_pos hn, if_pos hn]
      · rw [if_neg hn, if_neg hn]
        by_cases hp : key ∈ plainKeys
        · rw [if_pos hp, hplain key hp]
        · rw [if_neg hp, eq_comm, ← Option.not_isSome_iff_eq_none]
          intro hsome
          rcases (horder key).mp (hknown key hsome) with h | h | h
          · exact hd h
          · exact hn h
          · exact hp h

theorem did?_eq_some_iff {t : Target} {fields : Dict String} {did : Option String} :
    did? t fields = some did ↔
      fields.get? "did" = did ∧
        ∀ d, fields.get? "did" = some d → Text.startsWith "did:" d = true ∧ t = .did := by
  unfold did?
  cases fields.get? "did" with
  | none => simp
  | some d =>
      by_cases hvalid : Text.startsWith "did:" d = true ∧ t = .did
      · simp [hvalid]
      · simp [hvalid]

/-- **The records that can bind anything** at a home. -/
theorem isSome_ofText?_iff {home record : String} :
    (ofText? home record).isSome ↔ Complete home (Fields.parse record) := by
  rw [Option.isSome_iff_exists]
  constructor
  · rintro ⟨b, hb⟩
    obtain ⟨spelled, spells⟩ := ofText?_eq_some_iff.mp hb
    exact {
      target := ⟨b.uaid.target, spells.target, (did?_eq_some_iff.mp spells.did).2⟩
      identifier := Option.isSome_iff_exists.mpr ⟨_, spells.identifier⟩
      uid := spells.uid
      proto := spells.proto
      nativeId := spells.nativeId
      domain := (domain?_eq_some_iff.mp spells.domain).2 }
  · intro complete
    obtain ⟨t, htarget, hdid⟩ := complete.target
    obtain ⟨identifier, hidentifier⟩ := Option.isSome_iff_exists.mp complete.identifier
    let fields := Fields.parse record
    let spelled := (fields.get? Key.domain).bind Fqdn.normalize?
    refine ⟨⟨⟨t, identifier, params fields home spelled⟩, fields.get? "did"⟩,
      ofText?_eq_some_iff.mpr ⟨spelled, ?_⟩⟩
    exact {
      target := htarget
      identifier := hidentifier
      nativeId := complete.nativeId
      uid := complete.uid
      proto := complete.proto
      did := did?_eq_some_iff.mpr ⟨rfl, hdid⟩
      domain := domain?_eq_some_iff.mpr ⟨rfl, complete.domain⟩
      params := rfl }

theorem Binds.complete {u : Uaid} {home : String} {fields : Dict String}
    (h : Binds u home fields) : Complete home fields where
  target := ⟨u.target, h.target, h.did⟩
  identifier := Option.isSome_iff_exists.mpr ⟨_, h.identifier⟩
  uid := h.uid
  proto := h.proto
  nativeId := h.nativeId
  domain := by
    intro domain hget
    rcases h.domain with ⟨hnone, -⟩ | ⟨name, hname, -⟩
    · rw [hnone] at hget
      cases hget
    · rw [hget] at hname
      exact Option.isSome_iff_exists.mpr ⟨name, hname⟩

/-- **A record has the text that is wanted exactly when its fields bind the identifier.** -/
theorem exists_binding_iff {s home record : String} {u : Uaid} (parsed : Uaid.parse s = .ok u) :
    (∃ b, ofText? home record = some b ∧ b.text = expected u home) ↔
      Binds u home (Fields.parse record) := by
  constructor
  · rintro ⟨b, hb, htext⟩
    obtain ⟨spelled, spells⟩ := ofText?_eq_some_iff.mp hb
    obtain ⟨native, -, hnative⟩ := Option.bind_eq_some_iff.mp spells.nativeId
    obtain ⟨hspells, hspells'⟩ := wellFormed_of_spells spells
    obtain ⟨hwanted, hwanted'⟩ := wellFormed_wanted parsed hnative
    rw [expected_eq_text] at htext
    have huaid : b.uaid = wanted u home := text_injective hspells hwanted hspells' hwanted' htext
    obtain ⟨hspelled, hvalid⟩ := domain?_eq_some_iff.mp spells.domain
    have hparams : params (Fields.parse record) home
        (((Fields.parse record).get? Key.domain).bind Fqdn.normalize?) =
        (wanted u home).params := by
      rw [hspelled, ← spells.params, huaid]
    obtain ⟨hplain, hsame, hknown⟩ := (params_eq_wanted_iff hvalid).mp hparams
    exact {
      target := by rw [spells.target, huaid]; rfl
      identifier := by rw [spells.identifier, huaid]; rfl
      uid := spells.uid
      proto := spells.proto
      plain := hplain
      nativeId := spells.nativeId
      domain := hsame
      known := hknown
      did := by
        have htarget : b.uaid.target = u.target := by rw [huaid]; rfl
        exact htarget ▸ (did?_eq_some_iff.mp spells.did).2 }
  · intro h
    let fields := Fields.parse record
    let spelled := (fields.get? Key.domain).bind Fqdn.normalize?
    refine ⟨⟨wanted u home, fields.get? "did"⟩, ofText?_eq_some_iff.mpr ⟨spelled, ?_⟩,
      (expected_eq_text u home).symm⟩
    exact {
      target := h.target
      identifier := h.identifier
      nativeId := h.nativeId
      uid := h.uid
      proto := h.proto
      did := did?_eq_some_iff.mpr ⟨rfl, h.did⟩
      domain := domain?_eq_some_iff.mpr ⟨rfl, h.complete.domain⟩
      params := ((params_eq_wanted_iff h.complete.domain).mpr ⟨h.plain, h.domain, h.known⟩).symm }

end AgentId.Binding
