/-
The record that leads to the card.

A host may list any number of records, and not all are of use: those that name a place for a
card, and of these, when the identifier asks for a version, those for that very version
(`CardRecord.Lists`).  `select_eq` says what the choice among them comes to, with the reasons
for a refusal in the order in which they are looked for, and whatever is to be known of the
choice is read off it.
-/
import AgentId.Proofs.Profile.Card.Visit

namespace AgentId

/-! ### Records of use -/

/-- A record says where a card is served. -/
structure CardRecord.Places (record url : String) : Prop where
  tag : (Fields.parse record).get? "v" = some "ans1"
  place : (Fields.parse record).get? "url" = some url
  secure : Url.schemeOf? url = some "https"

/-- A record says where a card is served that will do for an identifier. -/
structure CardRecord.Lists (u : Uaid) (record url : String) : Prop where
  tag : (Fields.parse record).get? "v" = some "ans1"
  place : (Fields.parse record).get? "url" = some url
  secure : Url.schemeOf? url = some "https"
  version : ∀ asked, u.param? Uaid.Key.version = some asked →
    ∃ version, Version.normalize? asked = some version ∧
      ((Fields.parse record).get? "version").bind Version.normalize? = some version

theorem CardRecord.Lists.places {u : Uaid} {record url : String} (h : Lists u record url) :
    Places record url :=
  ⟨h.tag, h.place, h.secure⟩

theorem CardRecord.ofText?_eq_some_iff {text : String} {r : CardRecord} :
    ofText? text = some r ↔
      Places text r.url ∧ (Fields.parse text).get? "version" = r.version := by
  unfold ofText?
  rw [Option.bind_eq_bind, Option.bind_eq_some_iff]
  constructor
  · rintro ⟨url, hurl, h⟩
    split at h
    · rename_i hvalid
      obtain rfl := Option.some.inj h
      exact ⟨⟨hvalid.1, hurl, hvalid.2⟩, rfl⟩
    · cases h
  · rintro ⟨⟨htag, hurl, hsecure⟩, hversion⟩
    refine ⟨r.url, hurl, ?_⟩
    rw [if_pos ⟨htag, hsecure⟩, hversion]
    rfl

theorem CardRecord.filterMap_ofText?_eq_nil_iff {records : List String} :
    records.filterMap ofText? = [] ↔ ∀ text ∈ records, ∀ url, ¬ Places text url := by
  rw [List.filterMap_eq_nil_iff]
  refine forall₂_congr fun text _ => ?_
  rw [Option.eq_none_iff_forall_ne_some]
  constructor
  · exact fun h url hplaces => h ⟨_, url⟩ (ofText?_eq_some_iff.mpr ⟨hplaces, rfl⟩)
  · exact fun h r hr => h r.url (ofText?_eq_some_iff.mp hr).1

namespace Profile.Card

/-! ### The version that is asked for -/

/-- The version that an identifier asks for, if it does, is written as one. -/
def Acceptable (u : Uaid) : Prop :=
  ∀ asked, u.param? Uaid.Key.version = some asked → Version.normalize? asked ≠ none

theorem requestedVersion_eq_ok_iff {u : Uaid} {version : Option String} :
    requestedVersion u = .ok version ↔
      Acceptable u ∧ version = (u.param? Uaid.Key.version).bind Version.normalize? := by
  unfold requestedVersion Acceptable
  cases hasked : u.param? Uaid.Key.version with
  | none => simp [eq_comm]
  | some asked =>
      cases hnormal : Version.normalize? asked <;> simp [hnormal, eq_comm]

/-- A version that is not written as one is refused. -/
theorem exists_refusal_of_not_acceptable {u : Uaid} (h : ¬ Acceptable u) :
    ∃ message, requestedVersion u = .error (notApplicable message) := by
  simp only [Acceptable, Classical.not_forall, ne_eq, Classical.not_not, exists_prop] at h
  obtain ⟨asked, hasked, hnormal⟩ := h
  unfold requestedVersion
  simp only [hasked, hnormal]
  exact ⟨_, rfl⟩

/-! ### The choice -/

/-- The records that fit: all that name a card, or those for the version that is asked for. -/
def fitting (q : Request) (records : List String) : List CardRecord :=
  match q.version with
  | none => records.filterMap CardRecord.ofText?
  | some version => (records.filterMap CardRecord.ofText?).filter (·.version? == some version)

theorem mem_fitting_iff {q : Request} {records : List String} {r : CardRecord} :
    r ∈ fitting q records ↔ (∃ text ∈ records, CardRecord.ofText? text = some r) ∧
      ∀ version, q.version = some version → r.version? = some version := by
  unfold fitting
  cases q.version <;> simp [List.mem_filterMap, List.mem_filter]

/-- The refusal of a host none of whose records names a place for a card. -/
def noCard (q : Request) : Refusal where
  code := .invalidDnsRecord
  message := "No v=ans1 record with an https url at " ++ host q.home
  details := [("hostname", .str (host q.home))]

/-- The refusal of a host that has cards for other versions only. -/
def otherVersion (q : Request) : Refusal where
  code := .versionMismatch
  message := "No _ans record for version " ++ q.version.getD ""
  details := [("version", .str (q.version.getD ""))]

/-- **What the choice among the records of a host comes to.** -/
theorem select_eq (q : Request) (records : List String) :
    select q records =
      if records = [] then .error (.noRecords (host q.home))
      else if records.filterMap CardRecord.ofText? = [] then .error (noCard q)
      else match leastBy? CardRecord.url (fitting q records) with
        | some record => .ok record
        | none => .error (otherVersion q) := by
  unfold select
  by_cases hrecords : records = []
  · simp only [hrecords, List.isEmpty_nil, if_true]
    rfl
  · by_cases hcards : records.filterMap CardRecord.ofText? = []
    · simp only [hrecords, hcards, List.isEmpty_iff, if_false, if_true]
      rfl
    · simp only [hrecords, hcards, List.isEmpty_iff, if_false]
      rfl

/-! ### The record that is taken -/

section
variable {u : Uaid} {q : Request} {records : List String} {record : CardRecord}

theorem mem_fitting_of_select (h : select q records = .ok record) :
    record ∈ fitting q records := by
  rw [select_eq] at h
  split at h
  · cases h
  · split at h
    · cases h
    · split at h
      · rename_i taken hleast
        obtain rfl : taken = record := Except.ok.inj h
        exact leastBy?_mem hleast
      · cases h

/-- The record that is taken is for the version that is asked for. -/
theorem version?_of_select {version : String} (h : select q records = .ok record)
    (hasked : q.version = some version) : record.version? = some version :=
  (mem_fitting_iff.mp (mem_fitting_of_select h)).2 version hasked

/-- The places of the records that fit are those that the host lists for the identifier. -/
theorem exists_mem_fitting_iff (asks : request u = .ok q) {url : String} :
    (∃ r ∈ fitting q records, r.url = url) ↔ ∃ text ∈ records, CardRecord.Lists u text url := by
  obtain ⟨-, -, -, -, hrequested⟩ := request_eq_ok_iff.mp asks
  obtain ⟨hacceptable, hversion⟩ := requestedVersion_eq_ok_iff.mp hrequested
  constructor
  · rintro ⟨r, hr, rfl⟩
    obtain ⟨⟨text, htext, hread⟩, hfits⟩ := mem_fitting_iff.mp hr
    obtain ⟨hplaces, hwritten⟩ := CardRecord.ofText?_eq_some_iff.mp hread
    refine ⟨text, htext, hplaces.tag, hplaces.place, hplaces.secure, fun asked hasked => ?_⟩
    obtain ⟨version, hnormal⟩ := Option.ne_none_iff_exists'.mp (hacceptable asked hasked)
    refine ⟨version, hnormal, ?_⟩
    rw [hwritten]
    exact hfits version (by rw [hversion, hasked, Option.bind_some, hnormal])
  · rintro ⟨text, htext, hlists⟩
    refine ⟨⟨(Fields.parse text).get? "version", url⟩, mem_fitting_iff.mpr ⟨⟨text, htext, ?_⟩, ?_⟩,
      rfl⟩
    · exact CardRecord.ofText?_eq_some_iff.mpr ⟨hlists.places, rfl⟩
    · intro version hasked
      rw [hversion, Option.bind_eq_some_iff] at hasked
      obtain ⟨asked, hparam, hnormal⟩ := hasked
      obtain ⟨version', hnormal', hsame⟩ := hlists.version asked hparam
      obtain rfl : version = version' := Option.some.inj (hnormal.symm.trans hnormal')
      exact hsame

/-- **A page is fetched from where a record says**, for the version that is asked for. -/
theorem exists_lists (asks : request u = .ok q) (selected : select q records = .ok record) :
    ∃ text ∈ records, CardRecord.Lists u text record.url :=
  (exists_mem_fitting_iff asks).mp ⟨record, mem_fitting_of_select selected, rfl⟩

end

end Profile.Card

end AgentId
