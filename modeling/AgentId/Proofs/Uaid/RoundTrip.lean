/-
The canonical text is read back.

`Uaid.text` puts an identifier together from its parts and `Uaid.parse` takes text apart.
What reading returns is always well formed: its name and its keys are tokens, because
they were cut at the marks that a token must not hold (`wellFormed_of_parse`).  And a
well-formed identifier comes back from its text, less the parameters that say nothing,
whatever characters its values hold (`parse_text`).  Together the two say exactly which
identifiers survive being written down (`parse_text_eq_ok_iff`), and that the text tells
those apart (`text_injective`).
-/
import AgentId.Proofs.Fields
import AgentId.Proofs.Text.Escaping
import AgentId.Uaid.Parser

namespace AgentId.Uaid

open Text Fields

/-- The parameters that say something. -/
def substance (params : Dict String) : Dict String :=
  params.filter fun _ value => value ≠ ""

theorem get?_substance (params : Dict String) (key : String) :
    (substance params).get? key = (params.get? key).filter (· ≠ "") :=
  Dict.get?_filter _ _ _

theorem get?_substance_eq_some_iff {params : Dict String} {key value : String} :
    (substance params).get? key = some value ↔ params.get? key = some value ∧ value ≠ "" := by
  rw [get?_substance, Option.filter_eq_some_iff, decide_eq_true_eq]

theorem substance_eq_self {params : Dict String}
    (h : ∀ key value, params.get? key = some value → value ≠ "") : substance params = params := by
  refine Dict.ext_get? fun key => Option.ext fun value => ?_
  rw [get?_substance_eq_some_iff]
  exact ⟨fun hget => hget.1, fun hget => ⟨hget, h key value hget⟩⟩

/-- An identifier whose parts stand apart from the marks of the text around them. -/
structure WellFormed (u : Uaid) : Prop where
  identifier : IsToken u.identifier
  keys : ∀ key value, u.params.get? key = some value → value ≠ "" → IsKey key

theorem isKey_of_mem_order {key : String} (h : key ∈ Key.order) : IsKey key := by
  have hall : ∀ key ∈ Key.order, IsKey key := by decide
  exact hall key h

/-- Parameters that can all be written and all say something. -/
theorem wellFormed_of_params {u : Uaid} (identifier : IsToken u.identifier)
    (params : ∀ key value, u.params.get? key = some value → IsKey key ∧ value ≠ "") :
    u.WellFormed ∧ substance u.params = u.params :=
  ⟨⟨identifier, fun key value hget _ => (params key value hget).1⟩,
    substance_eq_self fun key value hget => (params key value hget).2⟩

/-! ### What reading returns -/

theorem parseTarget_eq_ok_iff {name : String} {t : Target} :
    parseTarget name = .ok t ↔ name = t.text := by
  unfold parseTarget
  by_cases haid : name = "aid"
  · subst haid
    cases t <;> simp [Target.text]
  · by_cases hdid : name = "did"
    · subst hdid
      cases t <;> simp [Target.text]
    · cases t <;> simp [Target.text, haid, hdid]

theorem noColon_target (t : Target) : ':' ∉ t.text.toList := by
  cases t <;> decide

theorem get?_parseParams {s key value : String} (h : (parseParams s).get? key = some value) :
    IsKey key ∧ value ≠ "" := by
  unfold parseParams at h
  rw [Dict.get?_map, Option.map_eq_some_iff] at h
  obtain ⟨written, hwritten, rfl⟩ := h
  obtain ⟨hkey, htoken⟩ := isKey_and_isToken_of_get?_parse hwritten
  exact ⟨hkey, Percent.decode_ne_empty htoken.ne_empty⟩

/-- The parts of a text that is an identifier: the name goes up to the first semicolon,
and the parameters are what is behind it. -/
structure Parts (s : String) (u : Uaid) (name fields : List Char) : Prop where
  text : trim s.toList = "uaid:".toList ++ (u.target.text.toList ++ ':' :: (name ++ fields))
  noSemicolon : ';' ∉ name
  fields_head : ∀ c, fields.head? = some c → c = ';'
  name_ne_nil : trim name ≠ []
  identifier : u.identifier = String.ofList (trim name)
  params : u.params = parseParams (String.ofList (fields.drop 1))

/-- **What reading makes of a text that starts as an identifier does.** -/
theorem parse_eq {s : String} {target : Target} {name fields : List Char}
    (htext : trim s.toList = "uaid:".toList ++ (target.text.toList ++ ':' :: (name ++ fields)))
    (hsemi : ';' ∉ name) (hfields : ∀ c, fields.head? = some c → c = ';') :
    parse s =
      if (trim name).isEmpty then .error (.noIdentifier (trimmed s))
      else .ok
        ⟨target, String.ofList (trim name), parseParams (String.ofList (fields.drop 1))⟩ := by
  have hbehind : behind? "uaid:" (trimmed s).toList =
      some (target.text.toList ++ ':' :: (name ++ fields)) := by
    rw [behind?_eq_some_iff, trimmed, String.toList_ofList]
    exact htext
  have hcut : cut? ':' (target.text.toList ++ ':' :: (name ++ fields)) =
      some (target.text.toList, name ++ fields) :=
    cut?_eq_some_iff.mpr ⟨rfl, noColon_target _⟩
  have htarget : parseTarget (String.ofList target.text.toList) = .ok target := by
    rw [String.ofList_toList]
    exact parseTarget_eq_ok_iff.mpr rfl
  have hbreak : breakAt (· == ';') (name ++ fields) = (name, fields) := by
    refine breakAt_eq (fun c hc => ?_) fun c hc => ?_
    · exact beq_false_of_ne fun heq => hsemi (heq ▸ hc)
    · exact beq_iff_eq.mpr (hfields c hc)
  simp only [parse, hbehind, hcut, htarget, hbreak]

/-- **An identifier is read exactly when the text has its parts.** -/
theorem parse_eq_ok_iff {s : String} {u : Uaid} :
    parse s = .ok u ↔ ∃ name fields, Parts s u name fields := by
  constructor
  · intro h
    simp only [parse] at h
    split at h
    · cases h
    · rename_i rest hrest
      split at h
      · cases h
      · rename_i target own hcut
        split at h
        · cases h
        · rename_i t htarget
          split at h
          · cases h
          · rename_i hne
            cases h
            refine ⟨(breakAt (· == ';') own).1, (breakAt (· == ';') own).2, ?_, ?_, ?_, ?_,
              rfl, rfl⟩
            · have hwhole := behind?_eq_some_iff.mp hrest
              rw [trimmed, String.toList_ofList] at hwhole
              have hname := parseTarget_eq_ok_iff.mp htarget
              have htext : t.text.toList = target := by rw [← hname, String.toList_ofList]
              rw [breakAt_append, htext, ← (cut?_eq_some_iff.mp hcut).1]
              exact hwhole
            · exact fun hmem => absurd (not_of_mem_breakAt hmem) (by simp)
            · intro c hc
              have hmark := head_breakAt hc
              exact beq_iff_eq.mp hmark
            · exact fun hnil => hne (by rw [hnil]; rfl)
  · rintro ⟨name, fields, h⟩
    have hne : (trim name).isEmpty = false := by
      rw [List.isEmpty_eq_false_iff]
      exact h.name_ne_nil
    rw [parse_eq h.text h.noSemicolon h.fields_head, hne, ← h.identifier, ← h.params]
    rfl

/-- **What is read is well formed, and all of its parameters say something.** -/
theorem wellFormed_of_parse {s : String} {u : Uaid} (h : parse s = .ok u) :
    u.WellFormed ∧ ∀ key value, u.params.get? key = some value → value ≠ "" := by
  obtain ⟨name, fields, parts⟩ := parse_eq_ok_iff.mp h
  refine ⟨⟨?_, fun key value hget _ => ?_⟩, fun key value hget => ?_⟩
  · rw [parts.identifier]
    exact isToken_trim parts.name_ne_nil parts.noSemicolon
  · rw [parts.params] at hget
    exact (get?_parseParams hget).1
  · rw [parts.params] at hget
    exact (get?_parseParams hget).2

/-! ### What is written -/

theorem mem_ordered {params : Dict String} {key value : String} :
    (key, value) ∈ ordered params ↔ params.get? key = some value := by
  unfold ordered
  rw [List.mem_append, List.mem_filterMap, List.mem_filter]
  constructor
  · rintro (⟨k, -, hget⟩ | ⟨hmem, -⟩)
    · obtain ⟨v, hv, heq⟩ := Option.map_eq_some_iff.mp hget
      obtain ⟨rfl, rfl⟩ := Prod.mk.inj heq
      exact hv
    · exact Dict.mem_entries_iff.mp hmem
  · intro hget
    by_cases hknown : key ∈ Key.order
    · exact Or.inl ⟨key, hknown, by rw [hget]; rfl⟩
    · exact Or.inr ⟨Dict.mem_entries_iff.mpr hget, by simpa using hknown⟩

/-- The fields of the canonical text, in order and with their values escaped. -/
def writtenFields (params : Dict String) : List (String × String) :=
  ((ordered params).filter (·.2 ≠ "")).map fun e => (e.1, Percent.encode e.2)

theorem mem_writtenFields {params : Dict String} {key written : String} :
    (key, written) ∈ writtenFields params ↔
      ∃ value, params.get? key = some value ∧ value ≠ "" ∧ written = Percent.encode value := by
  unfold writtenFields
  rw [List.mem_map]
  constructor
  · rintro ⟨⟨k, v⟩, hmem, heq⟩
    obtain ⟨rfl, rfl⟩ := Prod.mk.inj heq
    obtain ⟨hordered, hne⟩ := List.mem_filter.mp hmem
    exact ⟨v, mem_ordered.mp hordered, by simpa using hne, rfl⟩
  · rintro ⟨value, hget, hne, rfl⟩
    exact ⟨(key, value), List.mem_filter.mpr ⟨mem_ordered.mpr hget, by simpa using hne⟩, rfl⟩

theorem toList_writeParams (entries : List (String × String)) :
    (String.join (entries.map fun e => writeParam e.1 e.2)).toList =
      ((entries.filter (·.2 ≠ "")).map fun e => (e.1, Percent.encode e.2)).flatMap
        fun e => ';' :: line e := by
  induction entries with
  | nil => rfl
  | cons e es ih =>
      rw [List.map_cons, String.join_cons, String.toList_append, ih, List.filter_cons]
      by_cases hempty : e.2 = ""
      · simp [writeParam, hempty]
      · simp [writeParam, hempty, line]

theorem toList_text (u : Uaid) :
    u.text.toList = "uaid:".toList ++ (u.target.text.toList ++ ':' ::
      (u.identifier.toList ++ (writtenFields u.params).flatMap fun e => ';' :: line e)) := by
  unfold text writtenFields
  rw [String.toList_append, ← toList_writeParams]
  simp

theorem writable_writtenFields {params : Dict String}
    (h : ∀ key value, params.get? key = some value → value ≠ "" → IsKey key) :
    ∀ e ∈ writtenFields params, Writable e := by
  rintro ⟨key, written⟩ hmem
  obtain ⟨value, hget, hne, rfl⟩ := mem_writtenFields.mp hmem
  refine ⟨h key value hget hne, ⟨?_, ?_, Percent.isTrimmed_encode value⟩, fun hquote => ?_⟩
  · exact mt Percent.encode_eq_empty_iff.mp hne
  · exact Percent.not_mem_encode (by decide) (by decide)
  · exact Percent.not_mem_encode (by decide) (by decide) (List.mem_of_mem_head? hquote)

/-- The written parameters are read as those that say something. -/
theorem parseParams_writtenFields {params : Dict String}
    (h : ∀ key value, params.get? key = some value → value ≠ "" → IsKey key) :
    parseParams (String.ofList
      (((writtenFields params).flatMap fun e => ';' :: line e).drop 1)) = substance params := by
  have single : ∀ k w w', (k, w) ∈ writtenFields params → (k, w') ∈ writtenFields params →
      w = w' := by
    intro k w w' hw hw'
    obtain ⟨v, hget, -, rfl⟩ := mem_writtenFields.mp hw
    obtain ⟨v', hget', -, rfl⟩ := mem_writtenFields.mp hw'
    rw [Option.some.inj (hget.symm.trans hget')]
  unfold parseParams
  rw [parse_lines (writable_writtenFields h)]
  refine Dict.ext_get? fun key => Option.ext fun value => ?_
  rw [Dict.get?_map, Option.map_eq_some_iff, get?_substance_eq_some_iff]
  constructor
  · rintro ⟨written, hwritten, rfl⟩
    obtain ⟨v, hget, hne, rfl⟩ :=
      mem_writtenFields.mp ((Dict.get?_ofList_eq_some_iff single).mp hwritten)
    rw [Percent.decode_encode]
    exact ⟨hget, hne⟩
  · rintro ⟨hget, hne⟩
    refine ⟨Percent.encode value, ?_, Percent.decode_encode value⟩
    exact (Dict.get?_ofList_eq_some_iff single).mpr (mem_writtenFields.mpr ⟨value, hget, hne, rfl⟩)

/-- The last character of a list of fields is the last one of a value. -/
theorem last_lines {entries : List (String × String)} (h : ∀ e ∈ entries, Writable e) {c : Char}
    (hc : (entries.flatMap fun e => ';' :: line e).getLast? = some c) : isBlank c = false := by
  induction entries with
  | nil => simp at hc
  | cons e es ih =>
      rw [List.flatMap_cons, List.getLast?_append] at hc
      cases hes : (es.flatMap fun e => ';' :: line e).getLast? with
      | some d =>
          rw [hes, Option.some_or] at hc
          exact ih (fun e' he' => h e' (by simp [he'])) (hes.trans hc)
      | none =>
          obtain ⟨-, hvalue, -⟩ := h e (by simp)
          have hne : e.2.toList ≠ [] := mt String.toList_eq_nil_iff.mp hvalue.ne_empty
          have hline : ';' :: line e = (';' :: e.1.toList ++ ['=']) ++ e.2.toList := by
            simp [line]
          rw [hes, Option.none_or, hline, List.getLast?_append_of_ne_nil _ hne] at hc
          exact hvalue.trimmed.last c hc

/-- There is nothing to trim off a text with fields behind a name, or a name that ends so. -/
theorem isTrimmed_text_of_last {u : Uaid} (hne : u.identifier ≠ "")
    (hfields : ∀ e ∈ writtenFields u.params, Writable e)
    (hlast : writtenFields u.params = [] →
      ∀ c, u.identifier.toList.getLast? = some c → isBlank c = false) :
    IsTrimmed u.text.toList := by
  have hname : u.identifier.toList ≠ [] := mt String.toList_eq_nil_iff.mp hne
  have hparts : u.text.toList = ("uaid:".toList ++ u.target.text.toList ++ [':']) ++
      (u.identifier.toList ++ (writtenFields u.params).flatMap fun e => ';' :: line e) := by
    rw [toList_text]
    simp
  rw [hparts]
  refine isTrimmed_append (by simp) (by simp [hname]) (fun c hc => ?_) fun c hc => ?_
  · have hu : c = 'u' := by simpa using hc.symm
    rw [hu]
    decide
  · rw [List.getLast?_append] at hc
    cases hwritten : writtenFields u.params with
    | nil =>
        rw [hwritten, List.flatMap_nil, List.getLast?_nil, Option.none_or] at hc
        exact hlast hwritten c hc
    | cons e es =>
        obtain ⟨d, hd⟩ : ∃ d, ((writtenFields u.params).flatMap
            fun e => ';' :: line e).getLast? = some d := by
          rw [hwritten, List.flatMap_cons, List.cons_append]
          exact ⟨_, List.getLast?_eq_some_getLast (List.cons_ne_nil _ _)⟩
        rw [hd, Option.some_or] at hc
        exact last_lines hfields (hd.trans hc)

/-- There is nothing to trim off a canonical text. -/
theorem isTrimmed_text {u : Uaid} (h : u.WellFormed) : IsTrimmed u.text.toList :=
  isTrimmed_text_of_last h.identifier.ne_empty (writable_writtenFields h.keys)
    fun _ => h.identifier.trimmed.last

/-- Behind the name of a canonical text stands nothing or a semicolon. -/
theorem head_lines {entries : List (String × String)} {c : Char}
    (hc : (entries.flatMap fun e => ';' :: line e).head? = some c) : c = ';' := by
  cases entries with
  | nil => simp at hc
  | cons e es => simpa [eq_comm] using hc

/-- Up to its first semicolon, a text is that of the name alone. -/
theorem takeWhile_text {u : Uaid} (h : ';' ∉ u.identifier.toList) :
    u.text.toList.takeWhile (· ≠ ';') = (text ⟨u.target, u.identifier, {}⟩).toList := by
  have hfront : ';' ∉ "uaid:".toList ++ (u.target.text.toList ++ ':' :: u.identifier.toList) := by
    cases u.target <;> simp [Target.text, h]
  have htext : u.text.toList =
      ("uaid:".toList ++ (u.target.text.toList ++ ':' :: u.identifier.toList)) ++
        (writtenFields u.params).flatMap fun e => ';' :: line e := by
    rw [toList_text]
    simp
  have hnone : writtenFields {} = [] := rfl
  rw [htext, takeWhile_ne_append hfront fun _ => head_lines, toList_text, hnone]
  simp

/-- **A well-formed identifier is read back from its text**, with all that it says. -/
theorem parse_text {u : Uaid} (h : u.WellFormed) :
    parse u.text = .ok { u with params := substance u.params } := by
  have hname : trim u.identifier.toList = u.identifier.toList :=
    trim_of_isTrimmed h.identifier.trimmed
  refine parse_eq_ok_iff.mpr ⟨u.identifier.toList,
    (writtenFields u.params).flatMap fun e => ';' :: line e, ?_, h.identifier.noSemicolon,
    fun _ => head_lines, ?_, ?_, (parseParams_writtenFields h.keys).symm⟩
  · rw [trim_of_isTrimmed (isTrimmed_text h), toList_text]
  · rw [hname]
    exact mt String.toList_eq_nil_iff.mp h.identifier.ne_empty
  · rw [hname, String.ofList_toList]

/-- It comes back as it was, if all of its parameters say something. -/
theorem parse_text_self {u : Uaid} (h : u.WellFormed) (hsay : substance u.params = u.params) :
    parse u.text = .ok u := by
  rw [parse_text h, hsay]

/-- **The canonical text tells well-formed identifiers apart**, if all of their parameters
say something. -/
theorem text_injective {u v : Uaid} (hu : u.WellFormed) (hv : v.WellFormed)
    (hu' : substance u.params = u.params) (hv' : substance v.params = v.params)
    (h : u.text = v.text) : u = v := by
  have hparse := parse_text_self hu hu'
  rw [h, parse_text_self hv hv'] at hparse
  exact (Except.ok.inj hparse).symm

/-- **An identifier comes back from its text exactly when it is well formed**: its name and
the keys of its parameters that say something are tokens, and no key holds an equals
sign.  The values may be anything. -/
theorem parse_text_eq_ok_iff (target : Target) (identifier : String) (params : Dict String) :
    parse (text ⟨target, identifier, params⟩) =
        .ok ⟨target, identifier, params.filter fun _ value => value ≠ ""⟩ ↔
      IsToken identifier ∧
        ∀ key value, params.get? key = some value → value ≠ "" → IsKey key := by
  constructor
  · intro h
    obtain ⟨hidentifier, hkeys⟩ := (wellFormed_of_parse h).1
    refine ⟨hidentifier, fun key value hget hne => hkeys key value ?_ hne⟩
    exact get?_substance_eq_some_iff.mpr ⟨hget, hne⟩
  · rintro ⟨hidentifier, hkeys⟩
    exact parse_text ⟨hidentifier, hkeys⟩

end AgentId.Uaid
