/-
The spellings of a field list.

A list is read segment by segment, and what a segment says is decided by the segment alone: an
entry, or nothing (`segment?_eq_none_iff`).  So the fields of two lists put together are those of
the first with those of the second written over them (`get?_parse_append`), and a segment that
says nothing may stand anywhere.

What was read has keys and values of one kind, and every map of that kind is read from each of
its spellings: the segments in any order, the values between quotes, and white space around key,
value and quotes (`parse_intercalate`).  It is the quotes that make this hold of every value: one
that starts and ends with a quote of its own would lose the two, but behind the pair that reading
takes off they are kept.
-/
import AgentId.Proofs.Fields

namespace AgentId.Fields

open Text

/-! ### One list behind another -/

/-- **The fields of two lists are those of the first, overridden by those of the second.** -/
theorem get?_parse_append (a b key : String) :
    (parse (a ++ ";" ++ b)).get? key = ((parse b).get? key).or ((parse a).get? key) := by
  have htext : (a ++ ";" ++ b).toList = a.toList ++ ';' :: b.toList := by
    rw [String.toList_append, String.toList_append, List.append_assoc]
    rfl
  have hsplit : (a ++ ";" ++ b).toList.splitOn ';' =
      a.toList.splitOn ';' ++ b.toList.splitOn ';' := by
    rw [htext, List.splitOn_append_cons_self]
  unfold parse
  rw [hsplit, List.filterMap_append, Dict.get?_ofList_append]

/-! ### Segments that say nothing -/

/-- A segment without a key or without a value. -/
inductive Mute (segment : List Char) : Prop where
  /-- It is not cut at all. -/
  | uncut (h : '=' ∉ segment)
  /-- Only white space stands in front of the equals sign. -/
  | noKey (key value : List Char) (h : segment = key ++ '=' :: value)
      (blank : ∀ c ∈ key, isBlank c = true)
  /-- Only white space stands behind the first equals sign. -/
  | noValue (key value : List Char) (h : segment = key ++ '=' :: value) (first : '=' ∉ key)
      (blank : ∀ c ∈ value, isBlank c = true)
  /-- Quotes stand behind it, with white space in and around them and nothing else. -/
  | noQuoted (key before value after : List Char)
      (h : segment = key ++ '=' :: (before ++ ('"' :: value ++ ['"']) ++ after))
      (first : '=' ∉ key) (blank : ∀ c ∈ before ++ value ++ after, isBlank c = true)

theorem isTrimmed_quoted (cs : List Char) : IsTrimmed ('"' :: cs ++ ['"']) := by
  constructor
  · intro c hc
    obtain rfl : '"' = c := Option.some.inj hc
    rfl
  · intro c hc
    rw [List.getLast?_concat] at hc
    obtain rfl : '"' = c := Option.some.inj hc
    rfl

theorem unquote_quoted (cs : List Char) : unquote ('"' :: cs ++ ['"']) = cs := by
  simp [unquote]

/-- Quotes are taken off where they stand on both sides, and nowhere else. -/
theorem unquote_cases (cs : List Char) : cs = '"' :: unquote cs ++ ['"'] ∨ unquote cs = cs := by
  unfold unquote
  split
  · rename_i rest
    split
    · rename_i hlast
      exact Or.inl (congrArg _ (List.dropLast_append_getLast? _ hlast).symm)
    · exact Or.inr rfl
  · exact Or.inr rfl

/-- Nothing is left of a value that is white space, or quotes with nothing else in them. -/
theorem trim_unquote_eq_nil_iff {cs : List Char} : trim (unquote (trim cs)) = [] ↔
    (∀ c ∈ cs, isBlank c = true) ∨ ∃ before value after,
      cs = before ++ ('"' :: value ++ ['"']) ++ after ∧
        ∀ c ∈ before ++ value ++ after, isBlank c = true := by
  constructor
  · intro h
    rcases unquote_cases (trim cs) with hquoted | hplain
    · obtain ⟨before, after, hbefore, hafter, hcs⟩ := exists_append_trim cs
      refine Or.inr ⟨before, unquote (trim cs), after, hquoted ▸ hcs, fun c hc => ?_⟩
      rcases List.mem_append.mp hc with hc | hc
      · rcases List.mem_append.mp hc with hc | hc
        · exact List.all_eq_true.mp hbefore c hc
        · exact trim_eq_nil_iff.mp h c hc
      · exact List.all_eq_true.mp hafter c hc
    · rw [hplain, trim_of_isTrimmed (isTrimmed_trim cs)] at h
      exact Or.inl (trim_eq_nil_iff.mp h)
  · rintro (hblank | ⟨before, value, after, rfl, hblank⟩)
    · rw [trim_eq_nil_iff.mpr hblank]
      rfl
    · rw [trim_append_append (fun c hc => hblank c (by simp [hc]))
          (fun c hc => hblank c (by simp [hc])),
        trim_of_isTrimmed (isTrimmed_quoted value), unquote_quoted, trim_eq_nil_iff]
      exact fun c hc => hblank c (by simp [hc])

/-- **A segment says nothing exactly if it has no key or no value.** -/
theorem segment?_eq_none_iff {cs : List Char} : segment? cs = none ↔ Mute cs := by
  unfold segment?
  cases hcut : cut? '=' cs with
  | none => exact iff_of_true rfl (.uncut (cut?_eq_none_iff.mp hcut))
  | some parts =>
      obtain ⟨key, value⟩ := parts
      obtain ⟨rfl, hfirst⟩ := cut?_eq_some_iff.mp hcut
      have hread : (if (trim key).isEmpty || (trim (unquote (trim value))).isEmpty then none
          else some (String.ofList (trim key), String.ofList (trim (unquote (trim value))))) =
          none ↔ trim key = [] ∨ trim (unquote (trim value)) = [] := by
        by_cases hkey : trim key = [] <;> simp [hkey]
      refine hread.trans ?_
      rw [trim_eq_nil_iff, trim_unquote_eq_nil_iff]
      constructor
      · rintro (hkey | hvalue | ⟨before, quoted, after, rfl, hblank⟩)
        · exact .noKey key value rfl hkey
        · exact .noValue key value rfl hfirst hvalue
        · exact .noQuoted key before quoted after rfl hfirst hblank
      · -- The first equals sign is where the segment was cut.
        have hparts : ∀ {k v}, key ++ '=' :: value = k ++ '=' :: v → '=' ∉ k →
            key = k ∧ value = v := by
          intro k v heq hk
          have hcut' := cut?_eq_some_iff.mpr ⟨heq, hk⟩
          exact Prod.mk.inj (Option.some.inj (hcut.symm.trans hcut'))
        rintro (huncut | ⟨k, v, heq, hblank⟩ | ⟨k, v, heq, hk, hblank⟩ |
          ⟨k, before, v, after, heq, hk, hblank⟩)
        · exact absurd (by simp) huncut
        · have hk : '=' ∉ k := fun hmem => absurd (hblank _ hmem) (by decide)
          obtain ⟨rfl, rfl⟩ := hparts heq hk
          exact Or.inl hblank
        · obtain ⟨rfl, rfl⟩ := hparts heq hk
          exact Or.inr (Or.inl hblank)
        · obtain ⟨rfl, rfl⟩ := hparts heq hk
          exact Or.inr (Or.inr ⟨before, v, after, rfl, hblank⟩)

/-- A list of one segment has no fields exactly if the segment says nothing. -/
theorem parse_eq_empty_iff {segment : String} (hsemi : ';' ∉ segment.toList) :
    parse segment = {} ↔ Mute segment.toList := by
  rw [← segment?_eq_none_iff]
  unfold parse
  rw [List.splitOn_eq_singleton hsemi]
  cases hread : segment? segment.toList with
  | none => exact iff_of_true (by rw [List.filterMap_cons_none hread]; rfl) rfl
  | some entry =>
      refine iff_of_false (fun h => ?_) (by simp)
      rw [List.filterMap_cons_some hread] at h
      cases congrArg Dict.entries h

/-! ### Spellings of a map -/

/-- A segment spells an entry: the key, an equals sign, and the value between quotes, with white
space around key, value and quotes. -/
def Spells (entry : String × String) (segment : String) : Prop :=
  ∃ key value quoted, Padded entry.1 key ∧ Padded entry.2 value ∧
    Padded ("\"" ++ value ++ "\"") quoted ∧ segment = key ++ "=" ++ quoted

section

variable {entry : String × String} {segment : String} (hkey : IsKey entry.1)
  (hvalue : IsToken entry.2) (hspells : Spells entry segment)
include hkey hvalue hspells

/-- **A segment is read as the entry that it spells.** -/
theorem Spells.segment?_eq : segment? segment.toList = some entry := by
  obtain ⟨key, value, quoted, hpadkey, hpadvalue, hpadquoted, rfl⟩ := hspells
  have hcut : cut? '=' (key ++ "=" ++ quoted).toList = some (key.toList, quoted.toList) := by
    refine cut?_eq_some_iff.mpr ⟨by simp, ?_⟩
    exact hpadkey.not_mem (by decide) hkey.noEquals
  have hk : trim key.toList = entry.1.toList := by
    rw [hpadkey.trim_eq, trim_of_isTrimmed hkey.trimmed]
  have hv : trim (unquote (trim quoted.toList)) = entry.2.toList := by
    have htext : ("\"" ++ value ++ "\"").toList = '"' :: value.toList ++ ['"'] := by simp
    rw [hpadquoted.trim_eq, htext, trim_of_isTrimmed (isTrimmed_quoted _), unquote_quoted,
      hpadvalue.trim_eq, trim_of_isTrimmed hvalue.trimmed]
  unfold segment?
  rw [hcut]
  simp [hk, hv, hkey.ne_empty, hvalue.ne_empty]

theorem Spells.noSemicolon : ';' ∉ segment.toList := by
  obtain ⟨key, value, quoted, hpadkey, hpadvalue, hpadquoted, rfl⟩ := hspells
  have hk : ';' ∉ key.toList := hpadkey.not_mem (by decide) hkey.noSemicolon
  have hv : ';' ∉ value.toList := hpadvalue.not_mem (by decide) hvalue.noSemicolon
  have hq : ';' ∉ quoted.toList := hpadquoted.not_mem (by decide) (by simpa using hv)
  simpa using ⟨hk, hq⟩

end

/-- The segments are read as the entries, one by one. -/
theorem parse_intercalate_eq_ofList {entries : List (String × String)} {segments : List String}
    (hentries : ∀ e ∈ entries, IsKey e.1 ∧ IsToken e.2)
    (hspells : List.Forall₂ Spells entries segments) :
    parse (";".intercalate segments) = .ofList entries := by
  have hread : (segments.map String.toList).filterMap segment? = entries ∧
      ∀ cs ∈ segments.map String.toList, ';' ∉ cs := by
    induction hspells with
    | nil => exact ⟨rfl, by simp⟩
    | cons hspell _ ih =>
        obtain ⟨hkey, hvalue⟩ := hentries _ List.mem_cons_self
        obtain ⟨hrest, hsemi⟩ := ih fun e he => hentries e (List.mem_cons_of_mem _ he)
        rw [List.map_cons, List.filterMap_cons_some (hspell.segment?_eq hkey hvalue), hrest]
        exact ⟨rfl, List.forall_mem_cons.mpr ⟨hspell.noSemicolon hkey hvalue, hsemi⟩⟩
  obtain ⟨hread, hsemi⟩ := hread
  cases segments with
  | nil =>
      cases hspells
      rfl
  | cons first rest =>
      have hsplit : (";".intercalate (first :: rest)).toList.splitOn ';' =
          (first :: rest).map String.toList := by
        rw [String.toList_intercalate]
        exact List.splitOn_intercalate ';' hsemi (by simp)
      unfold parse
      rw [hsplit, hread]

/-- Maps whose keys and values can stand in a list. -/
def Expressible (d : Dict String) : Prop :=
  ∀ e ∈ d.toList, IsKey e.1 ∧ IsToken e.2

instance (d : Dict String) : Decidable (Expressible d) :=
  inferInstanceAs (Decidable (∀ e ∈ d.toList, _))

theorem expressible_parse (s : String) : Expressible (parse s) :=
  fun _ he => isKey_and_isToken_of_get?_parse (Dict.mem_entries_iff.mp he)

/-- **A map is read from each of its spellings**, whatever the order of the segments. -/
theorem parse_intercalate {d : Dict String} {entries : List (String × String)}
    {segments : List String} (hd : Expressible d) (hperm : entries.Perm d.toList)
    (hspells : List.Forall₂ Spells entries segments) :
    parse (";".intercalate segments) = d := by
  rw [parse_intercalate_eq_ofList (fun e he => hd e (hperm.mem_iff.mp he)) hspells,
    Dict.ofList_of_perm hperm]

/--
**What a list says is what its segments say, each for itself.**

* The keys and values that are read can stand in a list, and every map of such keys and values is
  read from all of its spellings.
* The fields of two lists put together are those of the first, overridden by those of the second.
* A segment says nothing if it has no key or no value, and only then.  Behind, before and between
  others it changes nothing.
-/
theorem segments_stand_alone :
    (∀ s, Expressible (parse s)) ∧
    (∀ (d : Dict String) (entries : List (String × String)) (segments : List String),
      Expressible d → entries.Perm d.toList → List.Forall₂ Spells entries segments →
      parse (";".intercalate segments) = d) ∧
    (∀ a b key, (parse (a ++ ";" ++ b)).get? key = ((parse b).get? key).or ((parse a).get? key)) ∧
    ∀ segment : String, ';' ∉ segment.toList →
      (parse segment = {} ↔ Mute segment.toList) ∧
      (Mute segment.toList → ∀ a b, parse (a ++ ";" ++ segment) = parse a ∧
        parse (segment ++ ";" ++ b) = parse b ∧
        parse (a ++ ";" ++ segment ++ ";" ++ b) = parse (a ++ ";" ++ b)) := by
  refine ⟨expressible_parse, fun _ _ _ => parse_intercalate, get?_parse_append, ?_⟩
  intro segment hsemi
  refine ⟨parse_eq_empty_iff hsemi, fun hmute a b => ?_⟩
  have hnone : ∀ key, (parse segment).get? key = none := by
    intro key
    rw [(parse_eq_empty_iff hsemi).mpr hmute]
    rfl
  refine ⟨?_, ?_, ?_⟩
  · refine Dict.ext_get? fun key => ?_
    rw [get?_parse_append, hnone, Option.none_or]
  · refine Dict.ext_get? fun key => ?_
    rw [get?_parse_append, hnone, Option.or_none]
  · refine Dict.ext_get? fun key => ?_
    rw [get?_parse_append, get?_parse_append a, hnone, Option.none_or, get?_parse_append a]

/-- A value with quotes of its own and one with an equals sign, in the order of neither, with
white space in every place, and a segment behind them whose quotes are empty. -/
theorem segments_stand_alone_ownQuotes :
    ∃ (d : Dict String) (segments : List String) (empty : String),
      d = .ofList [("name", "\"x\""), ("sum", "1=2")] ∧
      segments = ["\tsum =\u00a0\" 1=2\" ", "name= \"\"x\"\n\""] ∧ empty = " name = \" \" " ∧
      Expressible d ∧ parse (";".intercalate segments) = d ∧
      ';' ∉ empty.toList ∧ Mute empty.toList ∧ parse empty = {} ∧
      parse (";".intercalate segments ++ ";" ++ empty) = d := by
  have hd : Expressible (.ofList [("name", "\"x\""), ("sum", "1=2")]) := by decide +kernel
  have hperm : [("sum", "1=2"), ("name", "\"x\"")].Perm
      (Dict.ofList [("name", "\"x\""), ("sum", "1=2")]).toList := by decide +kernel
  have hsum : Spells ("sum", "1=2") "\tsum =\u00a0\" 1=2\" " :=
    ⟨"\tsum ", " 1=2", "\u00a0\" 1=2\" ", ⟨['\t'], [' '], rfl, rfl, rfl⟩,
      ⟨[' '], [], rfl, rfl, rfl⟩, ⟨['\u00a0'], [' '], rfl, rfl, rfl⟩, rfl⟩
  have hname : Spells ("name", "\"x\"") "name= \"\"x\"\n\"" :=
    ⟨"name", "\"x\"\n", " \"\"x\"\n\"", ⟨[], [], rfl, rfl, rfl⟩, ⟨[], ['\n'], rfl, rfl, rfl⟩,
      ⟨[' '], [], rfl, rfl, rfl⟩, rfl⟩
  have hblank : ∀ c ∈ [' '] ++ [' '] ++ [' '], isBlank c = true := by
    intro c hc
    obtain rfl : c = ' ' := by simpa using hc
    rfl
  have hmute : Mute " name = \" \" ".toList :=
    .noQuoted " name ".toList [' '] [' '] [' '] rfl (by decide) hblank
  obtain ⟨-, hspelled, -, hsilent⟩ := segments_stand_alone
  have hread := hspelled _ _ _ hd hperm (.cons hsum (.cons hname .nil))
  have hmark : ';' ∉ " name = \" \" ".toList := by decide +kernel
  obtain ⟨hempty, hanywhere⟩ := hsilent " name = \" \" " hmark
  obtain ⟨hbehind, -, -⟩ := hanywhere hmute
    (";".intercalate ["\tsum =\u00a0\" 1=2\" ", "name= \"\"x\"\n\""]) ""
  exact ⟨_, _, _, rfl, rfl, rfl, hd, hread, hmark, hmute, hempty.mpr hmute,
    hbehind.trans hread⟩

end AgentId.Fields
