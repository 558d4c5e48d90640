/-
What the parameters of a routing hold.

A routing has one field for each known key, so what its parameters have for a key is read
off the field: the value without the white space around it, unless nothing is left
(`get?_params`).  There is nothing else in them (`of_get?_params`).
-/
import AgentId.Proofs.Dict
import AgentId.Uaid.Routing
import Mathlib.Data.List.Nodup

namespace AgentId

namespace Routing

open Uaid Text

/-- The entries that the parameters are written from. -/
def said (r : Routing) : List (String × String) :=
  r.pairs.filterMap fun (key, field) => ((field.map trimmed).filter (· ≠ "")).map (key, ·)

theorem mem_said {r : Routing} {key value : String} :
    (key, value) ∈ r.said ↔
      ∃ field, (key, field) ∈ r.pairs ∧ (field.map trimmed).filter (· ≠ "") = some value := by
  simp only [said, List.mem_filterMap, Option.map_eq_some_iff, Prod.exists, Prod.mk.injEq]
  constructor
  · rintro ⟨k, field, hmem, v, hv, rfl, rfl⟩
    exact ⟨field, hmem, hv⟩
  · rintro ⟨field, hmem, hv⟩
    exact ⟨key, field, hmem, value, hv, rfl, rfl⟩

/-- **A parameter is what the field of its key says.** -/
theorem get?_params (r : Routing) {key : String} {field : Option String}
    (h : (key, field) ∈ r.pairs) :
    r.params.get? key = (field.map trimmed).filter (· ≠ "") := by
  have nodup : (r.pairs.map Prod.fst).Nodup := by
    show Key.order.Nodup
    decide
  have single : ∀ k v v', (k, v) ∈ r.said → (k, v') ∈ r.said → v = v' := by
    intro k v v' h h'
    obtain ⟨field, hfield, hv⟩ := mem_said.mp h
    obtain ⟨field', hfield', hv'⟩ := mem_said.mp h'
    obtain ⟨-, rfl⟩ := Prod.mk.inj (List.inj_on_of_nodup_map nodup hfield hfield' rfl)
    exact Option.some.inj (hv.symm.trans hv')
  refine Option.ext fun value => ?_
  show (Dict.ofList r.said).get? key = some value ↔ _
  rw [Dict.get?_ofList_eq_some_iff single, mem_said]
  constructor
  · rintro ⟨field', hfield', hvalue⟩
    obtain ⟨-, rfl⟩ := Prod.mk.inj (List.inj_on_of_nodup_map nodup h hfield' rfl)
    exact hvalue
  · intro hvalue
    exact ⟨field, h, hvalue⟩

/-- A field that is left out, or blank. -/
def Silent (field : Option String) : Prop :=
  ∀ s, field = some s → trimmed s = ""

theorem get?_params_eq_some_iff {r : Routing} {key value : String} {field : Option String}
    (h : (key, field) ∈ r.pairs) :
    r.params.get? key = some value ↔ value ≠ "" ∧ ∃ s, field = some s ∧ trimmed s = value := by
  rw [r.get?_params h, Option.filter_eq_some_iff, decide_eq_true_eq, Option.map_eq_some_iff,
    and_comm]

theorem get?_params_eq_none_iff {r : Routing} {key : String} {field : Option String}
    (h : (key, field) ∈ r.pairs) : r.params.get? key = none ↔ Silent field := by
  rw [r.get?_params h, Option.filter_eq_none_iff]
  simp [Silent]

/-- Routing gives known parameters only, and none that says nothing. -/
theorem of_get?_params {r : Routing} {key value : String}
    (h : r.params.get? key = some value) : key ∈ Key.order ∧ value ≠ "" := by
  obtain ⟨field, hfield, hvalue⟩ := mem_said.mp (Dict.mem_of_get?_ofList h)
  have hkey : key ∈ r.pairs.map Prod.fst := List.mem_map.mpr ⟨_, hfield, rfl⟩
  exact ⟨hkey, of_decide_eq_true (Option.filter_eq_some_iff.mp hvalue).2⟩

end Routing

namespace Uaid

variable {u : Uaid} {routing : Routing} {key : String} {field : Option String}

/-- A parameter whose value says something. -/
theorem param?_eq_some_iff {value : String} :
    u.param? key = some value ↔ u.params.get? key = some value ∧ value ≠ "" := by
  rw [param?, Option.filter_eq_some_iff, decide_eq_true_eq]

/-- What the caller says of a key is what the identifier says of it. -/
theorem param?_of_said (hkey : (key, field) ∈ routing.pairs)
    (hparams : ∀ value, routing.params.get? key = some value → u.params.get? key = some value)
    {s : String} (given : field = some s) (said : Text.trimmed s ≠ "") :
    u.param? key = some (Text.trimmed s) := by
  refine param?_eq_some_iff.mpr ⟨hparams _ ?_, said⟩
  exact (Routing.get?_params_eq_some_iff hkey).mpr ⟨said, s, given, rfl⟩

end Uaid

end AgentId
