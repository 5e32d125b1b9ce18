import DocFlow.Entries
import DocFlow.Json.Basic

/-!
# Fields that are read from members

The members of a JSON object are read one by one, each as belongs to its key, and give a field each
(`Entries.ReadFrom`).  So the fields have the keys of the members in their order (`ReadFrom.keys_eq`).
-/

namespace DocFlow.Entries

variable {α ε : Type} {read : String → Json → Except ε α} {members : Entries Json} {fields : Entries α}

/-- The fields are what the members are read as, one by one. -/
inductive ReadFrom (read : String → Json → Except ε α) : Entries Json → Entries α → Prop
  | nil : ReadFrom read [] []
  | cons {key : String} {j : Json} {a : α} {members : Entries Json} {fields : Entries α} (h : read key j = .ok a)
    (hrest : ReadFrom read members fields) : ReadFrom read ((key, j) :: members) ((key, a) :: fields)

theorem ReadFrom.keys_eq (h : ReadFrom read members fields) : fields.keys = members.keys := by
  induction h with
  | nil => rfl
  | @cons key _ _ _ _ _ _ ih => exact congrArg (key :: ·) ih

theorem ReadFrom.distinct (h : ReadFrom read members fields) (hd : members.Distinct) : fields.Distinct :=
  (congrArg List.Nodup h.keys_eq).mpr hd

theorem ReadFrom.exists_of_mem (h : ReadFrom read members fields) {key : String} {j : Json} (hm : (key, j) ∈ members) :
    ∃ a, (key, a) ∈ fields ∧ read key j = .ok a := by
  induction h with
  | nil => cases hm
  | @cons key' j' a members fields hread _ ih =>
    rcases List.mem_cons.1 hm with hm | hm
    · obtain ⟨rfl, rfl⟩ := Prod.mk.inj hm
      exact ⟨a, List.mem_cons_self, hread⟩
    · obtain ⟨b, hb, hread⟩ := ih hm
      exact ⟨b, List.mem_cons_of_mem _ hb, hread⟩

end DocFlow.Entries
