import DocFlow.Group.Basic
import DocFlow.Proofs.Json.Members
import DocFlow.Proofs.Outcome

/-!
# Accumulators that are read

The accumulators of fields are read from members one by one, each in the scope that belongs to its key
(`Accumulator.readFrom_of_parseMembers`).  In the specification of a group these are the members other than `_id`
(`Grouping.readFrom_of_parse`).
-/

namespace DocFlow

namespace Accumulator

variable {ctx : Context} {scope : Scope} {scopeOf : String → Scope} {members : Entries Json}
  {fields : List (String × Accumulator)} {a : Accumulator}

theorem readFrom_of_parseMembers (h : parseMembers scopeOf ctx members = .ok fields) :
    members.ReadFrom (fun key => parse (scopeOf key) ctx) fields := by
  induction members generalizing fields with
  | nil =>
    obtain rfl := Except.ok.inj h
    exact .nil
  | cons m members ih =>
    obtain ⟨a, ha, h⟩ := Except.bind_eq_ok.1 h
    obtain ⟨rest, hrest, h⟩ := Except.bind_eq_ok.1 h
    obtain rfl := Except.ok.inj h
    exact .cons ha (ih hrest)

/-- An accumulator is read from an object, of an operator or of further accumulators. -/
theorem parse_cases {j : Json} (h : parse scope ctx j = .ok a) :
    ∃ members : Entries Json, j = .object members ∧ ((singleOperator? members).isSome = true ∨
      singleOperator? members = none ∧ ∃ fields, a = .object fields ∧
        members.ReadFrom (fun _ => parse scope ctx) fields) := by
  unfold parse at h
  split at h
  · rename_i members
    refine ⟨members, rfl, ?_⟩
    split at h
    · rename_i hoperator
      exact .inl (hoperator ▸ rfl)
    · rename_i hoperator
      split at h
      · obtain ⟨fields, hfields, h⟩ := Except.bind_eq_ok.1 h
        exact .inr ⟨hoperator, fields, (Except.ok.inj h).symm, readFrom_of_parseMembers hfields⟩
      · cases h
  · cases h

end Accumulator

namespace Grouping

variable {ctx : Context} {g : Grouping} {j : Json}

theorem readFrom_of_parse (h : parse ctx j = .ok g) :
    ∃ members, j = .object members ∧
      (Entries.erase "_id" members).ReadFrom (fun key => Accumulator.parse (scopeOf key) ctx) g.fields := by
  unfold parse at h
  split at h
  · rename_i members
    split at h
    · cases h
    · obtain ⟨key, -, h⟩ := Except.bind_eq_ok.1 h
      obtain ⟨fields, hfields, h⟩ := Except.bind_eq_ok.1 h
      obtain rfl := Except.ok.inj h
      exact ⟨members, rfl, Accumulator.readFrom_of_parseMembers hfields⟩
  · cases h

/-- The key of a group has a field of its own. -/
theorem ne_id_of_parse (h : parse ctx j = .ok g) : ∀ f ∈ g.fields, f.1 ≠ "_id" := by
  obtain ⟨members, -, hread⟩ := readFrom_of_parse h
  have hid : "_id" ∉ Entries.keys g.fields := by
    rw [hread.keys_eq]
    exact Entries.get?_eq_none_iff.1 (Entries.get?_erase_self "_id" members)
  intro f hf hkey
  exact hid (hkey ▸ List.mem_map_of_mem hf)

end Grouping

end DocFlow
