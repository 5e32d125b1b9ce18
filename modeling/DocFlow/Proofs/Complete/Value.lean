import DocFlow.Document.Json
import DocFlow.Proofs.Value.Everywhere

/-!
# Values in which nothing is missing

A value is complete if `missing` is nowhere in it, at any depth, and tidy if it is complete or missing as a whole
(`Value.Complete`, `Value.Tidy`).  Reading a complete document at a path gives a tidy value, because what is missing
is left out of the arrays on the way (`Document.Complete.get`); writing and deleting keep a document complete; and
what is read from JSON is complete (`Value.complete_ofJson`).
-/

namespace DocFlow

namespace Value

/-! ## Complete values -/

/-- `missing` is nowhere in the value. -/
def Complete (v : Value) : Prop := v.everywhere (!·.isMissing) = true

/-- The value is missing as a whole, or complete. -/
def Tidy (v : Value) : Prop := v = missing ∨ v.Complete

instance (v : Value) : Decidable v.Complete := inferInstanceAs (Decidable (_ = true))

theorem complete_array_iff {items : List Value} : (array items).Complete ↔ ∀ v ∈ items, v.Complete := by
  have hthere : (array items).isMissing = false := rfl
  simp [Complete, everywhere_array_iff, hthere]

theorem complete_document_iff {fields : List (String × Value)} :
    (document fields).Complete ↔ ∀ f ∈ fields, f.2.Complete := by
  have hthere : (document fields).isMissing = false := rfl
  simp [Complete, everywhere_document_iff, hthere]

theorem Complete.ne_missing {v : Value} (h : v.Complete) : v ≠ missing := by
  rintro rfl
  cases h

theorem tidy_missing : Tidy missing := .inl rfl

theorem Tidy.complete {v : Value} (h : v.Tidy) (hv : v ≠ missing) : v.Complete := h.resolve_left hv

/-- A tidy value in which `missing` becomes null is complete. -/
theorem Tidy.orNull {v : Value} (h : v.Tidy) : v.orNull.Complete := by
  rcases h with rfl | h
  · rfl
  · cases v with
    | missing => exact absurd rfl h.ne_missing
    | _ => exact h

/-- A value that is no container is tidy. -/
theorem tidy_of_kind {v : Value} (harray : v.kind ≠ .array) (hdocument : v.kind ≠ .document) : v.Tidy := by
  cases v with
  | missing => exact .inl rfl
  | array items => exact absurd rfl harray
  | document fields => exact absurd rfl hdocument
  | _ => exact .inr rfl

end Value

/-! ## Complete fields -/

namespace Fields

def Complete (fields : Entries Value) : Prop := ∀ f ∈ fields, f.2.Complete

variable {fields : Entries Value} {key : String} {v : Value}

theorem complete_nil : Complete [] := nofun

theorem Complete.put (h : Complete fields) (hv : v.Complete) : Complete (Entries.put key v fields) :=
  Entries.forall_mem_put hv h

theorem Complete.erase (h : Complete fields) : Complete (Entries.erase key fields) := Entries.forall_mem_erase h

theorem Complete.get? (h : Complete fields) (hv : Entries.get? key fields = some v) : v.Complete :=
  h _ (Entries.mem_of_get? hv)

theorem Complete.inside (h : Complete fields) : Complete (inside key fields) := by
  unfold Fields.inside
  split
  · rename_i hinner
    exact Value.complete_document_iff.1 (h.get? hinner)
  · exact complete_nil

theorem complete_documents {items : List Value} (h : ∀ v ∈ items, v.Complete) :
    ∀ inner ∈ documents items, Complete inner := by
  induction items with
  | nil => exact nofun
  | cons v vs ih =>
    obtain ⟨hv, hvs⟩ := List.forall_mem_cons.1 h
    cases v with
    | document inner => exact List.forall_mem_cons.2 ⟨Value.complete_document_iff.1 hv, ih hvs⟩
    | _ => exact ih hvs

/-- Reading at a path gives a tidy value: what is missing in an array is left out. -/
theorem Complete.resolve {rest : List String} (h : Complete fields) : (resolve fields key rest).Tidy := by
  induction rest generalizing fields key with
  | nil =>
    unfold Fields.resolve
    cases hv : Entries.get? key fields with
    | none => exact .inl rfl
    | some v => exact .inr (h.get? hv)
  | cons next rest ih =>
    unfold Fields.resolve
    split
    · rename_i hinner
      exact ih (Value.complete_document_iff.1 (h.get? hinner))
    · rename_i items hitems
      have hinner := complete_documents (Value.complete_array_iff.1 (h.get? hitems))
      refine .inr (Value.complete_array_iff.2 fun v hv => ?_)
      obtain ⟨hv, hthere⟩ := List.mem_filter.1 hv
      obtain ⟨inner, hmem, rfl⟩ := List.mem_map.1 hv
      refine (ih (hinner inner hmem)).complete fun hmissing => ?_
      rw [hmissing] at hthere
      cases hthere
    · exact .inl rfl

theorem Complete.assign {rest : List String} (h : Complete fields) (hv : v.Complete) :
    Complete (assign fields key v rest) := by
  induction rest generalizing fields key with
  | nil => exact h.put hv
  | cons next rest ih => exact h.put (Value.complete_document_iff.2 (ih h.inside))

theorem Complete.delete {rest : List String} (h : Complete fields) : Complete (delete fields key rest) := by
  induction rest generalizing fields key with
  | nil => exact h.erase
  | cons next rest ih =>
    unfold Fields.delete
    split
    · rename_i hinner
      exact h.put (Value.complete_document_iff.2 (ih (Value.complete_document_iff.1 (h.get? hinner))))
    · exact h

end Fields

/-! ## Complete documents -/

namespace Document

/-- `missing` is nowhere in the document. -/
def Complete (d : Document) : Prop := Fields.Complete d.fields

instance (d : Document) : Decidable d.Complete := inferInstanceAs (Decidable (∀ f ∈ d.fields, f.2.Complete))

variable {d : Document} {p : Path} {v : Value}

theorem Complete.get (h : d.Complete) : (d.get p).Tidy := Fields.Complete.resolve h

theorem Complete.insert {key : String} (h : d.Complete) (hv : v.Complete) : (d.insert key v).Complete :=
  Fields.Complete.put h hv

theorem Complete.delete (h : d.Complete) : (d.delete p).Complete := Fields.Complete.delete h

/-- Setting a tidy value keeps a document complete; what is missing is deleted. -/
theorem Complete.set (h : d.Complete) (hv : v.Tidy) : (d.set p v).Complete := by
  unfold Document.set
  split
  · exact h.delete
  · rename_i hmissing
    exact Fields.Complete.assign h (hv.complete hmissing)

end Document

/-! ## Values from JSON -/

namespace Value

mutual

theorem complete_ofJson (j : Json) : (ofJson j).Complete := by
  cases j with
  | array items => exact complete_array_iff.2 (complete_ofItems items)
  | object members => exact complete_document_iff.2 (complete_ofMembers members)
  | _ => rfl

theorem complete_ofItems (items : List Json) : ∀ v ∈ ofItems items, v.Complete := by
  cases items with
  | nil => exact nofun
  | cons j js => exact List.forall_mem_cons.2 ⟨complete_ofJson j, complete_ofItems js⟩

theorem complete_ofMembers (members : List (String × Json)) : ∀ f ∈ ofMembers members, f.2.Complete := by
  match members with
  | [] => exact nofun
  | (_, j) :: js => exact List.forall_mem_cons.2 ⟨complete_ofJson j, complete_ofMembers js⟩

end

end Value

/-- A document that a JSON object writes is complete. -/
theorem Document.complete_ofJson {j : Json} {d : Document} (h : Document.ofJson j = .ok d) : d.Complete := by
  unfold Document.ofJson Document.ofValue at h
  split at h
  · rename_i d' hd
    obtain rfl := Except.ok.inj h
    unfold Document.ofValue? at hd
    split at hd
    · rename_i hj
      obtain rfl := Option.some.inj hd
      exact Value.complete_document_iff.1 (hj ▸ Value.complete_ofJson j)
    · cases hd
  · cases h

end DocFlow
