import DocFlow.Value.Basic

/-!
# Induction on values

What is proved of an array or a document may use that it holds of all the values in it
(`Value.induction`).  `Value.everywhere` says that a test succeeds on a value and on every value inside it,
at any depth.
-/

namespace DocFlow.Value

/-! ## Induction -/

section Induction

variable {motive : Value → Prop} (missing : motive missing) (null : motive null)
  (bool : ∀ b, motive (bool b)) (number : ∀ x, motive (number x)) (string : ∀ s, motive (string s))
  (timestamp : ∀ t, motive (timestamp t))
  (array : ∀ items, (∀ v ∈ items, motive v) → motive (array items))
  (document : ∀ fields, (∀ f ∈ fields, motive f.2) → motive (document fields))

include missing null bool number string timestamp array document

/-- Induction on values, where a container has the property if all that is in it does. -/
theorem induction : ∀ v, motive v
  | .missing => missing
  | .null => null
  | .bool b => bool b
  | .number x => number x
  | .string s => string s
  | .timestamp t => timestamp t
  | .array items => array items fun v _ => induction v
  | .document fields => document fields fun f _ => induction f.2
termination_by v => sizeOf v
decreasing_by
  · have := List.sizeOf_lt_of_mem ‹v ∈ items›
    simp only [Value.array.sizeOf_spec]
    omega
  · have := List.sizeOf_lt_of_mem ‹f ∈ fields›
    obtain ⟨k, v⟩ := f
    simp only [Value.document.sizeOf_spec, Prod.mk.sizeOf_spec] at *
    omega

end Induction

/-! ## Tests of all that is inside -/

section Everywhere

variable (test : Value → Bool)

mutual

/-- The test succeeds on the value and on every value inside it. -/
def everywhere : Value → Bool
  | array items => test (array items) && everywhereItems items
  | document fields => test (document fields) && everywhereFields fields
  | v => test v

def everywhereItems : List Value → Bool
  | [] => true
  | v :: vs => everywhere v && everywhereItems vs

def everywhereFields : List (String × Value) → Bool
  | [] => true
  | (_, v) :: fs => everywhere v && everywhereFields fs

end

variable {test}

theorem everywhereItems_iff {items : List Value} :
    everywhereItems test items = true ↔ ∀ v ∈ items, v.everywhere test = true := by
  induction items with
  | nil => simp [everywhereItems]
  | cons v vs ih => simp [everywhereItems, ih]

theorem everywhereFields_iff {fields : List (String × Value)} :
    everywhereFields test fields = true ↔ ∀ f ∈ fields, f.2.everywhere test = true := by
  induction fields with
  | nil => simp [everywhereFields]
  | cons f fs ih => simp [everywhereFields, ih]

theorem everywhere_array_iff {items : List Value} : (array items).everywhere test = true ↔
    test (array items) = true ∧ ∀ v ∈ items, v.everywhere test = true := by
  rw [everywhere, Bool.and_eq_true, everywhereItems_iff]

theorem everywhere_document_iff {fields : List (String × Value)} :
    (document fields).everywhere test = true ↔
      test (document fields) = true ∧ ∀ f ∈ fields, f.2.everywhere test = true := by
  rw [everywhere, Bool.and_eq_true, everywhereFields_iff]

end Everywhere

end DocFlow.Value
