/-!
# Entries

A list of keyed values in insertion order: the members of a JSON object and the fields of a
document.  Looking up finds the first entry of a key, `put` keeps the place of a key that is there
and appends a new one, `erase` keeps the order of what stays.  Entries in use hold each key once
(`Distinct`), which `put`, `erase` and `ofList` keep.
-/

namespace DocFlow

/-- Keyed values in insertion order. -/
abbrev Entries (α : Type) := List (String × α)

namespace Entries

variable {α : Type}

/-- The value of the first entry with the key `k`. -/
def get? (k : String) : Entries α → Option α
  | [] => none
  | (k', v) :: es => if k' = k then some v else get? k es

/-- The entries with `v` at the key `k`: in the place of the old entry, or at the end. -/
def put (k : String) (v : α) : Entries α → Entries α
  | [] => [(k, v)]
  | (k', v') :: es => if k' = k then (k, v) :: es else (k', v') :: put k v es

def erase (k : String) (es : Entries α) : Entries α := es.filter fun e => e.1 ≠ k

def hasKey (k : String) (es : Entries α) : Bool := es.any fun e => e.1 = k

/-- The entries with `v` at the end under the key `k`, unless the key is there. -/
def addNew (k : String) (v : α) (es : Entries α) : Entries α :=
  if hasKey k es then es else es ++ [(k, v)]

def keys (es : Entries α) : List String := es.map Prod.fst

def values (es : Entries α) : List α := es.map Prod.snd

/-- The entries of a list, put one after the other. -/
def ofList (es : List (String × α)) : Entries α := es.foldl (fun acc e => put e.1 e.2 acc) []

/-- Each key occurs once. -/
def Distinct (es : Entries α) : Prop := (keys es).Nodup

instance (es : Entries α) : Decidable (Distinct es) := inferInstanceAs (Decidable (keys es).Nodup)

/-! ## Looking up after a change -/

@[simp] theorem get?_nil (k : String) : get? k ([] : Entries α) = none := rfl

@[simp] theorem get?_put_self (k : String) (v : α) (es : Entries α) : get? k (put k v es) = some v := by
  induction es with
  | nil => simp [put, get?]
  | cons e es ih => by_cases h : e.1 = k <;> simp [put, get?, h, ih]

theorem get?_put_of_ne {k k' : String} (h : k ≠ k') (v : α) (es : Entries α) :
    get? k' (put k v es) = get? k' es := by
  induction es with
  | nil => simp [put, get?, h]
  | cons e es ih =>
    by_cases hk : e.1 = k
    · simp [put, get?, hk, h]
    · by_cases hk' : e.1 = k' <;> simp [put, get?, hk, hk', ih, Ne.symm h]

@[simp] theorem put_put (k : String) (v w : α) (es : Entries α) : put k w (put k v es) = put k w es := by
  induction es with
  | nil => simp [put]
  | cons e es ih => by_cases h : e.1 = k <;> simp [put, h, ih]

theorem put_of_get? {k : String} {v : α} {es : Entries α} (h : get? k es = some v) : put k v es = es := by
  induction es with
  | nil => cases h
  | cons e es ih =>
    obtain ⟨k', w⟩ := e
    by_cases hk : k' = k <;> simp_all [put, get?]

@[simp] theorem get?_erase_self (k : String) (es : Entries α) : get? k (erase k es) = none := by
  induction es with
  | nil => rfl
  | cons e es ih => by_cases h : e.1 = k <;> simp_all [erase, get?]

theorem get?_erase_of_ne {k k' : String} (h : k ≠ k') (es : Entries α) :
    get? k' (erase k es) = get? k' es := by
  induction es with
  | nil => rfl
  | cons e es ih =>
    by_cases hk : e.1 = k
    · have : e.1 ≠ k' := hk ▸ h
      simp_all [erase, get?]
    · by_cases hk' : e.1 = k' <;> simp_all [erase, get?]

/-! ## Changes at two keys -/

@[simp] theorem erase_put_self (k : String) (v : α) (es : Entries α) : erase k (put k v es) = erase k es := by
  induction es with
  | nil => simp [put, erase]
  | cons e es ih => by_cases h : e.1 = k <;> simp_all [put, erase]

theorem erase_put_of_ne {k k' : String} (h : k ≠ k') (v : α) (es : Entries α) :
    erase k (put k' v es) = put k' v (erase k es) := by
  induction es with
  | nil => simp [put, erase, Ne.symm h]
  | cons e es ih =>
    by_cases hk : e.1 = k
    · have hk' : e.1 ≠ k' := hk ▸ h
      simp_all [put, erase]
    · by_cases hk' : e.1 = k' <;> simp_all [put, erase, Ne.symm h]

theorem erase_comm (k k' : String) (es : Entries α) : erase k (erase k' es) = erase k' (erase k es) := by
  simp only [erase, List.filter_filter, Bool.and_comm]

/-- Putting at a key that is there and at another key can be exchanged. -/
theorem put_comm {k k' : String} (h : k ≠ k') (v v' : α) {es : Entries α} (hk : (get? k es).isSome) :
    put k' v' (put k v es) = put k v (put k' v' es) := by
  induction es with
  | nil => cases hk
  | cons e es ih =>
    by_cases he : e.1 = k
    · have he' : e.1 ≠ k' := he ▸ h
      simp [put, he, h]
    · simp only [get?, he, if_false] at hk
      by_cases he' : e.1 = k' <;> simp [put, he, he', h.symm, ih hk]

theorem keys_put_of_get? {k : String} (v : α) {es : Entries α} (hk : (get? k es).isSome) :
    keys (put k v es) = keys es := by
  induction es with
  | nil => cases hk
  | cons e es ih =>
    by_cases he : e.1 = k
    · simp [put, keys, he]
    · simp only [get?, he, if_false] at hk
      simp only [put, he, if_false, keys, List.map_cons] at ih ⊢
      rw [ih hk]

theorem keys_erase_sublist (k : String) (es : Entries α) : (keys (erase k es)).Sublist (keys es) :=
  List.filter_sublist.map Prod.fst

/-! ## Distinct keys -/

theorem mem_keys_put {j k : String} {v : α} {es : Entries α} :
    j ∈ keys (put k v es) ↔ j = k ∨ j ∈ keys es := by
  induction es with
  | nil => simp [put, keys]
  | cons e es ih =>
    by_cases h : e.1 = k
    · simp [put, keys, h]
    · simp only [keys] at ih
      simp only [put, h, if_false, keys, List.map_cons, List.mem_cons, ih, or_left_comm]

theorem get?_eq_none_iff {k : String} {es : Entries α} : get? k es = none ↔ k ∉ keys es := by
  induction es with
  | nil => simp [keys]
  | cons e es ih =>
    by_cases h : e.1 = k
    · simp [get?, keys, h]
    · simp only [keys] at ih
      simp [get?, keys, h, ih, Ne.symm h]

theorem get?_eq_some_of_mem {k : String} {v : α} {es : Entries α} (h : Distinct es)
    (hmem : (k, v) ∈ es) : get? k es = some v := by
  induction es with
  | nil => cases hmem
  | cons e es ih =>
    obtain ⟨he, hes⟩ := List.nodup_cons.1 h
    rcases List.mem_cons.1 hmem with rfl | hmem
    · simp [get?]
    · have hne : e.1 ≠ k := fun hk => he (hk ▸ List.mem_map_of_mem hmem)
      simp only [get?, hne, if_false]
      exact ih hes hmem

theorem mem_of_get? {k : String} {v : α} {es : Entries α} (h : get? k es = some v) : (k, v) ∈ es := by
  induction es with
  | nil => cases h
  | cons e es ih =>
    obtain ⟨k', v'⟩ := e
    by_cases hk : k' = k
    · simp only [get?, hk, if_true, Option.some.injEq] at h
      simp [hk, h]
    · simp only [get?, hk, if_false] at h
      exact List.mem_cons_of_mem _ (ih h)

theorem get?_eq_some_iff {k : String} {v : α} {es : Entries α} (h : Distinct es) : get? k es = some v ↔ (k, v) ∈ es :=
  ⟨mem_of_get?, get?_eq_some_of_mem h⟩

theorem distinct_put {k : String} {v : α} {es : Entries α} (h : Distinct es) :
    Distinct (put k v es) := by
  induction es with
  | nil => simp [put, keys, Distinct]
  | cons e es ih =>
    obtain ⟨he, hes⟩ := List.nodup_cons.1 h
    by_cases hk : e.1 = k
    · simpa [put, hk, keys, Distinct] using h
    · simp only [put, hk, if_false]
      refine List.nodup_cons.2 ⟨fun hmem => ?_, ih hes⟩
      exact (mem_keys_put.1 hmem).elim hk he

theorem distinct_erase {k : String} {es : Entries α} (h : Distinct es) : Distinct (erase k es) :=
  h.sublist (keys_erase_sublist k es)

theorem distinct_ofList (es : List (String × α)) : Distinct (ofList es) := by
  suffices ∀ acc : Entries α, Distinct acc → Distinct (es.foldl (fun acc e => put e.1 e.2 acc) acc) from
    this [] List.nodup_nil
  induction es with
  | nil => exact fun _ h => h
  | cons e es ih => exact fun acc h => ih _ (distinct_put h)

theorem put_of_not_mem {k : String} {es : Entries α} (h : k ∉ keys es) (v : α) : put k v es = es ++ [(k, v)] := by
  induction es with
  | nil => rfl
  | cons e es ih =>
    obtain ⟨hk, hes⟩ := not_or.1 (mt List.mem_cons.2 h)
    rw [put, if_neg (Ne.symm hk), ih hes, List.cons_append]

/-- Entries that hold each key once stay as they are. -/
theorem ofList_of_distinct {es : List (String × α)} (h : Distinct es) : ofList es = es := by
  suffices ∀ acc : Entries α, Distinct (acc ++ es) → es.foldl (fun acc e => put e.1 e.2 acc) acc = acc ++ es from
    this [] h
  clear h
  induction es with
  | nil => simp
  | cons e es ih =>
    intro acc hacc
    have hfresh : e.1 ∉ keys acc := by
      rw [Distinct, keys, List.map_append] at hacc
      exact fun hmem => (List.nodup_append.1 hacc).2.2 _ hmem e.1 (by simp) rfl
    rw [List.append_cons] at hacc ⊢
    rw [List.foldl_cons, put_of_not_mem hfresh]
    exact ih (acc ++ [e]) hacc

/-! ## What holds of all values -/

section Values

variable {P : α → Prop} {k : String} {es : Entries α}

/-- What holds of the values holds of them after one more is put in. -/
theorem forall_mem_put {v : α} (hv : P v) (hes : ∀ e ∈ es, P e.2) : ∀ e ∈ put k v es, P e.2 := by
  induction es with
  | nil => simpa [put] using hv
  | cons e es ih =>
    obtain ⟨he, hes⟩ := List.forall_mem_cons.1 hes
    by_cases hk : e.1 = k
    · simp only [put, hk, if_true]
      exact List.forall_mem_cons.2 ⟨hv, hes⟩
    · simp only [put, hk, if_false]
      exact List.forall_mem_cons.2 ⟨he, ih hes⟩

theorem forall_mem_erase (hes : ∀ e ∈ es, P e.2) : ∀ e ∈ erase k es, P e.2 := fun e he =>
  hes e (List.mem_filter.1 he).1

theorem forall_mem_ofList (hes : ∀ e ∈ es, P e.2) : ∀ e ∈ ofList es, P e.2 := by
  suffices ∀ acc : Entries α, (∀ e ∈ acc, P e.2) → ∀ e ∈ es.foldl (fun acc e => put e.1 e.2 acc) acc, P e.2 from
    this [] nofun
  induction es with
  | nil => exact fun _ h => h
  | cons e es ih =>
    obtain ⟨he, hes⟩ := List.forall_mem_cons.1 hes
    exact fun acc hacc => ih hes _ (forall_mem_put he hacc)

end Values

end Entries

end DocFlow
