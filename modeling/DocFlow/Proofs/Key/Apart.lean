import DocFlow.Proofs.Calendar.Instant
import DocFlow.Proofs.Key.Separated
import DocFlow.Proofs.Key.Sorted
import DocFlow.Proofs.Value.Everywhere

/-!
# What a canonical key shows

The key of a value shows its kind (`kindOfKey_keyChars`) and where it ends, whatever follows
(`apart_keyChars`).  So the key of an array shows the keys of its items, and the key of a document its sorted
fields.
-/

namespace DocFlow.Value

/-! ## The parts of a key -/

theorem keyChars_number (x : Float) : (number x).keyChars = numberKey x := rfl

theorem keyChars_array (items : List Value) :
    (array items).keyChars = '[' :: commaSeparated (itemKeys items) ++ [']'] := rfl

theorem keyChars_document (fields : List (String × Value)) : (document fields).keyChars =
    '\x7b' :: commaSeparated (sortedFieldTexts (fieldKeys fields)) ++ ['\x7d'] := rfl

/-! ## The kind that a key shows -/

/-- The kind of the value that a text beginning with its key is of. -/
def kindOfKey : List Char → Kind
  | 'u' :: _ => .missing
  | 'n' :: 'u' :: 'l' :: _ => .null
  | 't' :: 's' :: _ => .timestamp
  | 't' :: _ => .bool
  | 'f' :: _ => .bool
  | '"' :: _ => .string
  | '[' :: _ => .array
  | '\x7b' :: _ => .document
  | _ => .number

theorem kindOfKey_numeral {c : Char} (hc : c.isDigit = true ∨ c = '-') (cs : List Char) :
    kindOfKey (c :: cs) = .number := by
  unfold kindOfKey
  split
  case h_9 => rfl
  all_goals
    rename_i h
    cases h
    rcases hc with hc | hc <;> cases hc

theorem kindOfKey_num (cs : List Char) : kindOfKey ('n' :: 'u' :: 'm' :: cs) = .number := rfl

/-- The key of a number begins with a digit or a minus, or with the mark of what is not finite. -/
theorem numberKey_cases (x : Float) : (∃ cs, numberKey x = 'n' :: 'u' :: 'm' :: cs) ∨
    ∃ c cs, numberKey x = c :: cs ∧ (c.isDigit = true ∨ c = '-') := by
  rw [Number.numberKey_eq]
  match Number.view x with
  | .nan => exact .inl ⟨_, rfl⟩
  | .infinite negative => cases negative <;> exact .inl ⟨_, rfl⟩
  | .finite negative m q => exact .inr (Number.exists_finiteKey_eq_cons negative m q)

/-- The key of a value shows its kind. -/
theorem kindOfKey_keyChars (v : Value) (r : List Char) : kindOfKey (v.keyChars ++ r) = v.kind := by
  cases v with
  | bool b => cases b <;> rfl
  | number x =>
    rw [keyChars_number]
    rcases numberKey_cases x with ⟨cs, hkey⟩ | ⟨c, cs, hkey, hc⟩ <;> rw [hkey]
    · exact kindOfKey_num _
    · exact kindOfKey_numeral hc _
  | _ => rfl

theorem kind_eq_of_append {a b : Value} {r r' : List Char} (h : a.keyChars ++ r = b.keyChars ++ r') :
    a.kind = b.kind := by
  rw [← kindOfKey_keyChars a r, h, kindOfKey_keyChars]

theorem kind_eq_of_keyChars_eq {a b : Value} (h : a.keyChars = b.keyChars) : a.kind = b.kind :=
  kind_eq_of_append (congrArg (· ++ []) h)

/-! ## Where a key ends -/

theorem isWord_numberKey (x : Float) : IsWord (numberKey x) := by
  rw [Number.numberKey_eq]
  match Number.view x with
  | .nan => exact isWord_of_any rfl
  | .infinite negative => cases negative <;> exact isWord_of_any rfl
  | .finite negative m q =>
    intro c hc
    have hc := Number.isNumeral_of_mem_finiteKey c hc
    simp only [Number.isNumeral, Bool.or_eq_true, decide_eq_true_eq] at hc
    rcases hc with (((hc | rfl) | rfl) | rfl) | rfl
    · exact isDelimiter_of_isDigit hc
    all_goals rfl

theorem isWord_padded (width n : Nat) : IsWord (Calendar.padded width n) := fun c hc =>
  isDelimiter_of_isDigit (Calendar.isDigit_of_mem_padded c hc)

theorem isWord_instant (t : Calendar.Instant) : IsWord t.chars := by
  have hyear (y : Int) : IsWord (Calendar.yearText y) := by
    unfold Calendar.yearText
    split
    · exact isWord_padded _ _
    · refine List.forall_mem_cons.2 ⟨?_, isWord_padded _ _⟩
      split <;> rfl
  have hfraction (n : Nat) : IsWord (Calendar.fractionText n) := by
    have hpoint (width n : Nat) : IsWord ('.' :: Calendar.padded width n) :=
      List.forall_mem_cons.2 ⟨rfl, isWord_padded _ _⟩
    unfold Calendar.fractionText
    split
    · exact nofun
    · split
      · exact hpoint _ _
      · split <;> exact hpoint _ _
  have hmarks : isDelimiter '-' = false ∧ isDelimiter 'T' = false ∧ isDelimiter ':' = false ∧
    isDelimiter 'Z' = false := ⟨rfl, rfl, rfl, rfl⟩
  unfold IsWord at *
  unfold Calendar.Instant.chars
  simp only [List.forall_mem_append, List.forall_mem_cons, hmarks, true_and]
  exact ⟨⟨⟨⟨⟨⟨⟨hyear _, isWord_padded _ _⟩, isWord_padded _ _⟩, isWord_padded _ _⟩, isWord_padded _ _⟩,
    isWord_padded _ _⟩, hfraction _⟩, nofun⟩

/-- The keys of values that are no containers and no texts are words. -/
theorem isWord_keyChars {v : Value} (h : v.kind ≠ .string ∧ v.kind ≠ .array ∧ v.kind ≠ .document) :
    IsWord v.keyChars := by
  cases v with
  | missing => exact isWord_of_any rfl
  | null => exact isWord_of_any rfl
  | bool b => cases b <;> exact isWord_of_any rfl
  | number x => exact isWord_numberKey x
  | timestamp t =>
    have hmark : IsWord "ts:".toList := isWord_of_any rfl
    exact List.forall_mem_append.2 ⟨hmark, isWord_instant t⟩
  | string s => simp [kind] at h
  | array items => simp [kind] at h
  | document fields => simp [kind] at h

theorem starts_keyChars (v : Value) : Starts v.keyChars := by
  cases v with
  | bool b => cases b <;> exact starts_cons rfl _
  | number x =>
    rw [keyChars_number]
    rcases numberKey_cases x with ⟨cs, hkey⟩ | ⟨c, cs, hkey, hc⟩ <;> rw [hkey]
    · exact starts_cons rfl _
    · exact starts_cons (hc.elim isDelimiter_of_isDigit fun hc => hc ▸ rfl) _
  | _ => exact starts_cons rfl _

/-! ## Containers -/

theorem itemKeys_eq (items : List Value) : itemKeys items = items.map keyChars := by
  induction items with
  | nil => rfl
  | cons v vs ih => rw [itemKeys, ih, List.map_cons]

theorem fieldKeys_eq (fields : List (String × Value)) :
    fieldKeys fields = (fields.filter (!·.2.isMissing)).map fun f => (f.1, f.2.keyChars) := by
  induction fields with
  | nil => rfl
  | cons f fs ih =>
    obtain ⟨k, v⟩ := f
    cases v <;> simp [fieldKeys, isMissing, ih]

/-- The fields that are there with the keys of their values, sorted. -/
def sortedFields (fields : List (String × Value)) : List (String × List Char) :=
  (fieldKeys fields).mergeSort keyLe

theorem keyChars_array_append (items : List Value) (r : List Char) :
    (array items).keyChars ++ r = '[' :: (commaSeparated (items.map keyChars) ++ ']' :: r) := by
  rw [keyChars_array, itemKeys_eq]
  simp

theorem keyChars_document_append (fields : List (String × Value)) (r : List Char) :
    (document fields).keyChars ++ r =
      '\x7b' :: (commaSeparated ((sortedFields fields).map fieldText) ++ '\x7d' :: r) := by
  have htexts : sortedFieldTexts (fieldKeys fields) = (sortedFields fields).map fieldText := rfl
  rw [keyChars_document, htexts]
  simp

theorem exists_of_mem_sortedFields {fields : List (String × Value)} {f : String × List Char}
    (h : f ∈ sortedFields fields) : ∃ g ∈ fields, f = (g.1, g.2.keyChars) := by
  have h := (List.mergeSort_perm _ _).mem_iff.1 h
  rw [fieldKeys_eq] at h
  obtain ⟨g, hg, rfl⟩ := List.mem_map.1 h
  exact ⟨g, (List.mem_filter.1 hg).1, rfl⟩

section Containers

variable {as bs : List Value} {fs gs : List (String × Value)} {r r' : List Char}

/-- If the keys of items can be told apart, those of arrays show the keys of their items. -/
theorem map_keyChars_of_append (hapart : ∀ a ∈ as, ∀ b ∈ bs, Apart a.keyChars b.keyChars)
    (h : (array as).keyChars ++ r = (array bs).keyChars ++ r') : as.map keyChars = bs.map keyChars := by
  rw [keyChars_array_append, keyChars_array_append] at h
  have hstarts (items : List Value) : ∀ t ∈ items.map keyChars, Starts t := by
    simp only [List.forall_mem_map]
    exact fun v _ => starts_keyChars v
  have hapart : ∀ t ∈ as.map keyChars, ∀ t' ∈ bs.map keyChars, Apart t t' := by
    simpa only [List.forall_mem_map] using hapart
  exact (commaSeparated_append_inj rfl (by decide) (hstarts as) (hstarts bs) hapart (List.cons.inj h).2).1

/-- If the keys of values can be told apart, those of documents show their sorted fields. -/
theorem sortedFields_eq_of_append (hapart : ∀ f ∈ fs, ∀ g ∈ gs, Apart f.2.keyChars g.2.keyChars)
    (h : (document fs).keyChars ++ r = (document gs).keyChars ++ r') : sortedFields fs = sortedFields gs := by
  rw [keyChars_document_append, keyChars_document_append] at h
  have hstarts (fields : List (String × Value)) : ∀ t ∈ (sortedFields fields).map fieldText, Starts t := by
    simp only [List.forall_mem_map]
    exact fun f _ => starts_fieldText f
  have hapart : ∀ t ∈ (sortedFields fs).map fieldText, ∀ t' ∈ (sortedFields gs).map fieldText, Apart t t' := by
    simp only [List.forall_mem_map]
    intro f hf g hg
    obtain ⟨f, hf', rfl⟩ := exists_of_mem_sortedFields hf
    obtain ⟨g, hg', rfl⟩ := exists_of_mem_sortedFields hg
    exact apart_fieldText (hapart f hf' g hg')
  have htexts := commaSeparated_append_inj rfl (by decide) (hstarts fs) (hstarts gs) hapart (List.cons.inj h).2
  exact List.map_injective_iff.2 (fun _ _ => fieldText_inj) htexts.1

theorem keyChars_document_of_sortedFields (h : sortedFields fs = sortedFields gs) :
    (document fs).keyChars = (document gs).keyChars :=
  congrArg (fun fields : List (String × List Char) =>
    '\x7b' :: commaSeparated (fields.map fieldText) ++ ['\x7d']) h

theorem keyChars_array_of_map (h : as.map keyChars = bs.map keyChars) :
    (array as).keyChars = (array bs).keyChars := by
  rw [keyChars_array, keyChars_array, itemKeys_eq, itemKeys_eq, h]

/-- A key shows where it ends, whatever the value is. -/
theorem apart_keyChars (a b : Value) : Apart a.keyChars b.keyChars := by
  induction a using induction generalizing b with
  | array as ih =>
    intro r r' hr hr' h
    have hkind := kind_eq_of_append h
    cases b with
    | array bs => exact keyChars_array_of_map (map_keyChars_of_append (fun a ha b _ => ih a ha b) h)
    | _ => cases hkind
  | document fs ih =>
    intro r r' hr hr' h
    have hkind := kind_eq_of_append h
    cases b with
    | document gs =>
      exact keyChars_document_of_sortedFields (sortedFields_eq_of_append (fun f hf g _ => ih f hf g.2) h)
    | _ => cases hkind
  | string s =>
    intro r r' hr hr' h
    have hkind := kind_eq_of_append h
    cases b with
    | string t => exact congrArg Text.quoted (Json.quoted_append_inj h).1
    | _ => cases hkind
  | _ =>
    intro r r' hr hr' h
    have hkind := kind_eq_of_append h
    refine apart_of_words (isWord_keyChars ?_) (isWord_keyChars ?_) hr hr' h
    · simp [kind]
    · rw [← hkind]
      simp [kind]

end Containers

end DocFlow.Value
