import DocFlow.Proofs.Key.Apart
import DocFlow.Proofs.Value.Everywhere

/-!
# Identical values

Two values are identical if they are the same down to the order of fields, except that the two zeros are not told apart
and no NaN is identical to anything (`Identical`).  Identical values have one canonical key (`Identical.keyChars_eq`),
and they are equal (`Identical.beq`) provided that no name stands twice in a document, since equality of documents looks
each field up under its name.  Neither has a converse: both disregard the order of fields.
-/

namespace DocFlow.Value

mutual

/-- The values are the same, with the same fields in the same order; the two zeros are the same. -/
inductive Identical : Value → Value → Prop
  | missing : Identical missing missing
  | null : Identical null null
  | bool (b : Bool) : Identical (bool b) (bool b)
  | number {x y : Float} (h : (x == y) = true) : Identical (number x) (number y)
  | string (s : String) : Identical (string s) (string s)
  | timestamp (t : Calendar.Instant) : Identical (timestamp t) (timestamp t)
  | array {as bs : List Value} (h : IdenticalItems as bs) : Identical (array as) (array bs)
  | document {as bs : List (String × Value)} (h : IdenticalFields as bs) : Identical (document as) (document bs)

inductive IdenticalItems : List Value → List Value → Prop
  | nil : IdenticalItems [] []
  | cons {a b : Value} {as bs : List Value} (h : Identical a b) (hrest : IdenticalItems as bs) :
    IdenticalItems (a :: as) (b :: bs)

inductive IdenticalFields : List (String × Value) → List (String × Value) → Prop
  | nil : IdenticalFields [] []
  | cons (k : String) {a b : Value} {as bs : List (String × Value)} (h : Identical a b)
    (hrest : IdenticalFields as bs) : IdenticalFields ((k, a) :: as) ((k, b) :: bs)

end

/-! ## Keys -/

theorem Identical.isMissing_eq {a b : Value} (h : Identical a b) : a.isMissing = b.isMissing := by
  cases h <;> rfl

theorem fieldKeys_cons (k : String) (v : Value) (fs : List (String × Value)) :
    fieldKeys ((k, v) :: fs) = if v.isMissing then fieldKeys fs else (k, v.keyChars) :: fieldKeys fs := by
  cases v <;> rfl

mutual

/-- Identical values have one key. -/
theorem Identical.keyChars_eq : ∀ {a b : Value}, Identical a b → a.keyChars = b.keyChars
  | _, _, .missing | _, _, .null | _, _, .bool _ | _, _, .string _ | _, _, .timestamp _ => rfl
  | _, _, .number h => Number.numberKey_eq_iff.2 (.inl h)
  | _, _, .array h => by rw [keyChars_array, keyChars_array, h.itemKeys_eq]
  | _, _, .document h => by rw [keyChars_document, keyChars_document, h.fieldKeys_eq]

theorem IdenticalItems.itemKeys_eq : ∀ {as bs : List Value}, IdenticalItems as bs → itemKeys as = itemKeys bs
  | _, _, .nil => rfl
  | _, _, .cons h hrest => by rw [itemKeys, itemKeys, h.keyChars_eq, hrest.itemKeys_eq]

theorem IdenticalFields.fieldKeys_eq :
    ∀ {as bs : List (String × Value)}, IdenticalFields as bs → fieldKeys as = fieldKeys bs
  | _, _, .nil => rfl
  | _, _, .cons _ h hrest => by
    rw [fieldKeys_cons, fieldKeys_cons, h.isMissing_eq, h.keyChars_eq, hrest.fieldKeys_eq]

end

/-! ## Equality -/

/-- In a document no name stands twice, as in every document whose fields have been put one after the other. -/
def isDistinct : Value → Bool
  | document fields => decide (Entries.Distinct fields)
  | _ => true

theorem beqFields_iff {as bs : List (String × Value)} :
    beqFields as bs = true ↔ ∀ f ∈ as, ∃ b, Entries.get? f.1 bs = some b ∧ f.2.beq b = true := by
  induction as with
  | nil => simp [beqFields]
  | cons f as ih =>
    rw [beqFields, Bool.and_eq_true, List.forall_mem_cons, ih]
    cases Entries.get? f.1 bs <;> simp

theorem beq_document_iff {as bs : List (String × Value)} : (document as).beq (document bs) = true ↔
    as.length = bs.length ∧ ∀ f ∈ as, ∃ b, Entries.get? f.1 bs = some b ∧ f.2.beq b = true := by
  rw [beq, Bool.and_eq_true, beq_iff_eq, beqFields_iff]

theorem IdenticalFields.length_eq :
    ∀ {as bs : List (String × Value)}, IdenticalFields as bs → as.length = bs.length
  | _, _, .nil => rfl
  | _, _, .cons _ _ hrest => congrArg (· + 1) hrest.length_eq

mutual

/-- Identical values are equal, if no document in them has a name twice. -/
theorem Identical.beq : ∀ {a b : Value}, Identical a b → b.everywhere isDistinct = true → a.beq b = true
  | _, _, .missing, _ | _, _, .null, _ => rfl
  | _, _, .bool _, _ | _, _, .string _, _ | _, _, .timestamp _, _ => beq_self_eq_true _
  | _, _, .number h, _ => h
  | _, _, .array h, hd => h.beqItems (everywhere_array_iff.1 hd).2
  | _, _, .document h, hd => by
    obtain ⟨hdistinct, hd⟩ := everywhere_document_iff.1 hd
    refine beq_document_iff.2 ⟨h.length_eq, fun f hf => ?_⟩
    obtain ⟨b, hb, hbeq⟩ := h.exists_of_mem hd f hf
    exact ⟨b, Entries.get?_eq_some_of_mem (of_decide_eq_true hdistinct) hb, hbeq⟩

theorem IdenticalItems.beqItems : ∀ {as bs : List Value}, IdenticalItems as bs →
    (∀ b ∈ bs, b.everywhere isDistinct = true) → beqItems as bs = true
  | _, _, .nil, _ => rfl
  | _, _, .cons h hrest, hd => by
    obtain ⟨hb, hbs⟩ := List.forall_mem_cons.1 hd
    exact Bool.and_eq_true_iff.2 ⟨h.beq hb, hrest.beqItems hbs⟩

theorem IdenticalFields.exists_of_mem : ∀ {as bs : List (String × Value)}, IdenticalFields as bs →
    (∀ f ∈ bs, f.2.everywhere isDistinct = true) → ∀ f ∈ as, ∃ b, (f.1, b) ∈ bs ∧ f.2.beq b = true
  | _, _, .nil, _ => nofun
  | _, _, .cons k h hrest, hd => by
    obtain ⟨hb, hbs⟩ := List.forall_mem_cons.1 hd
    refine List.forall_mem_cons.2 ⟨⟨_, List.mem_cons_self, h.beq hb⟩, fun f hf => ?_⟩
    obtain ⟨b, hmem, hbeq⟩ := hrest.exists_of_mem hbs f hf
    exact ⟨b, List.mem_cons_of_mem _ hmem, hbeq⟩

end

end DocFlow.Value
