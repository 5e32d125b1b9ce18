import DocFlow.Proofs.Key.Apart
import Mathlib.Data.List.Forall2

/-!
# What a canonical key tells apart

Values are alike if they are the same but for the order of fields, fields that are missing, the sign of zero
and which NaN it is (`Alike`).  Values have one key if and only if they are alike (`key_eq_iff_alike`), by
induction on one of them: the keys of arrays and documents can be taken apart again.
-/

namespace DocFlow.Value

/-! ## Values that are alike -/

/-- The values of the fields with a key, but for those that are missing. -/
def present (k : String) (fields : Entries Value) : List Value :=
  (fields.filter fun f => f.1 = k && !f.2.isMissing).map Prod.snd

/-- The values are the same, but for the order of fields and for fields that are missing, and numbers are the
same as numbers. -/
inductive Alike : Value → Value → Prop
  | missing : Alike missing missing
  | null : Alike null null
  | bool (b : Bool) : Alike (bool b) (bool b)
  | number {x y : Float} (h : Number.Same x y) : Alike (number x) (number y)
  | string (s : String) : Alike (string s) (string s)
  | timestamp (t : Calendar.Instant) : Alike (timestamp t) (timestamp t)
  | array {as bs : List Value} (h : List.Forall₂ Alike as bs) : Alike (array as) (array bs)
  | document {as bs : List (String × Value)} (h : ∀ k, List.Forall₂ Alike (present k as) (present k bs)) :
    Alike (document as) (document bs)

/-- The value is no leap second. -/
def isNoLeapSecond : Value → Bool
  | timestamp t => t.nanos < 1000000000
  | _ => true

theorem mem_present {k : String} {fields : Entries Value} {v : Value} (h : v ∈ present k fields) :
    (k, v) ∈ fields := by
  obtain ⟨⟨k', v'⟩, hmem, rfl⟩ := List.mem_map.1 h
  obtain ⟨hmem, htest⟩ := List.mem_filter.1 hmem
  obtain ⟨hk, -⟩ := Bool.and_eq_true_iff.1 htest
  exact of_decide_eq_true hk ▸ hmem

/-! ## Keys of containers -/

theorem withKey_fieldKeys (k : String) (fields : List (String × Value)) :
    withKey k (fieldKeys fields) = (present k fields).map fun v => (k, v.keyChars) := by
  rw [fieldKeys_eq]
  induction fields with
  | nil => rfl
  | cons f fs ih =>
    obtain ⟨k', v⟩ := f
    simp only [withKey, present, List.filter_map, List.filter_filter, List.map_map] at ih ⊢
    by_cases hk : k' = k <;> cases hv : v.isMissing <;> simp_all [Function.comp_def]

section Containers

variable {as bs : List Value} {fs gs : List (String × Value)}

theorem keyChars_array_eq_iff :
    (array as).keyChars = (array bs).keyChars ↔ as.map keyChars = bs.map keyChars := by
  constructor
  · intro h
    exact map_keyChars_of_append (fun a _ b _ => apart_keyChars a b) (congrArg (· ++ []) h)
  · exact keyChars_array_of_map

/-- Documents have one key if and only if the values under each name that are there have the same keys. -/
theorem keyChars_document_eq_iff : (document fs).keyChars = (document gs).keyChars ↔
    ∀ k, (present k fs).map keyChars = (present k gs).map keyChars := by
  have hfields : sortedFields fs = sortedFields gs ↔
      ∀ k, (present k fs).map keyChars = (present k gs).map keyChars := by
    unfold sortedFields
    simp only [mergeSort_eq_iff, withKey_fieldKeys]
    refine forall_congr' fun k => ?_
    have hpair (vs : List Value) : (vs.map fun v => (k, v.keyChars)) = (vs.map keyChars).map (k, ·) := by
      simp
    rw [hpair, hpair]
    exact (List.map_injective_iff.2 fun _ _ h => (Prod.mk.inj h).2).eq_iff
  rw [← hfields]
  constructor
  · intro h
    exact sortedFields_eq_of_append (fun f _ g _ => apart_keyChars f.2 g.2) (congrArg (· ++ []) h)
  · exact keyChars_document_of_sortedFields

end Containers

/-! ## Values with one key -/

theorem map_eq_iff_forall₂ {α β : Type} {f : α → β} {R : α → α → Prop} {as bs : List α}
    (h : ∀ a ∈ as, ∀ b ∈ bs, f a = f b ↔ R a b) : as.map f = bs.map f ↔ List.Forall₂ R as bs := by
  induction as generalizing bs with
  | nil => cases bs <;> simp
  | cons a as ih =>
    cases bs with
    | nil => simp
    | cons b bs =>
      have hrest : ∀ a ∈ as, ∀ b ∈ bs, f a = f b ↔ R a b := fun a ha b hb =>
        h a (List.mem_cons_of_mem _ ha) b (List.mem_cons_of_mem _ hb)
      rw [List.map_cons, List.map_cons, List.cons.injEq, List.forall₂_cons, h a (by simp) b (by simp), ih hrest]

/-- Values that hold no leap second have one key if and only if they are alike. -/
theorem keyChars_eq_iff_alike {a b : Value} (ha : a.everywhere isNoLeapSecond = true)
    (hb : b.everywhere isNoLeapSecond = true) : a.keyChars = b.keyChars ↔ Alike a b := by
  -- the key tells the kind, so between kinds both sides fail
  have hdiffer {a b : Value} (h : a.kind ≠ b.kind) (h' : ¬ Alike a b) :
      a.keyChars = b.keyChars ↔ Alike a b := iff_of_false (mt kind_eq_of_keyChars_eq h) h'
  induction a using induction generalizing b with
  | missing =>
    cases b with
    | missing => exact iff_of_true rfl .missing
    | _ => exact hdiffer nofun nofun
  | null =>
    cases b with
    | null => exact iff_of_true rfl .null
    | _ => exact hdiffer nofun nofun
  | bool x =>
    cases b with
    | bool y =>
      cases x <;> cases y
      · exact iff_of_true rfl (.bool _)
      · exact iff_of_false (by decide) nofun
      · exact iff_of_false (by decide) nofun
      · exact iff_of_true rfl (.bool _)
    | _ => exact hdiffer nofun nofun
  | number x =>
    cases b with
    | number y =>
      rw [keyChars_number, keyChars_number, Number.numberKey_eq_iff]
      exact ⟨.number, fun h => by cases h; assumption⟩
    | _ => exact hdiffer nofun nofun
  | string s =>
    cases b with
    | string t =>
      constructor
      · intro h
        obtain ⟨rfl, -⟩ := Json.quoted_append_inj (congrArg (· ++ []) h)
        exact .string s
      · rintro ⟨⟩
        rfl
    | _ => exact hdiffer nofun nofun
  | timestamp s =>
    cases b with
    | timestamp t =>
      constructor
      · intro h
        have hchars : s.chars = t.chars := List.append_cancel_left h
        obtain rfl := Calendar.Instant.chars_inj (of_decide_eq_true ha) (of_decide_eq_true hb) hchars
        exact .timestamp s
      · rintro ⟨⟩
        rfl
    | _ => exact hdiffer nofun nofun
  | array as ih =>
    cases b with
    | array bs =>
      obtain ⟨-, ha⟩ := everywhere_array_iff.1 ha
      obtain ⟨-, hb⟩ := everywhere_array_iff.1 hb
      rw [keyChars_array_eq_iff, map_eq_iff_forall₂ fun a ha' b hb' => ih a ha' (ha a ha') (hb b hb')]
      exact ⟨.array, fun h => by cases h; assumption⟩
    | _ => exact hdiffer nofun nofun
  | document fs ih =>
    cases b with
    | document gs =>
      obtain ⟨-, ha⟩ := everywhere_document_iff.1 ha
      obtain ⟨-, hb⟩ := everywhere_document_iff.1 hb
      have hfields (k : String) : (present k fs).map keyChars = (present k gs).map keyChars ↔
          List.Forall₂ Alike (present k fs) (present k gs) := by
        refine map_eq_iff_forall₂ fun v hv w hw => ?_
        exact ih _ (mem_present hv) (ha _ (mem_present hv)) (hb _ (mem_present hw))
      rw [keyChars_document_eq_iff, forall_congr' hfields]
      exact ⟨.document, fun h => by cases h; assumption⟩
    | _ => exact hdiffer nofun nofun

/-- **The canonical key is exact.**  Values that hold no leap second have one key if and only if they are
alike, and no two values of different kinds have one key. -/
theorem key_eq_iff_alike (a b : Value) :
    (a.everywhere isNoLeapSecond = true → b.everywhere isNoLeapSecond = true →
      (a.key = b.key ↔ Alike a b)) ∧
    (a.key = b.key → a.kind = b.kind) := by
  have hkey : a.key = b.key ↔ a.keyChars = b.keyChars := String.ofList_inj
  rw [hkey]
  exact ⟨keyChars_eq_iff_alike, kind_eq_of_keyChars_eq⟩

/-- Fields in another order, of which one is missing, with zeros of either sign and an instant. -/
theorem key_eq_iff_alike_reordered :
    let t : Calendar.Instant := ⟨1700000000, 500000000⟩
    let a : Value := .document [("n", .number 0.0), ("at", .array [.timestamp t]), ("x", .missing)]
    let b : Value := .document [("at", .array [.timestamp t]), ("n", .number (-0.0))]
    a.everywhere isNoLeapSecond = true ∧ b.everywhere isNoLeapSecond = true ∧ a.key = b.key ∧ a.kind = b.kind ∧
      a.key ≠ (Value.array [b]).key := by
  intro t a b
  have hzero : Number.Same 0.0 (-0.0) := .inl (by decide)
  have halike : Alike a b := by
    refine .document fun k => ?_
    by_cases hn : k = "n"
    · subst hn
      exact .cons (.number hzero) .nil
    · by_cases hat : k = "at"
      · subst hat
        exact .cons (.array (.cons (.timestamp t) .nil)) .nil
      · simp [present, isMissing, Ne.symm hn, Ne.symm hat]
  have ha : a.everywhere isNoLeapSecond = true := by decide
  have hb : b.everywhere isNoLeapSecond = true := by decide
  have hkey := ((key_eq_iff_alike a b).1 ha hb).2 halike
  have hkind : Kind.document ≠ Kind.array := by decide
  exact ⟨ha, hb, hkey, (key_eq_iff_alike a b).2 hkey, fun h => hkind ((key_eq_iff_alike a (.array [b])).2 h)⟩

end DocFlow.Value
