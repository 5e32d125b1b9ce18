import DocFlow.Proofs.Order.Value
import DocFlow.Proofs.Value.Identical

/-!
# Values that tie

The order of values compares documents field by field in the order in which they stand.  So values that hold no NaN tie
only if they are identical (`identical_of_compare`), and then they have one canonical key (`keyChars_eq_of_compare`) and
are equal (`beq_of_compare`), provided that no name stands twice in a document.  These have no converse: documents with
the same fields in another order do not tie.
-/

namespace DocFlow.Value

/-! ## One kind -/

theorem eq_of_compareText {s t : String} (h : compareText s t = .eq) : s = t := Std.LawfulEqOrd.eq_of_compare h

theorem eq_of_compareBool {x y : Bool} (h : compareBool x y = .eq) : x = y := by
  cases x <;> cases y <;> first | rfl | cases h

theorem eq_of_compareInstant {s t : Calendar.Instant} (h : s.compare t = .eq) : s = t := by
  obtain ⟨hseconds, hnanos⟩ := Ordering.then_eq_eq.1 h
  have hseconds : s.seconds = t.seconds := Std.LawfulEqOrd.eq_of_compare hseconds
  have hnanos : s.nanos = t.nanos := Std.LawfulEqOrd.eq_of_compare hnanos
  cases s
  cases t
  simp_all

/-- Values that tie are of one kind. -/
theorem rank_eq_of_compare {a b : Value} (h : a.compare b = .eq) : a.rank = b.rank := by
  rw [compare_eq_then] at h
  exact Nat.compare_eq_eq.1 (Ordering.then_eq_eq.1 h).1

/-! ## All kinds -/

mutual

/-- Values that hold no NaN and tie are identical. -/
theorem identical_of_compare (a b : Value) (ha : a.hasNaN = false) (hb : b.hasNaN = false)
    (h : a.compare b = .eq) : Identical a b := by
  -- values that tie have one rank, which leaves one kind for both
  have hrank := rank_eq_of_compare h
  cases a with
  | missing =>
    cases b with
    | missing => exact .missing
    | _ => cases hrank
  | null =>
    cases b with
    | null => exact .null
    | _ => cases hrank
  | bool x =>
    cases b with
    | bool y => exact eq_of_compareBool h ▸ .bool x
    | _ => cases hrank
  | number x =>
    cases b with
    | number y => exact .number ((Number.compare_eq_eq_iff ha hb).1 h)
    | _ => cases hrank
  | string s =>
    cases b with
    | string t => exact eq_of_compareText h ▸ .string s
    | _ => cases hrank
  | timestamp s =>
    cases b with
    | timestamp t => exact eq_of_compareInstant h ▸ .timestamp s
    | _ => cases hrank
  | array as =>
    cases b with
    | array bs => exact .array (identicalItems_of_compare as bs ha hb h)
    | _ => cases hrank
  | document as =>
    cases b with
    | document bs => exact .document (identicalFields_of_compare as bs ha hb h)
    | _ => cases hrank

theorem identicalItems_of_compare (as bs : List Value) (ha : hasNaNItems as = false) (hb : hasNaNItems bs = false)
    (h : compareItems as bs = .eq) : IdenticalItems as bs := by
  match as, bs with
  | [], [] => exact .nil
  | [], _ :: _ => cases h
  | _ :: _, [] => cases h
  | a :: as, b :: bs =>
    obtain ⟨ha, has⟩ := Bool.or_eq_false_iff.1 ha
    obtain ⟨hb, hbs⟩ := Bool.or_eq_false_iff.1 hb
    obtain ⟨hfirst, hrest⟩ := Ordering.then_eq_eq.1 h
    exact .cons (identical_of_compare a b ha hb hfirst) (identicalItems_of_compare as bs has hbs hrest)

theorem identicalFields_of_compare (as bs : List (String × Value)) (ha : hasNaNFields as = false)
    (hb : hasNaNFields bs = false) (h : compareFields as bs = .eq) : IdenticalFields as bs := by
  match as, bs with
  | [], [] => exact .nil
  | [], _ :: _ => cases h
  | _ :: _, [] => cases h
  | (k, a) :: as, (l, b) :: bs =>
    obtain ⟨ha, has⟩ := Bool.or_eq_false_iff.1 ha
    obtain ⟨hb, hbs⟩ := Bool.or_eq_false_iff.1 hb
    obtain ⟨hfirst, hrest⟩ := Ordering.then_eq_eq.1 h
    obtain ⟨hkey, hvalue⟩ := Ordering.then_eq_eq.1 hfirst
    exact eq_of_compareText hkey ▸
      .cons k (identical_of_compare a b ha hb hvalue) (identicalFields_of_compare as bs has hbs hrest)

end

/-! ## Keys and equality -/

variable {a b : Value}

theorem keyChars_eq_of_compare (ha : a.hasNaN = false) (hb : b.hasNaN = false) (h : a.compare b = .eq) :
    a.keyChars = b.keyChars :=
  (identical_of_compare a b ha hb h).keyChars_eq

/-- Values that hold no NaN and tie are equal. -/
theorem beq_of_compare (ha : a.hasNaN = false) (hb : b.hasNaN = false) (hd : b.everywhere isDistinct = true)
    (h : a.compare b = .eq) : a.beq b = true :=
  (identical_of_compare a b ha hb h).beq hd

end DocFlow.Value
