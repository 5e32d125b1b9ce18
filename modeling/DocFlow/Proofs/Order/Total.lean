import DocFlow.Proofs.Order.Value

/-!
# How far the order of values is total

A value ties with itself, and swapping two values turns their order around.  Among values that hold no NaN, what is
not after a second value is not after a third one that the second is not after either (`compare_preorder`).  NaN ties
with every number, so it stands between numbers that do not tie (`compare_not_transitive`).
-/

namespace DocFlow.Value

theorem compare_self (a : Value) : a.compare a = .eq := by
  have h := compare_swap a a
  cases ha : a.compare a with
  | eq => rfl
  | lt => simp [ha] at h
  | gt => simp [ha] at h

theorem compare_ne_gt_trans {a b c : Value} (ha : a.hasNaN = false) (hb : b.hasNaN = false)
    (hc : c.hasNaN = false) (hab : a.compare b ≠ .gt) (hbc : b.compare c ≠ .gt) : a.compare c ≠ .gt :=
  (consistent_compare a b c ha hb hc).ne_gt hab hbc

/-- NaN ties with every number. -/
theorem compare_nan {x y : Float} (hx : x.isNaN = true) :
    (number x).compare (number y) = .eq ∧ (number y).compare (number x) = .eq :=
  ⟨Number.compare_of_isNaN (.inl hx), Number.compare_of_isNaN (.inr hx)⟩

/-- **The order of values.**  A value ties with itself, the order turns around when two values are swapped, and it is
transitive on values that hold no NaN at any depth. -/
theorem compare_preorder (a b c : Value) :
    a.compare a = .eq ∧ b.compare a = (a.compare b).swap ∧
    (a.hasNaN = false → b.hasNaN = false → c.hasNaN = false →
      a.compare b ≠ .gt → b.compare c ≠ .gt → a.compare c ≠ .gt) :=
  ⟨compare_self a, (compare_swap a b).symm, compare_ne_gt_trans⟩

/-- A document before an array, with a longer array of the same beginning behind both. -/
theorem compare_preorder_nested :
    let a : Value := .document [("k", .array [.string "x", .null])]
    let b : Value := .array [.bool false, .document []]
    let c : Value := .array [.bool false, .document [], .missing]
    a.compare b = .lt ∧ b.compare c = .lt ∧ a.compare c ≠ .gt := by
  intro a b c
  have hab : a.compare b = .lt := rfl
  have hbc : b.compare c = .lt := rfl
  exact ⟨hab, hbc, (compare_preorder a b c).2.2 rfl rfl rfl (by simp [hab]) (by simp [hbc])⟩

/-- Two does not come after NaN, and NaN does not come after one. -/
theorem compare_not_transitive :
    ¬ ((∀ a : Value, a.compare a = .eq) ∧
      (∀ a b : Value, b.compare a = (a.compare b).swap) ∧
      ∀ a b c : Value, a.compare b ≠ .gt → b.compare c ≠ .gt → a.compare c ≠ .gt) := by
  rintro ⟨-, -, htrans⟩
  have hnan : (0.0 / 0.0 : Float).isNaN = true := by decide
  have hgt : (number 2.0).compare (number 1.0) = .gt := by decide
  refine htrans (number 2.0) (number (0.0 / 0.0)) (number 1.0) ?_ ?_ hgt
  · rw [(compare_nan hnan).2]
    decide
  · rw [(compare_nan hnan).1]
    decide

end DocFlow.Value
