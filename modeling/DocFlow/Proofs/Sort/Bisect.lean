import DocFlow.Stage.Sort

/-!
# Bisection

If the items of a list that have a property all stand before the others (`Split`), bisection finds the
place between the two parts (`partitionPoint_eq_length`), and inserting there puts an item between
those that have the property and those that do not (`insertAt_partitionPoint`).
-/

namespace DocFlow

variable {α : Type} {p : α → Bool} {xs : List α} {n : Nat}

/-! ## Lists in two parts -/

/-- No item with the property comes after one without it. -/
def Split (p : α → Bool) (xs : List α) : Prop := xs.Pairwise fun a b => p b = true → p a = true

theorem Split.filter_append (h : Split p xs) : xs.filter p ++ xs.filter (!p ·) = xs := by
  induction xs with
  | nil => rfl
  | cons x xs ih =>
    obtain ⟨hx, hxs⟩ := List.pairwise_cons.1 h
    by_cases hp : p x = true
    · simp [hp, ih hxs]
    · have hnone : ∀ y ∈ xs, p y = false := fun y hy => by
        simpa using mt (hx y hy) hp
      have hpos : xs.filter p = [] := List.filter_eq_nil_iff.2 fun y hy => by simp [hnone y hy]
      have hneg : xs.filter (!p ·) = xs := List.filter_eq_self.2 fun y hy => by simp [hnone y hy]
      simp [hp, hpos, hneg]

theorem Split.any_getElem? (h : Split p xs) (i : Nat) :
    xs[i]?.any p = decide (i < (xs.filter p).length) := by
  have hget : xs[i]? = (xs.filter p ++ xs.filter (!p ·))[i]? := congrArg (·[i]?) h.filter_append.symm
  rw [hget]
  rcases Nat.lt_or_ge i (xs.filter p).length with hi | hi
  · rw [List.getElem?_append_left hi, List.getElem?_eq_getElem hi]
    simp [hi, (List.mem_filter.1 (List.getElem_mem hi)).2]
  · rw [List.getElem?_append_right hi, decide_eq_false (Nat.not_lt.2 hi)]
    cases hy : (xs.filter (!p ·))[i - (xs.filter p).length]? with
    | none => rfl
    | some y => simpa using (List.mem_filter.1 (List.mem_of_getElem? hy)).2

/-! ## Finding the place -/

/-- Bisection keeps the last of the first `n` items within its bounds. -/
theorem bisect_eq {fuel base size : Nat} (hp : ∀ i, xs[i]?.any p = decide (i < n))
    (hfuel : size ≤ fuel + 1) (hlow : base ≤ n - 1) (hhigh : n ≤ base + size) :
    bisect p xs fuel base size = n - 1 := by
  induction fuel generalizing base size with
  | zero =>
    unfold bisect
    omega
  | succ fuel ih =>
    unfold bisect
    split
    · omega
    · simp only [hp]
      by_cases hmid : base + size / 2 < n
      · simp only [hmid, decide_true, if_true]
        exact ih (by omega) (by omega) (by omega)
      · simp only [hmid, decide_false, Bool.false_eq_true, if_false]
        exact ih (by omega) hlow (by omega)

theorem partitionPoint_eq_length (h : Split p xs) : partitionPoint p xs = (xs.filter p).length := by
  have hp := h.any_getElem?
  have hlength : (xs.filter p).length ≤ xs.length := List.length_filter_le p xs
  have hbase : bisect p xs xs.length 0 xs.length = (xs.filter p).length - 1 :=
    bisect_eq hp (by omega) (by omega) (by omega)
  unfold partitionPoint
  simp only [hbase, hp, decide_eq_true_eq]
  split <;> omega

theorem insertAt_length_append (xs ys : List α) (x : α) :
    insertAt xs.length x (xs ++ ys) = xs ++ x :: ys := by
  rw [insertAt, List.take_left, List.drop_left]

theorem insertAt_partitionPoint (h : Split p xs) (x : α) :
    insertAt (partitionPoint p xs) x xs = xs.filter p ++ x :: xs.filter (!p ·) := by
  rw [partitionPoint_eq_length h]
  calc insertAt (xs.filter p).length x xs
      = insertAt (xs.filter p).length x (xs.filter p ++ xs.filter (!p ·)) :=
        congrArg (insertAt _ x) h.filter_append.symm
    _ = xs.filter p ++ x :: xs.filter (!p ·) := insertAt_length_append _ _ x

end DocFlow
