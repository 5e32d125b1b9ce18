/-!
# Lexicographic orders

Where one order decides and the next one only breaks its ties, three things stand to each other as in
a chain (`Consistent`) if they do so in each of the orders.  This is all that transitivity needs, and
unlike transitivity it is inherited part by part.
-/

namespace DocFlow

/-- The first of three things stands to the third as it has to, given how it stands to the second and
how the second stands to the third. -/
structure Consistent (ab bc ac : Ordering) : Prop where
  of_eq_left : ab = .eq → ac = bc
  of_eq_right : bc = .eq → ac = ab
  of_lt : ab = .lt → bc = .lt → ac = .lt
  of_gt : ab = .gt → bc = .gt → ac = .gt

namespace Consistent

variable {ab bc ac ab' bc' ac' : Ordering}

@[simp] theorem eq_eq_eq : Consistent .eq .eq .eq := by
  constructor <;> simp

theorem swap (h : Consistent ab bc ac) : Consistent ab.swap bc.swap ac.swap where
  of_eq_left hab := congrArg Ordering.swap (h.of_eq_left (Ordering.swap_eq_eq.1 hab))
  of_eq_right hbc := congrArg Ordering.swap (h.of_eq_right (Ordering.swap_eq_eq.1 hbc))
  of_lt hab hbc := Ordering.swap_eq_lt.2 (h.of_gt (Ordering.swap_eq_lt.1 hab) (Ordering.swap_eq_lt.1 hbc))
  of_gt hab hbc := Ordering.swap_eq_gt.2 (h.of_lt (Ordering.swap_eq_gt.1 hab) (Ordering.swap_eq_gt.1 hbc))

/-- The next order has to be consistent only where the first one does not decide. -/
theorem lexTies (h : Consistent ab bc ac) (h' : ab = .eq → bc = .eq → Consistent ab' bc' ac') :
    Consistent (ab.then ab') (bc.then bc') (ac.then ac') where
  of_eq_left hab := by
    obtain ⟨hab, hab'⟩ := Ordering.then_eq_eq.1 hab
    rw [h.of_eq_left hab]
    cases hbc : bc with
    | eq => exact (h' hab hbc).of_eq_left hab'
    | _ => rfl
  of_eq_right hbc := by
    obtain ⟨hbc, hbc'⟩ := Ordering.then_eq_eq.1 hbc
    rw [h.of_eq_right hbc]
    cases hab : ab with
    | eq => exact (h' hab hbc).of_eq_right hbc'
    | _ => rfl
  of_lt hab hbc := by
    rcases Ordering.then_eq_lt.1 hab with hab | ⟨hab, hab'⟩ <;>
      rcases Ordering.then_eq_lt.1 hbc with hbc | ⟨hbc, hbc'⟩
    · simp [h.of_lt hab hbc]
    · simp [h.of_eq_right hbc, hab]
    · simp [h.of_eq_left hab, hbc]
    · simp [h.of_eq_left hab, hbc, (h' hab hbc).of_lt hab' hbc']
  of_gt hab hbc := by
    rcases Ordering.then_eq_gt.1 hab with hab | ⟨hab, hab'⟩ <;>
      rcases Ordering.then_eq_gt.1 hbc with hbc | ⟨hbc, hbc'⟩
    · simp [h.of_gt hab hbc]
    · simp [h.of_eq_right hbc, hab]
    · simp [h.of_eq_left hab, hbc]
    · simp [h.of_eq_left hab, hbc, (h' hab hbc).of_gt hab' hbc']

theorem lex (h : Consistent ab bc ac) (h' : Consistent ab' bc' ac') :
    Consistent (ab.then ab') (bc.then bc') (ac.then ac') :=
  h.lexTies fun _ _ => h'

theorem ne_gt (h : Consistent ab bc ac) (hab : ab ≠ .gt) (hbc : bc ≠ .gt) : ac ≠ .gt := by
  cases ha : ab with
  | eq => exact h.of_eq_left ha ▸ hbc
  | gt => exact absurd ha hab
  | lt =>
    cases hb : bc with
    | eq => exact h.of_eq_right hb ▸ hab
    | gt => exact absurd hb hbc
    | lt => simp [h.of_lt ha hb]

/-- As `ne_gt`, for an order and its reverse alike. -/
theorem ne_swap {keep : Ordering} (h : Consistent ab bc ac) (hkeep : keep ≠ .eq) (hab : ab ≠ keep.swap)
    (hbc : bc ≠ keep.swap) : ac ≠ keep.swap := by
  cases keep with
  | eq => exact absurd rfl hkeep
  | lt => exact h.ne_gt hab hbc
  | gt =>
    have hgt := h.swap.ne_gt (mt Ordering.swap_eq_gt.1 hab) (mt Ordering.swap_eq_gt.1 hbc)
    exact mt Ordering.swap_eq_gt.2 hgt

/-- The orders of a type are consistent. -/
theorem of_transOrd {α : Type} [Ord α] [Std.TransOrd α] (a b c : α) :
    Consistent (compare a b) (compare b c) (compare a c) where
  of_eq_left hab := Std.TransCmp.congr_left hab
  of_eq_right hbc := (Std.TransCmp.congr_right hbc).symm
  of_lt := Std.TransCmp.lt_trans
  of_gt := Std.TransCmp.gt_trans

end Consistent

end DocFlow
