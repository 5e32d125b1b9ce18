import DocFlow.Proofs.Group.Reduction
import DocFlow.Proofs.Order.Equal
import DocFlow.Proofs.Order.Total

/-!
# The least and the greatest value

The least and the greatest value are kept by one rule, which only differs in the order it prefers (`Reduction.Keeps`).
The best value so far is missing as long as all values stand for none; after that it is one of the values, and none of
them is better (`Value.IsExtremum`), which one more value preserves (`Value.IsExtremum.concat`).

Since the order of values is finer than their equality, the extremum of the values in another order is equal to it
(`Value.IsExtremum.beq`), which is what `Accumulator.extremum_in_any_order` adds to the rest.
-/

namespace DocFlow

/-! ## The better of two values -/

namespace Reduction

variable {keep : Ordering} {best v : Value}

theorem keepBest_of_isNullish (hv : v.isNullish = true) : keepBest keep best v = best := by simp [keepBest, hv]

theorem keepBest_missing (hv : v.isNullish = false) : keepBest keep .missing v = v := by
  simp [keepBest, hv, Value.isMissing]

theorem keepBest_of_isNullish_eq_false (hbest : best.isNullish = false) (hv : v.isNullish = false) :
    keepBest keep best v = if v.compare best = keep then v else best := by
  simp [keepBest, hv, Value.isMissing_of_isNullish hbest]

end Reduction

namespace Value

open Reduction (keepBest)

/-! ## Extrema -/

/-- The value is one of those in a list that stand for a value, and none of these is better (stands to it in the order
`keep`); if there is no such value, it is `empty`. -/
inductive IsExtremum (keep : Ordering) (vs : List Value) (empty : Value) : Value → Prop
  | none (h : ∀ v ∈ vs, v.isNullish = true) : IsExtremum keep vs empty empty
  | some {best : Value} (hmem : best ∈ vs) (hthere : best.isNullish = false)
    (hbest : ∀ v ∈ vs, v.isNullish = false → best.compare v ≠ keep.swap) : IsExtremum keep vs empty best

variable {keep : Ordering} {vs vs' : List Value} {best best' v empty : Value}

theorem compare_ne_swap_iff : best.compare v ≠ keep.swap ↔ v.compare best ≠ keep := by
  rw [← compare_swap, Ne, Ordering.swap_inj]

theorem compare_self_ne_swap (hkeep : keep ≠ .eq) (v : Value) : v.compare v ≠ keep.swap := by
  rw [compare_self]
  exact fun h => hkeep (Ordering.swap_eq_eq.1 h.symm)

/-- What is better than the best value is better than what that one is not worse than. -/
theorem compare_ne_swap_of_better {w : Value} (hkeep : keep ≠ .eq) (hv : v.hasNaN = false) (hbest : best.hasNaN = false)
    (hw : w.hasNaN = false) (hbetter : v.compare best = keep) (h : best.compare w ≠ keep.swap) :
    v.compare w ≠ keep.swap := by
  refine (consistent_compare v best w hv hbest hw).ne_swap hkeep ?_ h
  rw [hbetter]
  cases keep <;> simp_all

namespace IsExtremum

/-- One more value becomes the extremum if it is better, and leaves it otherwise. -/
theorem concat (h : IsExtremum keep vs .missing best) (hkeep : keep ≠ .eq)
    (hnan : ∀ w ∈ vs ++ [v], w.hasNaN = false) : IsExtremum keep (vs ++ [v]) .missing (keepBest keep best v) := by
  obtain ⟨hnanvs, hnanv⟩ := List.forall_mem_append.1 hnan
  have hself : ∀ w ∈ [v], w.isNullish = false → v.compare w ≠ keep.swap :=
    List.forall_mem_singleton.2 fun _ => compare_self_ne_swap hkeep v
  cases hv : v.isNullish with
  | true =>
    -- a value that stands for none is passed over
    rw [Reduction.keepBest_of_isNullish hv]
    cases h with
    | none h => exact .none (List.forall_mem_append.2 ⟨h, List.forall_mem_singleton.2 hv⟩)
    | some hmem hthere hbest =>
      refine .some (List.mem_append_left _ hmem) hthere (List.forall_mem_append.2 ⟨hbest, ?_⟩)
      exact List.forall_mem_singleton.2 fun hthere => absurd hv (by simp [hthere])
  | false =>
    cases h with
    | none h =>
      rw [Reduction.keepBest_missing hv]
      refine .some (by simp) hv (List.forall_mem_append.2 ⟨fun w hw hthere => ?_, hself⟩)
      exact absurd (h w hw) (by simp [hthere])
    | some hmem hthere hbest =>
      rw [Reduction.keepBest_of_isNullish_eq_false hthere hv]
      split
      · -- what is better than the best so far is better than all before it
        rename_i hbetter
        refine .some (by simp) hv (List.forall_mem_append.2 ⟨fun w hw hw' => ?_, hself⟩)
        exact compare_ne_swap_of_better hkeep (hnanv v (by simp)) (hnanvs _ hmem) (hnanvs w hw) hbetter (hbest w hw hw')
      · rename_i hnot
        refine .some (List.mem_append_left _ hmem) hthere (List.forall_mem_append.2 ⟨hbest, ?_⟩)
        exact List.forall_mem_singleton.2 fun _ => compare_ne_swap_iff.2 hnot

theorem foldl_keepBest (hkeep : keep ≠ .eq) (hnan : ∀ v ∈ vs, v.hasNaN = false) :
    IsExtremum keep vs .missing (vs.foldl (keepBest keep) .missing) := by
  induction vs using List.reverseRecOn with
  | nil => exact .none nofun
  | append_singleton vs v ih =>
    rw [List.foldl_concat]
    exact (ih fun w hw => hnan w (List.mem_append_left _ hw)).concat hkeep hnan

/-- At the end null stands for no value. -/
theorem orNull (h : IsExtremum keep vs .missing best) : IsExtremum keep vs .null best.orNull := by
  cases h with
  | none h => exact .none h
  | some hmem hthere hbest =>
    rw [orNull_of_isMissing (isMissing_of_isNullish hthere)]
    exact .some hmem hthere hbest

/-- Two extrema of the same values tie. -/
theorem compare_eq (h : IsExtremum keep vs empty best) (h' : IsExtremum keep vs' empty best') (hkeep : keep ≠ .eq)
    (hsame : ∀ v, v ∈ vs ↔ v ∈ vs') : best.compare best' = .eq := by
  cases h with
  | none h =>
    cases h' with
    | none => exact compare_self _
    | some hmem' hthere' => exact absurd (h _ ((hsame _).2 hmem')) (by simp [hthere'])
  | some hmem hthere hbest =>
    cases h' with
    | none h' => exact absurd (h' _ ((hsame _).1 hmem)) (by simp [hthere])
    | some hmem' hthere' hbest' =>
      have hnotWorse := hbest best' ((hsame _).2 hmem') hthere'
      have hnotBetter := compare_ne_swap_iff.1 (hbest' best ((hsame _).1 hmem) hthere)
      cases keep <;> cases hcmp : best.compare best' <;> simp_all

theorem of_forall (P : Value → Prop) (h : IsExtremum keep vs empty best) (hempty : P empty) (hvs : ∀ v ∈ vs, P v) :
    P best := by
  cases h with
  | none => exact hempty
  | some hmem => exact hvs _ hmem

/-- The extremum of the same values in another order is an equal value. -/
theorem beq (h : IsExtremum keep vs .null best) (h' : IsExtremum keep vs' .null best') (hkeep : keep ≠ .eq)
    (hperm : vs'.Perm vs) (hnan : ∀ v ∈ vs, v.hasNaN = false) (hd : ∀ v ∈ vs, v.everywhere isDistinct = true) :
    (best == best') = true := by
  have hnanBest := h.of_forall (·.hasNaN = false) rfl hnan
  have hnanBest' := h'.of_forall (·.hasNaN = false) rfl fun v hv => hnan v (hperm.mem_iff.1 hv)
  have hdBest' := h'.of_forall (·.everywhere isDistinct = true) rfl fun v hv => hd v (hperm.mem_iff.1 hv)
  exact beq_of_compare hnanBest hnanBest' hdBest' (h.compare_eq h' hkeep fun v => hperm.mem_iff.symm)

end IsExtremum

end Value

/-! ## Accumulators -/

/-- The reduction keeps the value that stands in this order to the others. -/
inductive Reduction.Keeps : Reduction → Ordering → Prop
  | min : Keeps .min .lt
  | max : Keeps .max .gt

theorem Reduction.Keeps.ne_eq {r : Reduction} {keep : Ordering} (h : r.Keeps keep) : keep ≠ .eq := by
  cases h <;> decide

namespace Accumulator

variable {r : Reduction} {keep : Ordering} {source : Expr} {scope : Scope} {ds : List Document} {vs : List Value}

theorem gather_extremum (hr : r.Keeps keep) (hvs : ds.mapM (fun d => source.eval d scope) = .ok vs)
    (hnan : ∀ v ∈ vs, v.hasNaN = false) : ∃ s, (reduce r source).gather scope ds = .ok s ∧
      Value.IsExtremum keep vs .null ((reduce r source).finish s) := by
  refine ⟨r.gathered vs, (gather_reduce_eq_ok hvs).2 ⟨?_, rfl⟩, ?_⟩
  · cases hr <;> exact fun v _ => rfl
  · have hbest := (Value.IsExtremum.foldl_keepBest hr.ne_eq hnan).orNull
    cases hr <;> exact hbest

/-- **The least and the greatest value.**  If a source has a value in every document and none of them holds a NaN, then
the least (greatest) of them at the end is null if all of them are missing or null; otherwise it is one of those that
are not, and comes after (before) no other of these.  The documents in another order give an equal value, provided that no
name stands twice in a document among the values. -/
theorem extremum_in_any_order (hr : r.Keeps keep) (hvs : ds.mapM (fun d => source.eval d scope) = .ok vs)
    (hnan : ∀ v ∈ vs, v.hasNaN = false) : ∃ s, (reduce r source).gather scope ds = .ok s ∧
      Value.IsExtremum keep vs .null ((reduce r source).finish s) ∧
      ((∀ v ∈ vs, v.everywhere Value.isDistinct = true) → ∀ ds', ds'.Perm ds →
        ∃ s', (reduce r source).gather scope ds' = .ok s' ∧
          ((reduce r source).finish s == (reduce r source).finish s') = true) := by
  obtain ⟨s, hs, hbest⟩ := gather_extremum hr hvs hnan
  refine ⟨s, hs, hbest, fun hd ds' hperm => ?_⟩
  obtain ⟨vs', hvs', hpermvs⟩ := Except.mapM_perm hperm hvs
  obtain ⟨s', hs', hbest'⟩ := gather_extremum hr hvs' fun v hv => hnan v (hpermvs.mem_iff.1 hv)
  exact ⟨s', hs', hbest.beq hbest' hr.ne_eq hpermvs hnan hd⟩

/-- Zero and negative zero tie below a text, and which of them is kept depends on the order of the documents. -/
theorem extremum_zeros :
    let source : Expr := .operand (.field ⟨"v", []⟩)
    let ds : List Document := [⟨[("v", .string "x")]⟩, ⟨[("v", .number 0.0)]⟩, ⟨[("v", .null)]⟩, ⟨[]⟩,
      ⟨[("v", .number (-0.0))]⟩]
    let vs : List Value := [.string "x", .number 0.0, .null, .missing, .number (-0.0)]
    ∃ s, (reduce .min source).gather ⟨.group, "g"⟩ ds = .ok s ∧
      Value.IsExtremum .lt vs .null ((reduce .min source).finish s) ∧
      ∃ s', (reduce .min source).gather ⟨.group, "g"⟩ ds.reverse = .ok s' ∧
        ((reduce .min source).finish s == (reduce .min source).finish s') = true := by
  intro source ds vs
  have hvs : ds.mapM (fun d => source.eval d ⟨.group, "g"⟩) = .ok vs := rfl
  obtain ⟨s, hs, hbest, hperm⟩ := extremum_in_any_order .min hvs (by decide)
  exact ⟨s, hs, hbest, hperm (by decide) ds.reverse (List.reverse_perm ds)⟩

end Accumulator

end DocFlow
