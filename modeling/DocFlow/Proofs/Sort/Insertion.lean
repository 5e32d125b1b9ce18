import DocFlow.Proofs.Order.Value
import DocFlow.Proofs.Sort.Bisect
import Mathlib.Data.List.Induction

/-!
# Sorted lists of documents

Documents whose values at the keys hold no NaN are put in order by their keys (`consistent_compareAll`),
so the place that bisection finds for one more document is the right one.  Documents put in one after
the other are in order, and those that tie stay in the order in which they came (`Arranged`).
-/

namespace DocFlow

/-- A sorted list with documents put in one after the other. -/
def insertAll (keys : List SortKey) (ds sorted : List Document) : List Document :=
  ds.foldl (fun sorted d => insertSorted keys d sorted) sorted

namespace SortKey

/-! ## The order of documents -/

/-- The values of a document at the paths of the keys hold no NaN. -/
def Comparable (keys : List SortKey) (d : Document) : Prop :=
  ∀ k ∈ keys, (d.get k.path).hasNaN = false

/-- Two documents tie on all keys. -/
def ties (keys : List SortKey) (d e : Document) : Bool := compareAll e d keys == .eq

variable {a b c : Document} {k : SortKey} {keys : List SortKey}

theorem compare_swap (k : SortKey) (a b : Document) : (k.compare a b).swap = k.compare b a := by
  unfold compare
  cases k.falling with
  | false => exact Value.compare_swap _ _
  | true => exact congrArg Ordering.swap (Value.compare_swap _ _)

theorem compareAll_swap (a b : Document) (keys : List SortKey) :
    (compareAll a b keys).swap = compareAll b a keys := by
  induction keys with
  | nil => rfl
  | cons k keys ih => rw [compareAll, compareAll, Ordering.swap_then, compare_swap, ih]

theorem consistent_compare (ha : (a.get k.path).hasNaN = false) (hb : (b.get k.path).hasNaN = false)
    (hc : (c.get k.path).hasNaN = false) :
    Consistent (k.compare a b) (k.compare b c) (k.compare a c) := by
  have h := Value.consistent_compare _ _ _ ha hb hc
  unfold compare
  cases k.falling with
  | false => exact h
  | true => exact h.swap

/-- Three documents stand to each other as in a chain, whatever the directions of the keys. -/
theorem consistent_compareAll (ha : Comparable keys a) (hb : Comparable keys b)
    (hc : Comparable keys c) :
    Consistent (compareAll a b keys) (compareAll b c keys) (compareAll a c keys) := by
  induction keys with
  | nil => exact .eq_eq_eq
  | cons k keys ih =>
    obtain ⟨ha, has⟩ := List.forall_mem_cons.1 ha
    obtain ⟨hb, hbs⟩ := List.forall_mem_cons.1 hb
    obtain ⟨hc, hcs⟩ := List.forall_mem_cons.1 hc
    exact (consistent_compare ha hb hc).lex (ih has hbs hcs)

theorem notAfter_iff : notAfter keys a b = true ↔ compareAll a b keys ≠ .gt := by
  simp [notAfter]

theorem notAfter_eq_false_iff : notAfter keys a b = false ↔ compareAll a b keys = .gt := by
  simp [notAfter]

theorem ties_iff : ties keys a b = true ↔ compareAll b a keys = .eq := beq_iff_eq

end SortKey

open SortKey

/-! ## Documents in order -/

/-- The documents of a list in order: all of them, the earlier ones not after the later ones, and those
that tie with any document as they stand in the list. -/
structure Arranged (keys : List SortKey) (ds sorted : List Document) : Prop where
  perm : sorted.Perm ds
  ordered : sorted.Pairwise fun a b => compareAll a b keys ≠ .gt
  stable : ∀ e, Comparable keys e → sorted.filter (ties keys e) = ds.filter (ties keys e)

namespace Arranged

variable {keys : List SortKey} {ds sorted : List Document} {d : Document}

theorem nil : Arranged keys [] [] where
  perm := .nil
  ordered := .nil
  stable _ _ := rfl

/-- The documents that stand before one more document come first. -/
theorem split (h : Arranged keys ds sorted) (hds : ∀ e ∈ ds, Comparable keys e)
    (hd : Comparable keys d) : Split (fun old => notAfter keys old d) sorted := by
  refine h.ordered.imp_of_mem fun {a b} ha hb hab hbd => ?_
  have ha := hds a (h.perm.mem_iff.1 ha)
  have hb := hds b (h.perm.mem_iff.1 hb)
  rw [notAfter_iff] at hbd ⊢
  exact (consistent_compareAll ha hb hd).ne_gt hab hbd

/-- One more document goes between those that do not come after it and those that do. -/
theorem insertSorted_eq (h : Arranged keys ds sorted) (hds : ∀ e ∈ ds, Comparable keys e)
    (hd : Comparable keys d) :
    insertSorted keys d sorted = sorted.filter (fun old => notAfter keys old d) ++
      d :: sorted.filter (fun old => !notAfter keys old d) :=
  insertAt_partitionPoint (h.split hds hd) d

theorem compareAll_of_mem_behind {b : Document}
    (hb : b ∈ sorted.filter fun old => !notAfter keys old d) : compareAll b d keys = .gt := by
  rw [← notAfter_eq_false_iff]
  simpa using (List.mem_filter.1 hb).2

theorem ordered_insertSorted (h : Arranged keys ds sorted) (hds : ∀ e ∈ ds, Comparable keys e)
    (hd : Comparable keys d) :
    (insertSorted keys d sorted).Pairwise fun a b => compareAll a b keys ≠ .gt := by
  have hcomparable : ∀ e ∈ sorted, Comparable keys e := fun e he => hds e (h.perm.mem_iff.1 he)
  have hbefore : ∀ a ∈ sorted.filter (fun old => notAfter keys old d), compareAll a d keys ≠ .gt :=
    fun a ha => notAfter_iff.1 (List.mem_filter.1 ha).2
  have hafter : ∀ b ∈ sorted.filter (fun old => !notAfter keys old d), compareAll d b keys ≠ .gt := by
    intro b hb
    rw [← compareAll_swap, compareAll_of_mem_behind hb]
    simp
  rw [h.insertSorted_eq hds hd, List.pairwise_append, List.pairwise_cons]
  refine ⟨h.ordered.filter _, ⟨hafter, h.ordered.filter _⟩, fun a ha b hb => ?_⟩
  rcases List.mem_cons.1 hb with rfl | hb
  · exact hbefore a ha
  · have ha' := hcomparable a (List.mem_filter.1 ha).1
    have hb' := hcomparable b (List.mem_filter.1 hb).1
    exact (consistent_compareAll ha' hd hb').ne_gt (hbefore a ha) (hafter b hb)

theorem stable_insertSorted (h : Arranged keys ds sorted) (hds : ∀ e ∈ ds, Comparable keys e)
    (hd : Comparable keys d) {e : Document} (he : Comparable keys e) :
    (insertSorted keys d sorted).filter (ties keys e) = (ds ++ [d]).filter (ties keys e) := by
  have hsplit := congrArg (List.filter (ties keys e)) (h.split hds hd).filter_append
  rw [List.filter_append, h.stable e he] at hsplit
  rw [h.insertSorted_eq hds hd, List.filter_append, List.filter_append, List.filter_cons, ← hsplit]
  cases htie : ties keys e d with
  | false => simp [htie]
  | true =>
    -- a document behind the new one does not tie with it, so not with `e` either
    have hafter : (sorted.filter fun old => !notAfter keys old d).filter (ties keys e) = [] := by
      refine List.filter_eq_nil_iff.2 fun b hb => ?_
      have hb' := hds b (h.perm.mem_iff.1 (List.mem_filter.1 hb).1)
      have hbe := (consistent_compareAll hb' hd he).of_eq_right (ties_iff.1 htie)
      rw [ties_iff, hbe, compareAll_of_mem_behind hb]
      simp
    simp [htie, hafter]

/-- Putting in one more document keeps the list in order. -/
theorem insert (h : Arranged keys ds sorted) (hds : ∀ e ∈ ds, Comparable keys e)
    (hd : Comparable keys d) : Arranged keys (ds ++ [d]) (insertSorted keys d sorted) where
  perm := (insertSorted_perm keys d sorted).trans
    ((h.perm.cons d).trans (List.perm_append_singleton d ds).symm)
  ordered := h.ordered_insertSorted hds hd
  stable _ he := h.stable_insertSorted hds hd he

end Arranged

/-- Documents put in one after the other are in order. -/
theorem arranged_insertAll {keys : List SortKey} {ds : List Document}
    (hds : ∀ d ∈ ds, Comparable keys d) : Arranged keys ds (insertAll keys ds []) := by
  induction ds using List.reverseRecOn with
  | nil => exact .nil
  | append_singleton ds d ih =>
    have hbefore : ∀ e ∈ ds, Comparable keys e := fun e he => hds e (List.mem_append_left _ he)
    rw [insertAll, List.foldl_append]
    exact (ih hbefore).insert hbefore (hds d (by simp))

end DocFlow
