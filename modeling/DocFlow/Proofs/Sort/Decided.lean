import DocFlow.Proofs.Sort.Insertion

/-!
# Sorting by a key that decides

If no two documents of a list tie on the first key of an order, the other keys make no difference, also where
the values under them hold NaN, and the sorted list does not depend on the order in which the documents came
(`insertAll_perm`).
-/

namespace DocFlow

section Bisect

variable {α : Type} {p q : α → Bool} {xs : List α}

theorem any_getElem?_congr (h : ∀ x ∈ xs, p x = q x) (i : Nat) : xs[i]?.any p = xs[i]?.any q := by
  cases hx : xs[i]? with
  | none => rfl
  | some x => exact h x (List.mem_of_getElem? hx)

theorem bisect_congr (h : ∀ x ∈ xs, p x = q x) (fuel base size : Nat) :
    bisect p xs fuel base size = bisect q xs fuel base size := by
  induction fuel generalizing base size with
  | zero => rfl
  | succ fuel ih => simp only [bisect, any_getElem?_congr h, ih]

/-- Only the items of the list are asked for the property. -/
theorem partitionPoint_congr (h : ∀ x ∈ xs, p x = q x) : partitionPoint p xs = partitionPoint q xs := by
  simp only [partitionPoint, any_getElem?_congr h, bisect_congr h]

end Bisect

namespace SortKey

variable {k : SortKey} {keys : List SortKey} {ds : List Document} {d e : Document}

/-- Documents of the list tie on the key only if they are the same. -/
def Decides (k : SortKey) (ds : List Document) : Prop := ∀ a ∈ ds, ∀ b ∈ ds, k.compare a b = .eq → a = b

theorem Decides.perm {ds' : List Document} (h : k.Decides ds) (hperm : ds.Perm ds') : k.Decides ds' :=
  fun a ha b hb => h a (hperm.mem_iff.2 ha) b (hperm.mem_iff.2 hb)

theorem compareAll_singleton (a b : Document) (k : SortKey) : compareAll a b [k] = k.compare a b := by
  simp [compareAll]

theorem compareAll_self (d : Document) (keys : List SortKey) : compareAll d d keys = .eq := by
  have h := compareAll_swap d d keys
  cases hd : compareAll d d keys with
  | eq => rfl
  | lt => simp [hd] at h
  | gt => simp [hd] at h

theorem notAfter_of_decided (h : k.compare e d = .eq → e = d) : notAfter (k :: keys) e d = notAfter [k] e d := by
  unfold notAfter
  cases hk : k.compare e d with
  | eq =>
    obtain rfl := h hk
    rw [compareAll_self, compareAll_self]
  | _ => simp [compareAll, hk]

end SortKey

open SortKey

variable {k : SortKey} {keys : List SortKey} {ds ds' : List Document}

theorem insertAll_concat (keys : List SortKey) (ds : List Document) (d : Document) :
    insertAll keys (ds ++ [d]) [] = insertSorted keys d (insertAll keys ds []) := by
  rw [insertAll, List.foldl_append]
  rfl

theorem insertAll_perm_self (keys : List SortKey) (ds : List Document) : (insertAll keys ds []).Perm ds := by
  induction ds using List.reverseRecOn with
  | nil => exact .nil
  | append_singleton ds d ih =>
    rw [insertAll_concat]
    exact (insertSorted_perm keys d _).trans ((ih.cons d).trans (List.perm_append_singleton d ds).symm)

/-- A key that decides puts the documents in order by itself. -/
theorem insertAll_of_decides (h : k.Decides ds) : insertAll (k :: keys) ds [] = insertAll [k] ds [] := by
  induction ds using List.reverseRecOn with
  | nil => rfl
  | append_singleton ds d ih =>
    have hbefore : k.Decides ds := fun a ha b hb =>
      h a (List.mem_append_left _ ha) b (List.mem_append_left _ hb)
    rw [insertAll_concat, insertAll_concat, ih hbefore, insertSorted, insertSorted]
    congr 1
    refine partitionPoint_congr fun e he => notAfter_of_decided fun htie => ?_
    have he := (insertAll_perm_self [k] ds).mem_iff.1 he
    exact h e (List.mem_append_left _ he) d (by simp) htie

/-- **The order in which documents come makes no difference** to a sorted list, if its first key decides. -/
theorem insertAll_perm (hcomparable : ∀ d ∈ ds, Comparable [k] d) (hdecides : k.Decides ds)
    (hperm : ds.Perm ds') : insertAll (k :: keys) ds [] = insertAll (k :: keys) ds' [] := by
  rw [insertAll_of_decides hdecides, insertAll_of_decides (hdecides.perm hperm)]
  have hcomparable' : ∀ d ∈ ds', Comparable [k] d := fun d hd => hcomparable d (hperm.mem_iff.2 hd)
  have harranged := arranged_insertAll hcomparable
  have harranged' := arranged_insertAll hcomparable'
  refine List.Perm.eq_of_pairwise ?_ harranged.ordered harranged'.ordered
    (harranged.perm.trans (hperm.trans harranged'.perm.symm))
  intro a b ha hb hab hba
  have ha := harranged.perm.mem_iff.1 ha
  have hb := hperm.mem_iff.2 (harranged'.perm.mem_iff.1 hb)
  refine hdecides a ha b hb ?_
  rw [← compareAll_swap, compareAll_singleton] at hba
  rw [compareAll_singleton] at hab
  cases hk : k.compare a b with
  | eq => rfl
  | lt => simp [hk] at hba
  | gt => exact absurd hk hab

end DocFlow
