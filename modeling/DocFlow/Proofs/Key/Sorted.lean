import DocFlow.Value.Key

/-!
# Fields sorted by key

Sorting by key keeps the fields of each key in order (`withKey_mergeSort`), so two lists of fields are the same
once sorted if and only if they have the same fields of each key, in the same order (`mergeSort_eq_iff`).
-/

namespace DocFlow.Value

variable {fs gs : List (String × List Char)}

def withKey (k : String) (fs : List (String × List Char)) : List (String × List Char) := fs.filter (·.1 = k)

theorem keyLe_iff {f g : String × List Char} : keyLe f g = true ↔ f.1 ≤ g.1 := by
  rw [keyLe, Bool.not_eq_true', decide_eq_false_iff_not, String.not_lt]

theorem keyLe_trans (f g h : String × List Char) (hfg : keyLe f g = true) (hgh : keyLe g h = true) :
    keyLe f h = true := by
  rw [keyLe_iff] at *
  exact String.le_trans hfg hgh

theorem keyLe_total (f g : String × List Char) : (keyLe f g || keyLe g f) = true := by
  rw [Bool.or_eq_true, keyLe_iff, keyLe_iff]
  exact String.le_total f.1 g.1

/-- Sorting is stable: it keeps the fields of a key in order. -/
theorem withKey_mergeSort (k : String) (fs : List (String × List Char)) :
    withKey k (fs.mergeSort keyLe) = withKey k fs := by
  have hsame : (withKey k fs).Pairwise (keyLe · · = true) := by
    refine List.pairwise_of_forall_mem_list fun f hf g hg => ?_
    have hf := of_decide_eq_true (List.mem_filter.1 hf).2
    have hg := of_decide_eq_true (List.mem_filter.1 hg).2
    subst hf
    exact keyLe_iff.2 (hg ▸ String.le_refl g.1)
  have hsub : (withKey k fs).Sublist (fs.mergeSort keyLe) :=
    List.sublist_mergeSort keyLe_trans keyLe_total hsame List.filter_sublist
  have hsub : (withKey k fs).Sublist (withKey k (fs.mergeSort keyLe)) := by
    have h := hsub.filter (·.1 = k)
    simpa only [withKey, List.filter_filter, Bool.and_self] using h
  exact (hsub.eq_of_length ((List.mergeSort_perm fs keyLe).filter _).length_eq.symm).symm

/-- The first field of a sorted list has the least key. -/
theorem head_le_of_withKey {f g : String × List Char} (hfs : (f :: fs).Pairwise (keyLe · · = true))
    (h : withKey g.1 (f :: fs) = g :: gs) : f.1 ≤ g.1 := by
  have hg : g ∈ f :: fs := (List.mem_filter.1 (show g ∈ withKey g.1 (f :: fs) from h ▸ List.mem_cons_self)).1
  rcases List.mem_cons.1 hg with rfl | hg
  · exact String.le_refl _
  · exact keyLe_iff.1 (List.rel_of_pairwise_cons hfs hg)

/-- Sorted lists with the same fields of each key are the same. -/
theorem eq_of_withKey_eq (hfs : fs.Pairwise (keyLe · · = true)) (hgs : gs.Pairwise (keyLe · · = true))
    (h : ∀ k, withKey k fs = withKey k gs) : fs = gs := by
  induction fs generalizing gs with
  | nil =>
    cases gs with
    | nil => rfl
    | cons g gs => simpa [withKey] using h g.1
  | cons f fs ih =>
    cases gs with
    | nil => simpa [withKey] using h f.1
    | cons g gs =>
      have hf : withKey f.1 (f :: fs) = f :: withKey f.1 fs := by simp [withKey]
      have hg : withKey g.1 (g :: gs) = g :: withKey g.1 gs := by simp [withKey]
      have hkey : f.1 = g.1 := String.le_antisymm (head_le_of_withKey hfs ((h g.1).trans hg))
        (head_le_of_withKey hgs ((h f.1).symm.trans hf))
      have hfirst := (hf.symm.trans (h f.1)).trans (hkey ▸ hg)
      obtain rfl := (List.cons.inj hfirst).1
      refine congrArg (f :: ·) (ih hfs.of_cons hgs.of_cons fun k => ?_)
      have hk := h k
      unfold withKey at hk ⊢
      by_cases hfk : f.1 = k
      · simpa [hfk] using hk
      · simpa [hfk] using hk

/-- Two lists of fields are the same once sorted if and only if they have the same fields of each key. -/
theorem mergeSort_eq_iff : fs.mergeSort keyLe = gs.mergeSort keyLe ↔ ∀ k, withKey k fs = withKey k gs := by
  constructor
  · intro h k
    rw [← withKey_mergeSort, h, withKey_mergeSort]
  · intro h
    refine eq_of_withKey_eq (List.pairwise_mergeSort keyLe_trans keyLe_total fs)
      (List.pairwise_mergeSort keyLe_trans keyLe_total gs) fun k => ?_
    rw [withKey_mergeSort, withKey_mergeSort, h k]

end DocFlow.Value
