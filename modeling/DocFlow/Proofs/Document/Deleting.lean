import DocFlow.Proofs.Document.Route

/-!
# Deleting at several paths

Deleting takes away what `Document.deleted?` finds.  There is nothing left to take away at a path after it has been
deleted, also not after deleting at other paths (`deleted?_delete_self`, `deleted?_delete`), and where there is
nothing to take away, deleting changes nothing (`delete_of_deleted?`), as on a route that is not direct
(`deleted?_of_not_direct`).  Deleting makes no array, so direct routes stay direct (`Direct.delete`), and of several
paths, one whose route is not direct in the end has had no effect (`foldl_delete_filter_ne`).
-/

namespace DocFlow.Document

variable {d inner : Document} {p q r : Path} {key key' : String}

/-! ## Deleting along a path -/

theorem field?_remove_self : (d.remove key).field? key = none := Entries.get?_erase_self _ _

theorem field?_remove_of_ne (h : key ≠ key') : (d.remove key).field? key' = d.field? key' :=
  Entries.get?_erase_of_ne h _

theorem remove_of_field? (h : d.field? key = none) : d.remove key = d := by
  have hkeys : key ∉ Entries.keys d.fields := Entries.get?_eq_none_iff.1 h
  refine congrArg mk (List.filter_eq_self.2 fun e he => ?_)
  simpa using fun hk : e.1 = key => hkeys (hk ▸ List.mem_map_of_mem he)

theorem delete_single : d.delete ⟨key, []⟩ = d.remove key := rfl

theorem delete_under_document (h : d.field? key = some inner.toValue) :
    d.delete (p.under key) = d.insert key (inner.delete p).toValue := by
  simp only [field?, toValue] at h
  simp only [delete, Path.under, Path.keys, Fields.delete, h]
  rfl

theorem delete_under_of_not_document (h : ∀ inner : Document, d.field? key ≠ some inner.toValue) :
    d.delete (p.under key) = d := by
  simp only [delete, Path.under, Path.keys, Fields.delete]
  split
  · rename_i fields hd
    exact absurd hd (h ⟨fields⟩)
  · rfl

theorem deleted?_single : d.deleted? ⟨key, []⟩ = d.field? key := rfl

theorem deleted?_under_document (h : d.field? key = some inner.toValue) :
    d.deleted? (p.under key) = inner.deleted? p := by
  simp only [field?, toValue] at h
  simp only [deleted?, Path.under, Path.keys, Fields.deleted?, h]

theorem deleted?_under_of_not_document (h : ∀ inner : Document, d.field? key ≠ some inner.toValue) :
    d.deleted? (p.under key) = none := by
  simp only [deleted?, Path.under, Path.keys, Fields.deleted?]
  split
  · rename_i fields hd
    exact absurd hd (h ⟨fields⟩)
  · rfl

/-- What is taken away at a path only depends on the field at its first key. -/
theorem deleted?_congr {d' : Document} (h : d'.field? p.head = d.field? p.head) : d'.deleted? p = d.deleted? p := by
  obtain ⟨key, rest⟩ := p
  simp only [field?] at h
  cases rest <;> simp only [deleted?, Fields.deleted?, h]

theorem deleted?_of_field?_eq_none (h : d.field? p.head = none) : d.deleted? p = none := by
  rw [deleted?_congr (d := empty) h]
  obtain ⟨key, rest⟩ := p
  cases rest <;> rfl

theorem get_of_field?_eq_none (h : d.field? p.head = none) : d.get p = .missing := by
  rw [get_congr (d := empty) h, get_empty]

/-! ## Nothing left to delete -/

/-- After a path has been deleted, there is nothing left to delete at it. -/
theorem deleted?_delete_self : (d.delete p).deleted? p = none := by
  induction p using Path.induction generalizing d with
  | single key => rw [delete_single, deleted?_single, field?_remove_self]
  | under key p ih =>
    rcases crossing_document d key with ⟨inner, h⟩ | h
    · rw [delete_under_document h, deleted?_under_document field?_insert_self, ih]
    · rw [delete_under_of_not_document h, deleted?_under_of_not_document h]

/-- Deleting at another path leaves nothing to delete where there has been nothing. -/
theorem deleted?_delete (h : d.deleted? p = none) : (d.delete q).deleted? p = none := by
  induction q using Path.induction generalizing d p with
  | single key =>
    rw [delete_single]
    by_cases hk : key = p.head
    · subst hk
      exact deleted?_of_field?_eq_none field?_remove_self
    · rw [deleted?_congr (field?_remove_of_ne hk), h]
  | under key q ih =>
    rcases crossing_document d key with ⟨inner, hd⟩ | hd
    · rw [delete_under_document hd]
      by_cases hk : key = p.head
      · obtain ⟨k, rfl⟩ | ⟨k, p, rfl⟩ := p.single_or_under <;> obtain rfl : key = k := hk
        · -- the key alone would delete the document that is there
          rw [deleted?_single, hd] at h
          cases h
        · rw [deleted?_under_document hd] at h
          rw [deleted?_under_document field?_insert_self, ih h]
      · rw [deleted?_congr (field?_insert_of_ne hk), h]
    · rwa [delete_under_of_not_document hd]

/-- Where there is nothing to delete, deleting changes nothing. -/
theorem delete_of_deleted? (h : d.deleted? p = none) : d.delete p = d := by
  induction p using Path.induction generalizing d with
  | single key => exact remove_of_field? h
  | under key p ih =>
    rcases crossing_document d key with ⟨inner, hd⟩ | hd
    · rw [deleted?_under_document hd] at h
      rw [delete_under_document hd, ih h, insert_of_field? hd]
    · exact delete_under_of_not_document hd

/-- There is nothing to delete behind an array. -/
theorem deleted?_of_not_direct (h : ¬ d.Direct p) : d.deleted? p = none := by
  induction p using Path.induction generalizing d with
  | single key => exact absurd direct_single h
  | under key p ih =>
    rcases crossing_document d key with ⟨inner, hd⟩ | hd
    · rw [deleted?_under_document hd, ih (mt (direct_under_document hd).2 h)]
    · exact deleted?_under_of_not_document hd

/-! ## Direct routes -/

/-- What reads as an array after deleting has done so before. -/
theorem kind_get_of_delete (h : ((d.delete q).get r).kind = .array) : (d.get r).kind = .array := by
  induction q using Path.induction generalizing d r with
  | single key =>
    rw [delete_single] at h
    by_cases hk : key = r.head
    · subst hk
      rw [get_of_field?_eq_none field?_remove_self] at h
      cases h
    · rwa [get_congr (field?_remove_of_ne hk)] at h
  | under key q ih =>
    rcases crossing_document d key with ⟨inner, hd⟩ | hd
    · rw [delete_under_document hd] at h
      by_cases hk : key = r.head
      · obtain ⟨k, rfl⟩ | ⟨k, r, rfl⟩ := r.single_or_under <;> obtain rfl : key = k := hk
        · rw [get_single, field?_insert_self] at h
          cases h
        · rw [get_under_document field?_insert_self] at h
          rw [get_under_document hd, ih h]
      · rwa [get_congr (field?_insert_of_ne hk)] at h
    · rwa [delete_under_of_not_document hd] at h

theorem Direct.delete (h : d.Direct p) : (d.delete q).Direct p := fun r hr harray => h r hr (kind_get_of_delete harray)

/-! ## Deleting at several paths -/

variable {paths : List Path}

/-- What deleting at one path keeps, deleting at several keeps. -/
theorem foldl_delete_keeps {P : Document → Prop} (hdelete : ∀ {d q}, P d → P (d.delete q)) (h : P d) :
    P (paths.foldl delete d) := by
  induction paths generalizing d with
  | nil => exact h
  | cons q paths ih => exact ih (hdelete h)

/-- After several paths have been deleted, there is nothing left to delete at any of them. -/
theorem deleted?_foldl_delete_of_mem (hp : p ∈ paths) : (paths.foldl delete d).deleted? p = none := by
  induction paths generalizing d with
  | nil => cases hp
  | cons q paths ih =>
    rcases List.mem_cons.1 hp with rfl | hp
    · rw [List.foldl_cons]
      exact foldl_delete_keeps (P := fun d => d.deleted? p = none) deleted?_delete deleted?_delete_self
    · exact ih hp

/-- A path that is not direct after deleting might as well have been left out. -/
theorem foldl_delete_filter_ne (h : ¬ (paths.foldl delete d).Direct p) :
    (paths.filter (· ≠ p)).foldl delete d = paths.foldl delete d := by
  induction paths generalizing d with
  | nil => rfl
  | cons q paths ih =>
    rw [List.foldl_cons] at h ⊢
    by_cases hq : q = p
    · subst hq
      -- a route that is not direct in the end has not been so at this step, where the deletion has no effect
      have hindirect : ¬ d.Direct q := fun hd => h (foldl_delete_keeps (P := (Direct · q)) Direct.delete hd.delete)
      have hsame : d.delete q = d := delete_of_deleted? (deleted?_of_not_direct hindirect)
      rw [hsame] at h ⊢
      rw [List.filter_cons_of_neg (by simp), ih h]
    · rw [List.filter_cons_of_pos (by simpa using hq), List.foldl_cons, ih h]

end DocFlow.Document
