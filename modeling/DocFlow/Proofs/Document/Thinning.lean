import DocFlow.Proofs.Document.Deleting
import Mathlib.Data.List.Perm.Basic

/-!
# Deleting in any order

Deletions at two paths can be exchanged, whether the paths overlap or not (`delete_comm`), so the order in which
several paths are deleted does not matter (`foldl_delete_perm`).  Reading at a path that is apart from all of them
gives what it has given before (`get_foldl_delete`), and the keys that stay, in the document and in the documents
inside it, stay in their order (`Thinned`).
-/

namespace DocFlow.Document

variable {d d' d'' inner : Document} {p q r : Path} {key key' : String} {v w : Value} {paths paths' : List Path}

/-! ## Two deletions -/

theorem remove_remove : (d.remove key').remove key = (d.remove key).remove key' :=
  congrArg mk (Entries.erase_comm key key' _)

theorem remove_insert_self : (d.insert key v).remove key = d.remove key := congrArg mk (Entries.erase_put_self _ _ _)

theorem remove_insert_of_ne (h : key ≠ key') : (d.insert key' v).remove key = (d.remove key).insert key' v :=
  congrArg mk (Entries.erase_put_of_ne h _ _)

/-- Inserting at a key that is there and at another key can be exchanged. -/
theorem insert_comm (h : key ≠ key') (hkey : (d.field? key).isSome) :
    (d.insert key v).insert key' w = (d.insert key' w).insert key v :=
  congrArg mk (Entries.put_comm h v w hkey)

/-- A path that starts with another key leaves the field at a key. -/
theorem field?_delete_of_ne (h : key ≠ q.head) : (d.delete q).field? key = d.field? key := by
  obtain ⟨k, rfl⟩ | ⟨k, q, rfl⟩ := q.single_or_under
  · exact field?_remove_of_ne (Ne.symm h)
  · rcases crossing_document d k with ⟨inner, hd⟩ | hd
    · rw [delete_under_document hd]
      exact field?_insert_of_ne (Ne.symm h)
    · rw [delete_under_of_not_document hd]

/-- What is at a key can be removed before or after deleting at a path. -/
theorem remove_delete : (d.delete q).remove key = (d.remove key).delete q := by
  obtain ⟨k, rfl⟩ | ⟨k, q, rfl⟩ := q.single_or_under
  · exact remove_remove
  · rcases crossing_document d k with ⟨inner, hd⟩ | hd
    · rw [delete_under_document hd]
      by_cases hk : key = k
      · subst hk
        rw [remove_insert_self, delete_under_of_not_document]
        simp [field?_remove_self]
      · have hd' : (d.remove key).field? k = some inner.toValue := by rw [field?_remove_of_ne hk, hd]
        rw [remove_insert_of_ne hk, delete_under_document hd']
    · rw [delete_under_of_not_document hd]
      by_cases hk : key = k
      · subst hk
        rw [delete_under_of_not_document]
        simp [field?_remove_self]
      · rw [delete_under_of_not_document]
        rwa [field?_remove_of_ne hk]

/-- What is at a key can be replaced before or after deleting at a path that starts with another key. -/
theorem delete_insert_of_ne (h : key ≠ q.head) (hkey : (d.field? key).isSome) :
    (d.insert key v).delete q = (d.delete q).insert key v := by
  obtain ⟨k, rfl⟩ | ⟨k, q, rfl⟩ := q.single_or_under
  · exact remove_insert_of_ne (Ne.symm h)
  · have hfield : (d.insert key v).field? k = d.field? k := field?_insert_of_ne h
    rcases crossing_document d k with ⟨inner, hd⟩ | hd
    · rw [delete_under_document hd, delete_under_document (hfield.trans hd)]
      exact insert_comm h hkey
    · rw [delete_under_of_not_document hd, delete_under_of_not_document (hfield ▸ hd)]

/-- Deletions at two paths can be exchanged. -/
theorem delete_comm : (d.delete p).delete q = (d.delete q).delete p := by
  induction p using Path.induction generalizing d q with
  | single key => exact remove_delete.symm
  | under key p ih =>
    rcases crossing_document d key with ⟨inner, hd⟩ | hd
    · obtain ⟨k, rfl⟩ | ⟨k, q, rfl⟩ := q.single_or_under
      · exact remove_delete
      · rw [delete_under_document hd]
        by_cases hk : key = k
        · subst hk
          rw [delete_under_document field?_insert_self, delete_under_document hd,
            delete_under_document field?_insert_self, insert_insert, insert_insert, ih]
        · have hd' : (d.delete (q.under k)).field? key = some inner.toValue := by rw [field?_delete_of_ne hk, hd]
          rw [delete_insert_of_ne hk (hd ▸ rfl), delete_under_document hd']
    · -- where a path leads into no document, it does not after deleting at another path
      have hnone : d.deleted? (p.under key) = none := deleted?_under_of_not_document hd
      rw [delete_of_deleted? hnone, delete_of_deleted? (deleted?_delete hnone)]

/-- Reading at a path that is apart from the deleted one gives what it has given before. -/
theorem get_delete (h : p.Apart q) : (d.delete p).get q = d.get q := by
  induction p using Path.induction generalizing d q with
  | single key => exact get_congr (field?_remove_of_ne h.ne_head_of_single)
  | under key p ih =>
    rcases crossing_document d key with ⟨inner, hd⟩ | hd
    · rw [delete_under_document hd]
      rcases h.of_under with hk | ⟨q', rfl, h'⟩
      · exact get_congr (field?_insert_of_ne hk)
      · rw [get_under_document field?_insert_self, get_under_document hd, ih h']
    · rw [delete_under_of_not_document hd]

/-! ## The keys that stay -/

theorem keys_insert (hkey : (d.field? key).isSome) : (d.insert key v).keys = d.keys := Entries.keys_put_of_get? v hkey

theorem toValue_inj : d'.toValue = d.toValue ↔ d' = d :=
  ⟨fun h => congrArg mk (Value.document.inj h), congrArg toValue⟩

/-- Fields have been taken away from a document and from the documents inside it.  The keys that stay are in the order
they have been in, and what is no document has stayed as it is where it has stayed. -/
structure Thinned (d' d : Document) : Prop where
  keys : d'.keys.Sublist d.keys
  inside (r : Path) (inner' : Document) : d'.get r = inner'.toValue →
    ∃ inner : Document, d.get r = inner.toValue ∧ inner'.keys.Sublist inner.keys
  other (r : Path) : d'.get r ≠ .missing → (d'.get r).kind ≠ .document → d'.get r = d.get r

namespace Thinned

theorem refl (d : Document) : Thinned d d where
  keys := List.Sublist.refl _
  inside _ inner h := ⟨inner, h, List.Sublist.refl _⟩
  other _ _ _ := rfl

theorem trans (h : Thinned d'' d') (h' : Thinned d' d) : Thinned d'' d where
  keys := h.keys.trans h'.keys
  inside r inner'' hr := by
    obtain ⟨inner', hr', hkeys⟩ := h.inside r inner'' hr
    obtain ⟨inner, hr, hkeys'⟩ := h'.inside r inner' hr'
    exact ⟨inner, hr, hkeys.trans hkeys'⟩
  other r hmissing hkind := by
    have heq : d''.get r = d'.get r := h.other r hmissing hkind
    rw [heq] at hmissing hkind ⊢
    exact h'.other r hmissing hkind

/-- Removing a field thins a document out. -/
theorem remove (d : Document) (key : String) : Thinned (d.remove key) d := by
  have hget (r : Path) (hr : (d.remove key).get r ≠ .missing) : (d.remove key).get r = d.get r := by
    by_cases hk : key = r.head
    · subst hk
      exact absurd (get_of_field?_eq_none field?_remove_self) hr
    · exact get_congr (field?_remove_of_ne hk)
  exact {
    keys := Entries.keys_erase_sublist key d.fields
    inside := fun r inner h => ⟨inner, hget r (h ▸ nofun) ▸ h, List.Sublist.refl _⟩
    other := fun r hr _ => hget r hr }

/-- Thinning out the document at a key thins out the document around it. -/
theorem insert (hd : d.field? key = some inner.toValue) {inner' : Document} (h : Thinned inner' inner) :
    Thinned (d.insert key inner'.toValue) d where
  keys := by rw [keys_insert (hd ▸ rfl)]
  inside r deep' hr := by
    by_cases hk : key = r.head
    · obtain ⟨k, rfl⟩ | ⟨k, r, rfl⟩ := r.single_or_under <;> obtain rfl : key = k := hk
      · rw [get_single, field?_insert_self] at hr
        obtain rfl := toValue_inj.1 hr
        exact ⟨inner, by rw [get_single, hd]; rfl, h.keys⟩
      · rw [get_under_document field?_insert_self] at hr
        rw [get_under_document hd]
        exact h.inside r deep' hr
    · rw [get_congr (field?_insert_of_ne hk)] at hr
      exact ⟨deep', hr, List.Sublist.refl _⟩
  other r hmissing hkind := by
    by_cases hk : key = r.head
    · obtain ⟨k, rfl⟩ | ⟨k, r, rfl⟩ := r.single_or_under <;> obtain rfl : key = k := hk
      · rw [get_single, field?_insert_self] at hkind
        exact absurd rfl hkind
      · rw [get_under_document field?_insert_self] at hmissing hkind ⊢
        rw [get_under_document hd]
        exact h.other r hmissing hkind
    · exact get_congr (field?_insert_of_ne hk)

/-- Deleting at a path thins a document out. -/
theorem delete (d : Document) (p : Path) : Thinned (d.delete p) d := by
  induction p using Path.induction generalizing d with
  | single key => exact remove d key
  | under key p ih =>
    rcases crossing_document d key with ⟨inner, hd⟩ | hd
    · rw [delete_under_document hd]
      exact insert hd (ih inner)
    · rw [delete_under_of_not_document hd]
      exact refl d

end Thinned

/-! ## Several deletions -/

/-- Deleting where there is nothing to delete changes nothing. -/
theorem foldl_delete_of_deleted? (h : ∀ p ∈ paths, d.deleted? p = none) : paths.foldl delete d = d := by
  induction paths with
  | nil => rfl
  | cons p paths ih =>
    obtain ⟨hp, hpaths⟩ := List.forall_mem_cons.1 h
    rw [List.foldl_cons, delete_of_deleted? hp, ih hpaths]

/-- Deleting at the same paths again changes nothing. -/
theorem foldl_delete_foldl_delete : paths.foldl delete (paths.foldl delete d) = paths.foldl delete d :=
  foldl_delete_of_deleted? fun _ => deleted?_foldl_delete_of_mem

/-- The order in which paths are deleted does not matter. -/
theorem foldl_delete_perm (h : paths'.Perm paths) : paths'.foldl delete d = paths.foldl delete d :=
  h.foldl_eq' (fun _ _ _ _ _ => delete_comm) d

/-- Reading at a path that is apart from all deleted ones gives what it has given before. -/
theorem get_foldl_delete (h : ∀ p ∈ paths, p.Apart q) : (paths.foldl delete d).get q = d.get q := by
  induction paths generalizing d with
  | nil => rfl
  | cons p paths ih =>
    obtain ⟨hp, hpaths⟩ := List.forall_mem_cons.1 h
    rw [List.foldl_cons, ih hpaths, get_delete hp]

theorem thinned_foldl_delete (d : Document) (paths : List Path) : Thinned (paths.foldl delete d) d :=
  foldl_delete_keeps (P := (Thinned · d)) (fun {_ q} h => (Thinned.delete _ q).trans h) (Thinned.refl d)

end DocFlow.Document
