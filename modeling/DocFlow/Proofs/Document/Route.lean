import DocFlow.Document.Basic

/-!
# The route of a path

Reading at a path goes through documents and fans out at the arrays on its way; writing and deleting go through
documents only.  What writing does to the rest of a document therefore depends on whether the route of the path is
direct, that is, whether no proper beginning of the path reads as an array (`Document.Direct`), and for another path,
on whether the two part behind an array (`Document.PartBehindArray`).

Proofs about a path go by its keys (`Path.induction`) and by what stands at the first of them (`Document.crossing`).
-/

namespace DocFlow

/-! ## Beginnings of a path -/

namespace Path

/-- The path with a key in front. -/
def under (key : String) (p : Path) : Path := ⟨key, p.keys⟩

/-- The proper beginnings of the path of some keys, from the shortest on. -/
def properFrom (key : String) : List String → List Path
  | [] => []
  | next :: rest => ⟨key, []⟩ :: (properFrom next rest).map (under key)

/-- The proper beginnings of a path, from the shortest on. -/
def proper (p : Path) : List Path := properFrom p.head p.rest

/-- Neither of two paths is a beginning of the other. -/
def Apart (p q : Path) : Prop := ¬ p.keys <+: q.keys ∧ ¬ q.keys <+: p.keys

instance (p q : Path) : Decidable (p.Apart q) := inferInstanceAs (Decidable (_ ∧ _))

/-- What holds of single keys, and with a path also of the path behind one more key, holds of all paths. -/
@[elab_as_elim]
theorem induction {motive : Path → Prop} (single : ∀ key, motive ⟨key, []⟩)
    (under : ∀ key p, motive p → motive (p.under key)) (p : Path) : motive p := by
  obtain ⟨key, rest⟩ := p
  induction rest generalizing key with
  | nil => exact single key
  | cons next rest ih => exact under key ⟨next, rest⟩ (ih next)

variable {p q r : Path} {key : String}

/-- A path is a single key, or a path behind a key. -/
theorem single_or_under (p : Path) : (∃ key, p = ⟨key, []⟩) ∨ ∃ key q, p = under key q := by
  obtain ⟨key, rest⟩ := p
  cases rest with
  | nil => exact .inl ⟨key, rfl⟩
  | cons next rest => exact .inr ⟨key, ⟨next, rest⟩, rfl⟩

theorem under_inj : under key p = under key q ↔ p = q := by
  obtain ⟨_, _⟩ := p
  obtain ⟨_, _⟩ := q
  simp [under, keys]

/-! ### Beginnings -/

theorem keys_single_prefix_iff : (mk key []).keys <+: p.keys ↔ p.head = key := by
  simp [keys, List.cons_prefix_cons, eq_comm]

theorem keys_under_prefix_iff : (r.under key).keys <+: p.keys ↔ ∃ q, p = under key q ∧ r.keys <+: q.keys := by
  obtain ⟨k, rfl⟩ | ⟨k, p, rfl⟩ := p.single_or_under
  · simp [under, keys, List.cons_prefix_cons]
  · constructor
    · intro h
      obtain ⟨rfl, h⟩ := List.cons_prefix_cons.1 h
      exact ⟨p, rfl, h⟩
    · rintro ⟨q, hq, h⟩
      obtain rfl : key = k := congrArg head hq.symm
      exact List.cons_prefix_cons.2 ⟨rfl, under_inj.1 hq ▸ h⟩

theorem head_eq_of_beginning (h : r.keys <+: p.keys) : r.head = p.head := (List.cons_prefix_cons.1 h).1

theorem proper_single : (mk key []).proper = [] := rfl

theorem proper_under : (p.under key).proper = ⟨key, []⟩ :: p.proper.map (under key) := rfl

/-- The proper beginnings of a path are the shorter paths whose keys it starts with. -/
theorem mem_proper_iff : r ∈ p.proper ↔ r.keys <+: p.keys ∧ r ≠ p := by
  induction p using Path.induction generalizing r with
  | single key =>
    obtain ⟨k, rfl⟩ | ⟨k, r, rfl⟩ := r.single_or_under
    · simp [proper_single, keys_single_prefix_iff, eq_comm]
    · simp [proper_single, under, keys, List.cons_prefix_cons]
  | under key p ih =>
    obtain ⟨k, rfl⟩ | ⟨k, r, rfl⟩ := r.single_or_under
    · rw [proper_under, keys_single_prefix_iff]
      simp [under, keys, eq_comm]
    · have hne : under k r ≠ ⟨key, []⟩ := by simp [under, keys]
      rw [proper_under, List.mem_cons, or_iff_right hne, List.mem_map, keys_under_prefix_iff]
      constructor
      · rintro ⟨r', hr', h⟩
        obtain rfl : key = k := congrArg head h
        obtain rfl := under_inj.1 h
        obtain ⟨hkeys, hne⟩ := ih.1 hr'
        exact ⟨⟨p, rfl, hkeys⟩, mt under_inj.1 hne⟩
      · rintro ⟨⟨q, hq, hkeys⟩, hne⟩
        obtain rfl : key = k := congrArg head hq
        obtain rfl := under_inj.1 hq
        exact ⟨r, ih.2 ⟨hkeys, mt under_inj.2 hne⟩, rfl⟩

/-! ### Paths that part -/

theorem apart_under_iff : (p.under key).Apart (q.under key) ↔ p.Apart q := by
  simp only [Apart, under, keys, List.cons_prefix_cons, true_and]

theorem Apart.ne_head_of_single (h : (mk key []).Apart q) : key ≠ q.head := fun hk =>
  h.1 (keys_single_prefix_iff.2 hk.symm)

/-- A path that is apart from one behind a key starts with another key, or is apart behind the same key. -/
theorem Apart.of_under (h : (under key p).Apart q) : key ≠ q.head ∨ ∃ q', q = under key q' ∧ p.Apart q' := by
  by_cases hk : key = q.head
  · obtain ⟨k, rfl⟩ | ⟨k, q, rfl⟩ := q.single_or_under
    · exact absurd (keys_single_prefix_iff.2 hk) h.2
    · obtain rfl : key = k := hk
      exact .inr ⟨q, rfl, apart_under_iff.1 h⟩
  · exact .inl hk

end Path

/-! ## Documents along a path -/

namespace Document

variable {d inner : Document} {p q r : Path} {key key' : String} {v : Value} {items : List Value}

/-- What a path meets at its first key: a document, which it leads into, an array, at which reading fans out, or
anything else, at which it ends. -/
inductive Crossing (d : Document) (key : String) : Prop
  | document (inner : Document) (h : d.field? key = some inner.toValue)
  | array (items : List Value) (h : d.field? key = some (.array items))
  | deadEnd (hdocument : ∀ inner : Document, d.field? key ≠ some inner.toValue)
    (harray : ∀ items, d.field? key ≠ some (.array items))

theorem crossing (d : Document) (key : String) : Crossing d key := by
  match h : d.field? key with
  | some (.document fields) => exact .document ⟨fields⟩ h
  | some (.array items) => exact .array items h
  | none => exact .deadEnd (by simp [h]) (by simp [h])
  | some .missing | some .null | some (.bool _) | some (.number _) | some (.string _) | some (.timestamp _) =>
    exact .deadEnd (by simp [h, toValue]) (by simp [h])

/-- A path leads into a document at a key, or it does not. -/
theorem crossing_document (d : Document) (key : String) :
    (∃ inner : Document, d.field? key = some inner.toValue) ∨
      ∀ inner : Document, d.field? key ≠ some inner.toValue := by
  cases crossing d key with
  | document inner h => exact .inl ⟨inner, h⟩
  | array items h => exact .inr (by simp [h, toValue])
  | deadEnd hdocument _ => exact .inr hdocument

/-! ### Reading -/

theorem get_single : d.get ⟨key, []⟩ = (d.field? key).getD .missing := rfl

theorem get_under_document (h : d.field? key = some inner.toValue) : d.get (p.under key) = inner.get p := by
  simp only [field?, toValue] at h
  simp only [get, Path.under, Path.keys, Fields.resolve, h]

theorem get_under_array (h : d.field? key = some (.array items)) :
    d.get (p.under key) =
      .array (((Fields.documents items).map fun inner => get ⟨inner⟩ p).filter (!·.isMissing)) := by
  simp only [field?] at h
  simp only [get, Path.under, Path.keys, Fields.resolve, h]

theorem get_under_deadEnd (hdocument : ∀ inner : Document, d.field? key ≠ some inner.toValue)
    (harray : ∀ items, d.field? key ≠ some (.array items)) : d.get (p.under key) = .missing := by
  simp only [get, Path.under, Path.keys, Fields.resolve]
  split
  · rename_i fields h
    exact absurd h (hdocument ⟨fields⟩)
  · rename_i items h
    exact absurd h (harray items)
  · rfl

/-- Reading at a path only asks for the field at its first key. -/
theorem get_congr {d' : Document} (h : d'.field? p.head = d.field? p.head) : d'.get p = d.get p := by
  obtain ⟨key, rest⟩ := p
  simp only [field?] at h
  cases rest <;> simp only [get, Fields.resolve, h]

theorem get_empty : empty.get p = .missing := by
  obtain ⟨key, rest⟩ := p
  cases rest <;> rfl

/-- Where a path ends early, no array is read. -/
theorem kind_get_single_ne_array (harray : ∀ items, d.field? key ≠ some (.array items)) :
    (d.get ⟨key, []⟩).kind ≠ .array := by
  rw [get_single]
  match h : d.field? key with
  | some (.array items) => exact absurd h (harray items)
  | none => nofun
  | some .missing | some .null | some (.bool _) | some (.number _) | some (.string _) | some (.timestamp _)
  | some (.document _) => nofun

/-- What is read behind an array is an array. -/
theorem kind_get_of_beginning (h : r.keys <+: q.keys) (hr : (d.get r).kind = .array) : (d.get q).kind = .array := by
  induction r using Path.induction generalizing d q with
  | single key =>
    obtain ⟨k, rfl⟩ | ⟨k, q, rfl⟩ := q.single_or_under <;> obtain rfl : k = key := Path.keys_single_prefix_iff.1 h
    · exact hr
    · cases crossing d k with
      | document inner hd => rw [get_single, hd] at hr; cases hr
      | array items ha => rw [get_under_array ha]; rfl
      | deadEnd hd ha => exact absurd hr (kind_get_single_ne_array ha)
  | under key r ih =>
    obtain ⟨q, rfl, hkeys⟩ := Path.keys_under_prefix_iff.1 h
    cases crossing d key with
    | document inner hd =>
      rw [get_under_document hd] at hr ⊢
      exact ih hkeys hr
    | array items ha => rw [get_under_array ha]; rfl
    | deadEnd hd ha =>
      rw [get_under_deadEnd hd ha] at hr
      cases hr

/-! ### Writing -/

/-- The document at a key; the empty one if there is none. -/
def inside (d : Document) (key : String) : Document := ⟨Fields.inside key d.fields⟩

theorem inside_of_document (h : d.field? key = some inner.toValue) : d.inside key = inner := by
  simp only [field?, toValue] at h
  simp only [inside, Fields.inside, h]

theorem inside_of_not_document (h : ∀ inner : Document, d.field? key ≠ some inner.toValue) : d.inside key = empty := by
  unfold inside Fields.inside
  split
  · rename_i fields hd
    exact absurd hd (h ⟨fields⟩)
  · rfl

theorem set_single (hv : v ≠ .missing) : d.set ⟨key, []⟩ v = d.insert key v := by
  cases v with
  | missing => exact absurd rfl hv
  | _ => rfl

theorem set_under (hv : v ≠ .missing) : d.set (p.under key) v = d.insert key ((d.inside key).set p v).toValue := by
  cases v with
  | missing => exact absurd rfl hv
  | _ => rfl

theorem field?_insert_self : (d.insert key v).field? key = some v := Entries.get?_put_self _ _ _

theorem field?_insert_of_ne (h : key ≠ key') : (d.insert key v).field? key' = d.field? key' :=
  Entries.get?_put_of_ne h _ _

theorem insert_insert {w : Value} : (d.insert key v).insert key w = d.insert key w :=
  congrArg mk (Entries.put_put _ _ _ _)

theorem insert_of_field? (h : d.field? key = some v) : d.insert key v = d := congrArg mk (Entries.put_of_get? h)

/-! ### Direct routes -/

/-- The route of a path meets no array: no proper beginning of the path reads as one. -/
def Direct (d : Document) (p : Path) : Prop := ∀ r ∈ p.proper, (d.get r).kind ≠ .array

instance : Decidable (d.Direct p) := inferInstanceAs (Decidable (∀ r ∈ p.proper, _))

theorem direct_single : d.Direct ⟨key, []⟩ := nofun

theorem direct_under_document (h : d.field? key = some inner.toValue) :
    d.Direct (p.under key) ↔ inner.Direct p := by
  unfold Direct
  rw [Path.proper_under, List.forall_mem_cons, List.forall_mem_map]
  simp only [get_under_document h, get_single, h]
  exact and_iff_right nofun

theorem not_direct_under_array (h : d.field? key = some (.array items)) : ¬ d.Direct (p.under key) := fun hd =>
  hd ⟨key, []⟩ List.mem_cons_self (by rw [get_single, h]; rfl)

theorem direct_empty (p : Path) : empty.Direct p := fun r _ => by
  rw [get_empty]
  nofun

/-! ### Paths that part behind an array -/

/-- Some proper beginning of a path, which another path shares, reads as an array. -/
def PartBehindArray (d : Document) (p q : Path) : Prop := ∃ r ∈ p.proper, r.keys <+: q.keys ∧ (d.get r).kind = .array

instance : Decidable (d.PartBehindArray p q) := inferInstanceAs (Decidable (∃ r ∈ p.proper, _))

theorem Direct.not_partBehindArray (h : d.Direct p) : ¬ d.PartBehindArray p q := fun ⟨r, hr, _, harray⟩ =>
  h r hr harray

/-- Paths that part behind an array start with the same key. -/
theorem PartBehindArray.head_eq (h : d.PartBehindArray p q) : p.head = q.head := by
  obtain ⟨r, hr, hkeys, -⟩ := h
  rw [← Path.head_eq_of_beginning (Path.mem_proper_iff.1 hr).1, Path.head_eq_of_beginning hkeys]

theorem partBehindArray_under_document (h : d.field? key = some inner.toValue) :
    d.PartBehindArray (p.under key) (q.under key) ↔ inner.PartBehindArray p q := by
  unfold PartBehindArray
  rw [Path.proper_under]
  constructor
  · rintro ⟨r, hr, hkeys, harray⟩
    rcases List.mem_cons.1 hr with rfl | hr
    · rw [get_single, h] at harray
      cases harray
    · obtain ⟨r, hmem, rfl⟩ := List.mem_map.1 hr
      obtain ⟨q', hq, hkeys⟩ := Path.keys_under_prefix_iff.1 hkeys
      rw [get_under_document h] at harray
      exact ⟨r, hmem, Path.under_inj.1 hq ▸ hkeys, harray⟩
  · rintro ⟨r, hr, hkeys, harray⟩
    exact ⟨r.under key, List.mem_cons_of_mem _ (List.mem_map_of_mem hr), Path.keys_under_prefix_iff.2 ⟨q, rfl, hkeys⟩,
      (get_under_document h).symm ▸ harray⟩

theorem partBehindArray_under_array (h : d.field? key = some (.array items)) :
    d.PartBehindArray (p.under key) (q.under key) :=
  ⟨⟨key, []⟩, List.mem_cons_self, Path.keys_single_prefix_iff.2 rfl, by rw [get_single, h]; rfl⟩

theorem kind_get_of_partBehindArray (h : d.PartBehindArray p q) : (d.get q).kind = .array :=
  let ⟨_, _, hkeys, harray⟩ := h
  kind_get_of_beginning hkeys harray

end Document

end DocFlow
