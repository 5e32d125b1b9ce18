import DocFlow.Proofs.Document.Route

/-!
# Laws of reading and writing

Writing at a path is undone by nothing but another write there: what has been written is read
(`get_set_self`), the later of two writes at one path counts (`set_set`), and writing what is read on a direct route
changes nothing (`set_get`).  Where the paths are apart, writing keeps what is read at the other path, unless the two
part behind an array, which a document then replaces (`get_set_of_apart`, `get_set_of_partBehindArray`).
-/

namespace DocFlow.Document

variable {d : Document} {p q : Path} {v w : Value}

/-! ## One path -/

theorem get_set_self (hv : v ≠ .missing) : (d.set p v).get p = v := by
  induction p using Path.induction generalizing d with
  | single key => rw [set_single hv, get_single, field?_insert_self, Option.getD_some]
  | under key p ih => rw [set_under hv, get_under_document field?_insert_self, ih]

/-- The later of two writes counts, and fields keep their places. -/
theorem set_set (hv : v ≠ .missing) (hw : w ≠ .missing) : (d.set p v).set p w = d.set p w := by
  induction p using Path.induction generalizing d with
  | single key => simp only [set_single hv, set_single hw, insert_insert]
  | under key p ih =>
    have hinside : (d.set (p.under key) v).inside key = (d.inside key).set p v := by
      rw [set_under hv]
      exact inside_of_document field?_insert_self
    rw [set_under hw, hinside, ih, set_under hv, insert_insert, ← set_under hw]

/-- Writing what is read on a direct route changes nothing. -/
theorem set_get (hroute : d.Direct p) (hthere : d.get p ≠ .missing) : d.set p (d.get p) = d := by
  induction p using Path.induction generalizing d with
  | single key =>
    rw [set_single hthere]
    match h : d.field? key with
    | some v => exact insert_of_field? (by rw [get_single, h, Option.getD_some])
    | none => exact absurd (by rw [get_single, h, Option.getD_none]) hthere
  | under key p ih =>
    cases crossing d key with
    | document inner h =>
      rw [get_under_document h] at hthere
      rw [get_under_document h, set_under hthere, inside_of_document h,
        ih ((direct_under_document h).1 hroute) hthere, insert_of_field? h]
    | array items h => exact absurd hroute (not_direct_under_array h)
    | deadEnd hdocument harray => exact absurd (get_under_deadEnd hdocument harray) hthere

/-! ## Two paths -/

/-- Writing keeps what is read at a path apart, if the two do not part behind an array. -/
theorem get_set_of_apart (hv : v ≠ .missing) (hq : p.Apart q) (hfree : ¬ d.PartBehindArray p q) :
    (d.set p v).get q = d.get q := by
  induction p using Path.induction generalizing d q with
  | single key =>
    rw [set_single hv]
    exact get_congr (field?_insert_of_ne hq.ne_head_of_single)
  | under key p ih =>
    rw [set_under hv]
    rcases hq.of_under with hne | ⟨q, rfl, hinner⟩
    · exact get_congr (field?_insert_of_ne hne)
    · rw [get_under_document field?_insert_self]
      cases crossing d key with
      | document inner h =>
        rw [inside_of_document h, get_under_document h]
        exact ih hinner (mt (partBehindArray_under_document h).2 hfree)
      | array items h => exact absurd (partBehindArray_under_array h) hfree
      | deadEnd hdocument harray =>
        -- the path is written into an empty document, where nothing is read at the other
        rw [inside_of_not_document hdocument, get_under_deadEnd hdocument harray, ih hinner, get_empty]
        exact (direct_empty p).not_partBehindArray

/-- Behind an array that writing replaces, nothing is read at a path apart. -/
theorem get_set_of_partBehindArray (hv : v ≠ .missing) (hq : p.Apart q) (h : d.PartBehindArray p q) :
    (d.set p v).get q = .missing := by
  induction p using Path.induction generalizing d q with
  | single key =>
    obtain ⟨r, hr, -⟩ := h
    cases hr
  | under key p ih =>
    have harr := kind_get_of_partBehindArray h
    rcases hq.of_under with hne | ⟨q, rfl, hinner⟩
    · exact absurd h.head_eq hne
    · rw [set_under hv, get_under_document field?_insert_self]
      cases crossing d key with
      | document inner hd =>
        rw [inside_of_document hd]
        exact ih hinner ((partBehindArray_under_document hd).1 h)
      | array items ha =>
        rw [inside_of_not_document (by simp [ha, toValue]), get_set_of_apart hv hinner, get_empty]
        exact (direct_empty p).not_partBehindArray
      | deadEnd hdocument harray =>
        rw [get_under_deadEnd hdocument harray] at harr
        cases harr

/-! ## The laws together -/

/-- **Paths are lenses.**  What is written at a path is read there, and the later of two writes counts, down to the
order of the fields.  If the route of the path is direct, writing what is read there changes nothing, and writing
keeps what is read at every path apart. -/
theorem lens_laws (d : Document) (p : Path) (hv : v ≠ .missing) (hw : w ≠ .missing) :
    (d.set p v).get p = v ∧ (d.set p v).set p w = d.set p w ∧
      (d.Direct p → d.get p ≠ .missing → d.set p (d.get p) = d) ∧
      (d.Direct p → ∀ q, p.Apart q → (d.set p v).get q = d.get q) :=
  ⟨get_set_self hv, set_set hv hw, set_get,
    fun hroute _ hq => get_set_of_apart hv hq hroute.not_partBehindArray⟩

/-- A path with an empty key, into a document beside an array: another path goes on through the array. -/
theorem lens_laws_empty_key :
    let inner : Document := ⟨[("b", .array [.document [("c", .string "x")]]), ("", .null)]⟩
    let d : Document := ⟨[("a", inner.toValue), ("z", .string "y")]⟩
    let d' : Document := ⟨[("a", (inner.insert "" (.string "v")).toValue), ("z", .string "y")]⟩
    let p : Path := .ofString "a."
    let q : Path := .ofString "a.b.c"
    d.Direct p ∧ p.Apart q ∧ d.get p = .null ∧ d.set p .null = d ∧ d.set p (.string "v") = d' ∧
      d'.get p = .string "v" ∧ d'.get q = d.get q ∧ d.get q = .array [.string "x"] := by
  intro inner d d' p q
  have hroute : d.Direct p := by decide
  have hapart : p.Apart q := by decide
  have hset : d.set p (.string "v") = d' := rfl
  obtain ⟨hread, -, hsame, hkeep⟩ := lens_laws d p (v := .string "v") (w := .null) nofun nofun
  rw [hset] at hread hkeep
  exact ⟨hroute, hapart, rfl, hsame hroute nofun, hset, hread, hkeep hroute q hapart, rfl⟩

end DocFlow.Document
