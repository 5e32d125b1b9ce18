import DocFlow.Proofs.Document.Thinning
import DocFlow.Stage.Projection

/-!
# Fields left out by a projection

Reading at a path looks for its last key in some documents (`Document.holders`): those that its other keys lead to,
through documents and through the documents of arrays.  A projection that excludes the path takes the key away from
them if the route is direct; behind an array it leaves them as they are (`Projection.excluded_gone`).  What it gives out
does not depend on the order of the paths, and the rest of the document keeps its values and its order
(`Projection.exclusion_thins`).
-/

namespace DocFlow

/-! ## Where the last key is looked for -/

/-- The fields among which reading at a path of keys looks for the last one. -/
def Fields.holders (fields : Entries Value) (key : String) : (rest : List String) → List (Entries Value)
  | [] => [fields]
  | next :: rest =>
    match Entries.get? key fields with
    | some (.document inner) => holders inner next rest
    | some (.array items) => (documents items).flatMap fun inner => holders inner next rest
    | _ => []

namespace Document

variable {d inner : Document} {p q : Path} {key : String}

/-- The documents in which reading at a path looks for its last key. -/
def holders (d : Document) (p : Path) : List Document := (Fields.holders d.fields p.head p.rest).map mk

theorem holders_single : d.holders ⟨key, []⟩ = [d] := rfl

theorem holders_under_document (h : d.field? key = some inner.toValue) : d.holders (p.under key) = inner.holders p := by
  simp only [field?, toValue] at h
  simp only [holders, Path.under, Path.keys, Fields.holders, h]

theorem holders_under_deadEnd (hdocument : ∀ inner : Document, d.field? key ≠ some inner.toValue)
    (harray : ∀ items, d.field? key ≠ some (.array items)) : d.holders (p.under key) = [] := by
  simp only [holders, Path.under, Path.keys, Fields.holders]
  split
  · rename_i fields h
    exact absurd h (hdocument ⟨fields⟩)
  · rename_i items h
    exact absurd h (harray items)
  · rfl

/-- On a direct route where there is nothing to delete, nothing is read, and no document in which the last key is looked
for has it. -/
theorem Direct.not_mem_keys_holders (hroute : d.Direct p) (h : d.deleted? p = none) :
    d.get p = .missing ∧ ∀ holder ∈ d.holders p, p.last ∉ holder.keys := by
  induction p using Path.induction generalizing d with
  | single key =>
    refine ⟨get_of_field?_eq_none h, ?_⟩
    rw [holders_single, List.forall_mem_singleton]
    exact Entries.get?_eq_none_iff.1 h
  | under key p ih =>
    have hlast : (p.under key).last = p.last := List.getLastD_cons ..
    rw [hlast]
    cases crossing d key with
    | document inner hd =>
      rw [deleted?_under_document hd] at h
      rw [get_under_document hd, holders_under_document hd]
      exact ih ((direct_under_document hd).1 hroute) h
    | array items ha => exact absurd hroute (not_direct_under_array ha)
    | deadEnd hdocument harray =>
      rw [get_under_deadEnd hdocument harray, holders_under_deadEnd hdocument harray]
      exact ⟨rfl, nofun⟩

end Document

namespace Projection

/-- **Excluded fields.**  A projection that excludes paths gives out a document for every document.  If the route of an
excluded path is direct in it, as it is if it is direct in the document that came in, then nothing is read at the
path, and no document in which its last key is looked for has that key.  Else excluding the path has changed nothing. -/
theorem excluded_gone (d : Document) (paths : List Path) :
    ∃ out, (without paths).apply d = .ok out ∧ ∀ p ∈ paths,
      (d.Direct p → out.Direct p) ∧
      (out.Direct p → out.get p = .missing ∧ ∀ holder ∈ out.holders p, p.last ∉ holder.keys) ∧
      (¬ out.Direct p → (without (paths.filter (· ≠ p))).apply d = .ok out) := by
  refine ⟨paths.foldl Document.delete d, rfl, fun p hp => ⟨?_, ?_, ?_⟩⟩
  · exact Document.foldl_delete_keeps (P := (·.Direct p)) (·.delete)
  · exact fun hroute => hroute.not_mem_keys_holders (Document.deleted?_foldl_delete_of_mem hp)
  · exact fun hroute => congrArg Except.ok (Document.foldl_delete_filter_ne hroute)

/-- A path is excluded with another that goes on from it, and one that leads through an array has no effect. -/
theorem excluded_gone_overlap :
    let tags : Value := .array [.document [("x", .null)]]
    let paths : List Path := [.ofString "a.b.c", .ofString "a.b", .ofString "tags.x"]
    let d : Document := ⟨[("a", .document [("b", .document [("c", .null)]), ("e", .null)]), ("tags", tags)]⟩
    let out : Document := ⟨[("a", .document [("e", .null)]), ("tags", tags)]⟩
    (without paths).apply d = .ok out ∧ out.get (.ofString "a.b") = .missing ∧
      (∀ holder ∈ out.holders (.ofString "a.b"), "b" ∉ holder.keys) ∧
      out.holders (.ofString "a.b") = [⟨[("e", .null)]⟩] ∧
      (without [.ofString "a.b.c", .ofString "a.b"]).apply d = .ok out := by
  intro tags paths d out
  have hout : (without paths).apply d = .ok out := rfl
  obtain ⟨out', hout', hpaths⟩ := excluded_gone d paths
  obtain rfl := Except.ok.inj (hout'.symm.trans hout)
  obtain ⟨-, hgone, -⟩ := hpaths (.ofString "a.b") (by decide)
  obtain ⟨hmissing, hkeys⟩ := hgone (by decide)
  obtain ⟨-, -, hother⟩ := hpaths (.ofString "tags.x") (by decide)
  exact ⟨hout, hmissing, hkeys, rfl, hother (by decide)⟩

/-- A field of the documents of an array is excluded, and stays. -/
theorem excluded_stays_in_array :
    ¬ ∀ (d out : Document) (paths : List Path), (without paths).apply d = .ok out →
      ∀ p ∈ paths, ∀ holder ∈ out.holders p, p.last ∉ holder.keys := by
  intro h
  let d : Document := ⟨[("a", .array [.document [("b", .string "x")]])]⟩
  exact h d d [⟨"a", ["b"]⟩] rfl ⟨"a", ["b"]⟩ (by decide) ⟨[("b", .string "x")]⟩ List.mem_cons_self (by decide)

/-- **Excluding is idempotent, free of order and local.**  A projection that excludes paths gives out a document for
every document.  It gives out the same one if it comes in again, or if the paths are listed in another order.  What is
read at a path that no excluded path begins and that begins no excluded path stays as it is, and the keys that stay, in
the document and in the documents inside it, stay in their order. -/
theorem exclusion_thins (d : Document) (paths : List Path) :
    ∃ out, (without paths).apply d = .ok out ∧
      (without paths).apply out = .ok out ∧
      (∀ paths', paths'.Perm paths → (without paths').apply d = .ok out) ∧
      (∀ q, (∀ p ∈ paths, p.Apart q) → out.get q = d.get q) ∧
      out.Thinned d := by
  refine ⟨paths.foldl Document.delete d, rfl, ?again, ?order, ?apart, ?thinned⟩
  case again => exact congrArg Except.ok Document.foldl_delete_foldl_delete
  case order => exact fun paths' hperm => congrArg Except.ok (Document.foldl_delete_perm hperm)
  case apart => exact fun q hq => Document.get_foldl_delete hq
  case thinned => exact Document.thinned_foldl_delete d paths

/-- Paths that overlap, a shared parent, a repeated key and a path through an array, in two orders. -/
theorem exclusion_thins_overlap :
    let tags : Value := .array [.document [("x", .null)]]
    let d : Document := ⟨[("a", .document [("b", .document [("c", .null)]),
      ("a", .document [("b", .null), ("e", .null)]), ("e", .null)]), ("tags", tags), ("z", .null)]⟩
    let paths : List Path := [.ofString "a.b.c", .ofString "a.b", .ofString "tags.x", .ofString "a.a.b"]
    let paths' : List Path := [.ofString "a.a.b", .ofString "a.b", .ofString "tags.x", .ofString "a.b.c"]
    let out : Document := ⟨[("a", .document [("a", .document [("e", .null)]), ("e", .null)]), ("tags", tags),
      ("z", .null)]⟩
    (without paths).apply d = .ok out ∧ (without paths).apply out = .ok out ∧ (without paths').apply d = .ok out ∧
      out.get (.ofString "a.a.e") = d.get (.ofString "a.a.e") ∧
      ∃ inner : Document, d.get (.ofString "a") = inner.toValue ∧ ["a", "e"].Sublist inner.keys := by
  intro tags d paths paths' out
  have hout : (without paths).apply d = .ok out := rfl
  obtain ⟨out', hout', hagain, horder, hapart, hthinned⟩ := exclusion_thins d paths
  obtain rfl := Except.ok.inj (hout'.symm.trans hout)
  exact ⟨hout, hagain, horder paths' (by decide), hapart (.ofString "a.a.e") (by decide),
    hthinned.inside (.ofString "a") ⟨[("a", .document [("e", .null)]), ("e", .null)]⟩ rfl⟩

end Projection

end DocFlow
