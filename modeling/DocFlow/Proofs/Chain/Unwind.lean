import DocFlow.Proofs.Chain.HoldBack
import DocFlow.Proofs.Complete.Value
import DocFlow.Proofs.Document.Laws
import Mathlib.Data.List.Forall2

/-!
# Unwinding an array

An unwind at the end of a chain gives out one copy of a document for each item of the array at its path
(`Chain.feed_unwind`).  In a copy the item is at the path, and what is read at a path apart is kept, unless the two
part behind an array: writing replaces that array by a document, and nothing is left at the other path
(`Document.Unwound`).
-/

namespace DocFlow

namespace Document

variable {d : Document} {p : Path}

/-- The items of an array that is read in a complete document are complete. -/
theorem Complete.mem_items {items : List Value} (h : d.Complete) (hitems : d.get p = .array items) :
    ∀ v ∈ items, v.Complete := by
  have hcomplete : (d.get p).Complete := h.get.complete (by rw [hitems]; nofun)
  rw [hitems] at hcomplete
  exact Value.complete_array_iff.1 hcomplete

/-- A copy of a document with an item at a path, in the place of an array. -/
structure Unwound (d : Document) (p : Path) (item : Value) (copy : Document) : Prop where
  /-- The item is at the path. -/
  item : copy.get p = item
  /-- What is read at a path apart is kept, unless the two part behind an array. -/
  kept : ∀ q, p.Apart q → ¬ d.PartBehindArray p q → copy.get q = d.get q
  /-- At a path that parts from the path behind an array, an array has been read, and nothing is left of it. -/
  lost : ∀ q, p.Apart q → d.PartBehindArray p q → (d.get q).kind = .array ∧ copy.get q = .missing

theorem unwound_set {item : Value} (h : item ≠ .missing) : d.Unwound p item (d.set p item) where
  item := get_set_self h
  kept _ hq hfree := get_set_of_apart h hq hfree
  lost _ hq hpart := ⟨kind_get_of_partBehindArray hpart, get_set_of_partBehindArray h hq hpart⟩

end Document

namespace Chain

/-- **Unwinding.**  An unwind at the end of a chain takes in a complete document that reads as an array at its path.
It gives out one copy for each item, in the order of the items. -/
theorem feed_unwind (d : Document) (p : Path) (items : List Value) (hd : d.Complete) (hitems : d.get p = .array items)
    (station : Station (.unwind p)) (out : Array Document) :
    ∃ copies : List Document, feed [.unwind p] d (station, out) = .success (station, out ++ copies) .more ∧
      List.Forall₂ (d.Unwound p) items copies := by
  let copies := items.map fun item => d.set p item
  refine ⟨copies, ?_, ?_⟩
  · have hpush : ((Stage.unwind p).push d station.memory).answer = .ok (.pass copies) := by
      show (Stage.unwound p d >>= fun ds => pure (Stage.Output.pass ds)) = _
      rw [Stage.unwound, hitems]
      rfl
    have hend : feedEach (feed []) copies out = .success (out ++ copies : Array Document) .more := feedEach_end rfl
    exact (feed_of_pass hpush).trans (congrArg (Outcome.within · fun out => (station, out)) hend)
  · rw [List.forall₂_map_right_iff, List.forall₂_same]
    exact fun item hitem => Document.unwound_set (hd.mem_items hitems item hitem).ne_missing

/-- The items come from two documents of an array: the field beside the array is kept, that of the documents is lost. -/
theorem feed_unwind_through_array :
    let items : List Value := [.string "x", .string "y"]
    let parts : List Value := [.document [("c", .string "x"), ("e", .null)], .document [("c", .string "y")]]
    let d : Document := ⟨[("a", .document [("b", .array parts), ("f", .string "z")])]⟩
    let p : Path := .ofString "a.b.c"
    d.Complete ∧ d.get p = .array items ∧ ∃ first second : Document,
      feed [.unwind p] d (initial [.unwind p]) = .success (⟨(), false⟩, #[first, second]) .more ∧
      first.get p = .string "x" ∧ second.get p = .string "y" ∧
      (d.get (.ofString "a.f") = .string "z" ∧ second.get (.ofString "a.f") = .string "z") ∧
      d.get (.ofString "a.b.e") = .array [.null] ∧ second.get (.ofString "a.b.e") = .missing := by
  intro items parts d p
  have hd : d.Complete := by decide
  obtain ⟨copies, hfeed, hcopies⟩ := feed_unwind d p [.string "x", .string "y"] hd rfl ⟨(), false⟩ #[]
  match copies, hcopies with
  | [first, second], .cons hfirst (.cons hsecond .nil) =>
    exact ⟨hd, rfl, first, second, hfeed, hfirst.item, hsecond.item, ⟨rfl, hsecond.kept _ (by decide) (by decide)⟩, rfl,
      (hsecond.lost _ (by decide) (by decide)).2⟩

/-- An unwind through an array of documents does not only change its own path: their other fields are lost. -/
theorem unwind_loses_siblings :
    ¬ ∀ (d : Document) (p : Path) (items : List Value), d.Complete → d.get p = .array items →
      ∀ (station : Station (.unwind p)) (out : Array Document), ∃ copies : List Document,
        feed [.unwind p] d (station, out) = .success (station, out ++ copies) .more ∧
        List.Forall₂ (fun item copy => copy.get p = item ∧ ∀ q, p.Apart q → copy.get q = d.get q) items copies := by
  intro h
  let d : Document := ⟨[("a", .array [.document [("b", .string "x"), ("c", .string "y")]])]⟩
  obtain ⟨copies, hfeed, hcopies⟩ := h d ⟨"a", ["b"]⟩ [.string "x"] (by decide) rfl ⟨(), false⟩ #[]
  match copies, hcopies with
  | [copy], .cons ⟨_, hkept⟩ .nil =>
    have hcopies : [(⟨[("a", .document [("b", .string "x")])]⟩ : Document)] = [copy] :=
      congrArg (fun o => Array.toList o.state.2) hfeed
    obtain rfl := (List.cons.inj hcopies).1
    cases hkept ⟨"a", ["c"]⟩ (by decide)

end Chain

end DocFlow
