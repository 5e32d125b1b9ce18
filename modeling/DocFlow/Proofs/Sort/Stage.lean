import DocFlow.Proofs.Chain.HoldBack
import DocFlow.Proofs.Sort.Insertion

/-!
# A sort in a chain

A chain that begins with a sort takes in any list of documents and holds them back in order; drained, it
hands them to the stages behind in that order, each once (`sort_arranged`).
-/

namespace DocFlow.Chain

variable {keys : List SortKey} {ds sorted : List Document} {rest : List Stage}

theorem takeAll_sort : (Stage.sort keys).takeAll ds sorted = .ok (insertAll keys ds sorted) := by
  induction ds generalizing sorted with
  | nil => rfl
  | cons d ds ih => exact ih

theorem feedEach_sort :
    feedEach (feed (.sort keys :: rest)) ds (initial (.sort keys :: rest)) =
      .success (⟨insertAll keys ds [], false⟩, initial rest) .more := by
  have hall : (Stage.sort keys).takeAll ds [] = .ok (insertAll keys ds []) := takeAll_sort
  exact feedEach_of_takeAll trivial hall

/-- **A sort holds the documents in order.**  If the values at the keys hold no NaN, then after any
documents have been fed the first stage holds all of them in order, and those that tie as they came;
drained, it hands them on in that order, and keeps none. -/
theorem sort_arranged (hds : ∀ d ∈ ds, SortKey.Comparable keys d) (h : HandOut) (rest : List Stage) :
    ∃ sorted, Arranged keys ds sorted ∧
      feedEach (feed (.sort keys :: rest)) ds (initial (.sort keys :: rest)) =
        .success (⟨sorted, false⟩, initial rest) .more ∧
      through h (.sort keys :: rest) ds = through h rest sorted ∧
      front (drain h (.sort keys :: rest) (⟨sorted, false⟩, initial rest)).state = ⟨[], true⟩ := by
  refine ⟨insertAll keys ds [], arranged_insertAll hds, feedEach_sort, ?_, ?_⟩
  · exact through_of_takeAll trivial takeAll_sort
  · exact front_drain rfl

/-- A falling key inside a document, which some documents do not have, before a rising one, on which two
of the documents tie. -/
theorem sort_arranged_falling :
    let keys : List SortKey := [⟨⟨"a", ["b"]⟩, true⟩, ⟨⟨"k", []⟩, false⟩]
    let ds : List Document := [⟨[("k", .string "y"), ("n", .string "1")]⟩,
      ⟨[("k", .null), ("n", .string "2")]⟩,
      ⟨[("a", .document [("b", .bool true)]), ("n", .string "3")]⟩,
      ⟨[("k", .string "y"), ("n", .string "4")]⟩]
    let sorted : List Document := [⟨[("a", .document [("b", .bool true)]), ("n", .string "3")]⟩,
      ⟨[("k", .null), ("n", .string "2")]⟩, ⟨[("k", .string "y"), ("n", .string "1")]⟩,
      ⟨[("k", .string "y"), ("n", .string "4")]⟩]
    (∀ d ∈ ds, SortKey.Comparable keys d) ∧ Arranged keys ds sorted ∧
      through .firstOpened [.sort keys] ds = .ok sorted := by
  intro keys ds sorted
  have hds : ∀ d ∈ ds, SortKey.Comparable keys d := by
    unfold SortKey.Comparable
    decide
  have hthrough : through .firstOpened [.sort keys] ds = .ok sorted := by cbv
  obtain ⟨out, harranged, _, hout, _⟩ := sort_arranged hds .firstOpened []
  rw [hthrough, through_nil] at hout
  obtain rfl : sorted = out := Except.ok.inj hout
  exact ⟨hds, harranged, hthrough⟩

end DocFlow.Chain
