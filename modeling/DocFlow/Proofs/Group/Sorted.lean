import DocFlow.Proofs.Group.Reading
import DocFlow.Proofs.Group.Stage
import DocFlow.Proofs.Order.Equal
import DocFlow.Proofs.Pipeline.Build
import DocFlow.Proofs.Sort.Decided

/-!
# A sort behind a group

The documents of a group come in the order in which its buckets are handed out.  Different buckets have
different keys, and values that hold no NaN tie only if they have one key, so the field `_id` tells the
documents apart (`Gathered.decides_id`); a sort that begins with it puts them into one order, however they come
(`run_group_sort`).
-/

namespace DocFlow

/-! ## The field that holds the key -/

def Grouping.idPath : Path := ⟨"_id", []⟩

theorem Accumulator.get?_finishParts {k : String} {done : Entries Value} {fields : List (String × Accumulator)}
    {parts : List Accumulation} (hfields : ∀ f ∈ fields, f.1 ≠ k) :
    Entries.get? k (Accumulator.finishParts done fields parts) = Entries.get? k done := by
  induction fields generalizing done parts with
  | nil =>
    rw [finishParts]
    intro name a fields s parts hnil
    cases hnil
  | cons f fields ih =>
    obtain ⟨hf, hrest⟩ := List.forall_mem_cons.1 hfields
    cases parts with
    | nil =>
      rw [finishParts]
      intro name a fields s parts _ hnil
      cases hnil
    | cons s parts => rw [finishParts, ih hrest, Entries.get?_put_of_ne hf]

namespace Grouping

variable {ctx : Context} {g : Grouping}

theorem ne_id_of_stage {j : Json} {bound cap : Option Nat} (h : Stage.parse ctx bound j = .ok (.group g cap)) :
    ∀ f ∈ g.fields, f.1 ≠ "_id" := by
  rcases Stage.parse_cases h with ⟨_, _, _, hs⟩ | ⟨_, _, _, hs⟩ | ⟨_, _, hg, hs⟩ | ⟨_, _, _, hs⟩ | ⟨_, hs⟩ |
    ⟨_, hs⟩ | ⟨_, hs⟩ <;> cases hs
  exact ne_id_of_parse hg

/-- The document of a bucket has the key of the bucket as its `_id`. -/
theorem get_idPath_finish (hfields : ∀ f ∈ g.fields, f.1 ≠ "_id") (b : Bucket) :
    (g.finish b).get idPath = b.id := by
  change (Entries.get? "_id" (Accumulator.finishParts [("_id", b.id)] g.fields b.parts)).getD .missing = b.id
  rw [Accumulator.get?_finishParts hfields]
  rfl

end Grouping

/-! ## The documents of the buckets -/

namespace Buckets

variable {g : Grouping} {cap : Option Nat} {ds : List Document} {bs next : Buckets} {d : Document}

/-- What goes into buckets of which there may be only so many goes into any. -/
theorem settled_add_of_cap (h : (add g cap d bs).settled = .ok next) : (add g none d bs).settled = .ok next := by
  unfold add at *
  split
  · rename_i hid
    rwa [hid] at h
  · rename_i id hid
    simp only [hid] at h
    split
    · rename_i b hb
      rwa [hb] at h
    · rename_i hb
      simp only [hb] at h
      split at h
      · cases h
      · exact h

theorem addAll_of_cap (h : addAll g cap ds bs = .ok next) : addAll g none ds bs = .ok next := by
  induction ds generalizing bs with
  | nil => exact h
  | cons d ds ih =>
    obtain ⟨after, hafter, h⟩ := Except.bind_eq_ok.1 h
    exact Except.bind_eq_ok.2 ⟨after, settled_add_of_cap hafter, ih h⟩

end Buckets

namespace Gathered

variable {g : Grouping} {ds : List Document} {bs : Buckets}

/-- The key of a bucket is that of a document, and the bucket stands under its canonical text. -/
theorem keyOf_of_mem (h : Gathered g ds bs) {e : String × Bucket} (he : e ∈ bs) :
    ∃ d ∈ ds, g.keyOf d = .ok e.2.id ∧ e.2.id.key = e.1 := by
  obtain ⟨first, rest, hmembers, hid, -⟩ := h.holds e.1 e.2 (Entries.get?_eq_some_of_mem h.distinct he)
  have hfirst : first ∈ g.members e.1 ds := hmembers ▸ List.mem_cons_self
  obtain ⟨hfirst, hin⟩ := List.mem_filter.1 hfirst
  rw [Grouping.inGroup_of_keyOf hid, decide_eq_true_eq] at hin
  exact ⟨first, hfirst, hid, hin⟩

/-- If the keys of the documents hold no NaN, the documents of the buckets are told apart by their `_id`. -/
theorem decides_id (h : Gathered g ds bs) (hids : ∀ d ∈ ds, ∀ id, g.keyOf d = .ok id → id.hasNaN = false)
    (hfields : ∀ f ∈ g.fields, f.1 ≠ "_id") (falling : Bool) :
    SortKey.Decides ⟨Grouping.idPath, falling⟩ (bs.values.map g.finish) := by
  simp only [SortKey.Decides, Entries.values, List.map_map, List.forall_mem_map, Function.comp_def]
  intro e he f hf htie
  obtain ⟨d, hd, hid, hkey⟩ := h.keyOf_of_mem he
  obtain ⟨d', hd', hid', hkey'⟩ := h.keyOf_of_mem hf
  have htie : e.2.id.compare f.2.id = .eq := by
    simp only [SortKey.compare, Grouping.get_idPath_finish hfields] at htie
    split at htie
    · exact Ordering.swap_eq_eq.1 htie
    · exact htie
  have hchars := Value.keyChars_eq_of_compare (hids d hd _ hid) (hids d' hd' _ hid') htie
  have hsame : e.1 = f.1 := by rw [← hkey, ← hkey', Value.key, Value.key, hchars]
  have hbucket := Entries.get?_eq_some_of_mem h.distinct he
  rw [hsame, Entries.get?_eq_some_of_mem h.distinct hf] at hbucket
  rw [Option.some.inj hbucket]

theorem comparable_id (h : Gathered g ds bs) (hids : ∀ d ∈ ds, ∀ id, g.keyOf d = .ok id → id.hasNaN = false)
    (hfields : ∀ f ∈ g.fields, f.1 ≠ "_id") (falling : Bool) :
    ∀ doc ∈ bs.values.map g.finish, SortKey.Comparable [⟨Grouping.idPath, falling⟩] doc := by
  simp only [SortKey.Comparable, Entries.values, List.map_map, List.forall_mem_map, List.forall_mem_singleton,
    Function.comp_def, Grouping.get_idPath_finish hfields]
  intro e he
  obtain ⟨d, hd, hid, -⟩ := h.keyOf_of_mem he
  exact hids d hd _ hid

/-- The documents of the buckets, sorted by `_id` first, come in one order. -/
theorem insertAll_order (h : Gathered g ds bs) (hids : ∀ d ∈ ds, ∀ id, g.keyOf d = .ok id → id.hasNaN = false)
    (hfields : ∀ f ∈ g.fields, f.1 ≠ "_id") (falling : Bool) (keys : List SortKey) (out : HandOut) (behind : Nat) :
    insertAll (⟨Grouping.idPath, falling⟩ :: keys) ((out.order behind bs).values.map g.finish) [] =
      insertAll (⟨Grouping.idPath, falling⟩ :: keys) (bs.values.map g.finish) [] := by
  have hperm : (bs.values.map g.finish).Perm ((out.order behind bs).values.map g.finish) :=
    (((out.perm behind bs).map Prod.snd).map g.finish).symm
  exact (insertAll_perm (h.comparable_id hids hfields falling) (h.decides_id hids hfields falling) hperm).symm

end Gathered

/-! ## The pipeline -/

/-- A group and a sort as operations on whole lists. -/
theorem Chain.batch_group_sort {g : Grouping} {cap : Option Nat} {ds : List Document} {bs : Buckets}
    (keys : List SortKey) (h : HandOut) (hbs : Buckets.addAll g cap ds [] = .ok bs) :
    Chain.batch h [.group g cap, .sort keys] ds =
      .ok (insertAll keys ((h.order 1 bs).values.map g.finish) []) := by
  simp only [Chain.batch, Stage.batch, hbs, Except.ok_bind]
  rfl

namespace Pipeline

/-- **A sort removes the order of the buckets.**  A pipeline of a group and a sort that begins with `_id`, to
which documents are fed without an error whose keys hold no NaN, has one result, whatever the order in which the
group hands out its buckets. -/
theorem run_group_sort {options : Options} {registry : Registry} {spec : Json} {p : Pipeline} {g : Grouping}
    {cap : Option Nat} {falling : Bool} {keys : List SortKey} {ds : List Document}
    (hb : build options registry spec = .ok p)
    (hstages : p.stages = [.group g cap, .sort (⟨Grouping.idPath, falling⟩ :: keys)])
    (hfed : (p.feedAll ds).answer = .ok ())
    (hids : ∀ d ∈ ds, ∀ id, g.keyOf d = .ok id → id.hasNaN = false) :
    ∃ out, ∀ h : HandOut, (p.run h ds).answer = .ok out := by
  obtain ⟨stages, rfl, offset, hparsed⟩ := parsed_of_build hb
  obtain rfl : stages = _ := hstages
  obtain ⟨j, hj⟩ := hparsed _ List.mem_cons_self
  have hfields := Grouping.ne_id_of_stage hj
  obtain ⟨flow, hflow⟩ := exists_feedEach_of_feedAll (open_start _) hfed
  obtain ⟨bs, hbs⟩ := Chain.addAll_of_feedEach_group hflow
  have hgathered := Buckets.gathered_of_addAll (Buckets.addAll_of_cap hbs)
  refine ⟨insertAll (⟨Grouping.idPath, falling⟩ :: keys) (bs.values.map g.finish) [], fun h => ?_⟩
  have hbatch := Chain.batch_group_sort (⟨Grouping.idPath, falling⟩ :: keys) h hbs
  rw [hgathered.insertAll_order hids hfields] at hbatch
  obtain ⟨hfed, hresult⟩ := result_start _ hbatch
  simp only [run, hfed]
  exact hresult

/-- Documents of two keys that come in turn, sorted by falling keys. -/
theorem run_group_sort_falling :
    let spec : Json := .array [
      .object [("$group", .object [("_id", .string "$k"), ("all", .object [("$push", .string "$v")])])],
      .object [("$sort", .object [("_id", .number (.int (-1))), ("all", .number (.int 1))])]]
    let g : Grouping := ⟨.computed (.operand (.field ⟨"k", []⟩)),
      [("all", .reduce .push (.operand (.field ⟨"v", []⟩)))]⟩
    let p := start [.group g none, .sort [⟨Grouping.idPath, true⟩, ⟨⟨"all", []⟩, false⟩]]
    let ds : List Document := [⟨[("k", .string "a"), ("v", .string "1")]⟩,
      ⟨[("k", .string "b"), ("v", .string "2")]⟩, ⟨[("k", .string "a"), ("v", .string "3")]⟩]
    build .default .empty spec = .ok p ∧ (p.feedAll ds).answer = .ok () ∧
      (∀ d ∈ ds, ∀ id, g.keyOf d = .ok id → id.hasNaN = false) ∧
      ∀ h : HandOut, (p.run h ds).answer = .ok [⟨[("_id", .string "b"), ("all", .array [.string "2"])]⟩,
        ⟨[("_id", .string "a"), ("all", .array [.string "1", .string "3"])]⟩] := by
  intro spec g p ds
  have hb : build .default .empty spec = .ok p := rfl
  have hfed : (p.feedAll ds).answer = .ok () := rfl
  have hids : ∀ d ∈ ds, ∀ id, g.keyOf d = .ok id → id.hasNaN = false := by
    simp only [ds, List.forall_mem_cons]
    refine ⟨?_, ?_, ?_, nofun⟩ <;>
    · rintro id ⟨⟩
      rfl
  obtain ⟨out, hout⟩ := run_group_sort hb rfl hfed hids
  have hfirst : (p.run .firstOpened ds).answer = .ok [⟨[("_id", .string "b"), ("all", .array [.string "2"])]⟩,
    ⟨[("_id", .string "a"), ("all", .array [.string "1", .string "3"])]⟩] := rfl
  rw [Except.ok.inj ((hout .firstOpened).symm.trans hfirst)] at hout
  exact ⟨hb, hfed, hids, hout⟩

end Pipeline

end DocFlow
