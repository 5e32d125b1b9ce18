import DocFlow.Proofs.Chain.Basic
import DocFlow.Proofs.Group.Gather
import Mathlib.Data.List.Dedup
import Mathlib.Data.List.Induction
import Mathlib.Data.List.Perm.Basic

/-!
# Groups partition their documents

Documents are partitioned by the canonical text of their key, and each part becomes one document
(`Grouping.partition`).  The buckets, into which the documents go one by one in any order of keys, hold
the parts.

* `Gathered g ds bs` — the invariant of the buckets: there is one for each key of a document of `ds`,
  and it holds what the accumulators gather from the documents with that key and from no others;
* `Gathered.add` — one more document keeps it, whether it opens a bucket or goes into one;
* `gathered_of_addAll`, `exists_addAll` — so do all documents, and none fails if the accumulators take in
  each part by itself.
-/

namespace DocFlow

namespace Grouping

/-! ## Documents by their keys -/

/-- The key of a document has this canonical text. -/
def inGroup (g : Grouping) (k : String) (d : Document) : Bool :=
  match g.keyOf d with
  | .ok id => id.key = k
  | .error _ => false

/-- The documents of a list whose keys have this canonical text, in order. -/
def members (g : Grouping) (k : String) (ds : List Document) : List Document := ds.filter (g.inGroup k)

/-- The canonical texts of the keys of a list of documents, each once. -/
def groupKeys (g : Grouping) (ds : List Document) : Except Error (List String) := do
  return ((← ds.mapM g.keyOf).map Value.key).dedup

/-- One document for each canonical text of a key: the summary of the documents with that key. -/
def partition (g : Grouping) (ds : List Document) : Except Error (List Document) := do
  (← g.groupKeys ds).mapM fun k => g.summary (g.members k ds)

variable {g : Grouping} {k : String} {d : Document} {ds : List Document} {id : Value}

theorem inGroup_of_keyOf (hid : g.keyOf d = .ok id) : g.inGroup k d = decide (id.key = k) := by
  simp only [inGroup, hid]

theorem inGroup_iff : g.inGroup k d = true ↔ ∃ id, g.keyOf d = .ok id ∧ id.key = k := by
  unfold inGroup
  cases g.keyOf d <;> simp

theorem members_concat_self (hid : g.keyOf d = .ok id) :
    g.members id.key (ds ++ [d]) = g.members id.key ds ++ [d] := by
  simp [members, List.filter_append, inGroup_of_keyOf hid]

theorem members_concat_of_ne (hid : g.keyOf d = .ok id) (hne : id.key ≠ k) :
    g.members k (ds ++ [d]) = g.members k ds := by
  simp [members, List.filter_append, inGroup_of_keyOf hid, hne]

end Grouping

namespace Buckets

/-! ## One more document -/

/-- The bucket of a key, newly opened if there is none. -/
def bucketOf (g : Grouping) (id : Value) (bs : Buckets) : Bucket :=
  (Entries.get? id.key bs).getD ⟨id, g.initial⟩

/-- A document with a key goes into its bucket, if that is open or there is room for it. -/
theorem add_of_keyOf {g : Grouping} {cap : Option Nat} {d : Document} {bs : Buckets} {id : Value}
    (hid : g.keyOf d = .ok id) (hroom : Entries.get? id.key bs = none → isFull cap bs = false) :
    add g cap d bs = addTo g d id.key (bucketOf g id bs) bs := by
  cases hb : Entries.get? id.key bs with
  | some b => simp only [add, bucketOf, hid, hb, Option.getD_some]
  | none => simp only [add, bucketOf, hid, hb, hroom hb, Option.getD_none, Bool.false_eq_true, if_false]

theorem settled_add_eq_ok {g : Grouping} {d : Document} {bs next : Buckets} :
    (add g none d bs).settled = .ok next ↔ ∃ id parts, g.keyOf d = .ok id ∧
      (g.step d (bucketOf g id bs).parts).settled = .ok parts ∧
      Entries.put id.key { bucketOf g id bs with parts := parts } bs = next := by
  cases hid : g.keyOf d with
  | error e => simp [add, hid, Outcome.settled_eq_ok]
  | ok id =>
    rw [add_of_keyOf hid fun _ => rfl]
    simp [addTo, Outcome.settled_eq_ok]

end Buckets

/-! ## The invariant of the buckets -/

/-- A bucket holds the key of the first of a list of documents, and what has been gathered from all. -/
def Bucket.Holds (g : Grouping) (ds : List Document) (b : Bucket) : Prop :=
  ∃ first rest, ds = first :: rest ∧ g.keyOf first = .ok b.id ∧ g.gatherAll ds = .ok b.parts

/-- The buckets of a group that has been fed a list of documents. -/
structure Gathered (g : Grouping) (ds : List Document) (bs : Buckets) : Prop where
  /-- No key has two buckets. -/
  distinct : Entries.Distinct bs
  /-- The key of each document is there. -/
  keyed : ∀ d ∈ ds, ∃ id, g.keyOf d = .ok id
  /-- There is a bucket for each key of a document, and no other. -/
  mem_keys : ∀ k, k ∈ Entries.keys bs ↔ ∃ d ∈ ds, g.inGroup k d = true
  /-- A bucket holds the documents with its key, and no others. -/
  holds : ∀ k b, Entries.get? k bs = some b → b.Holds g (g.members k ds)

namespace Gathered

variable {g : Grouping} {ds : List Document} {bs : Buckets} {d : Document} {id : Value}

theorem nil : Gathered g [] [] where
  distinct := List.nodup_nil
  keyed := by simp
  mem_keys := by simp [Entries.keys]
  holds := by simp

theorem members_eq_nil {k : String} (h : Gathered g ds bs) (hk : Entries.get? k bs = none) :
    g.members k ds = [] := by
  rw [Grouping.members, List.filter_eq_nil_iff]
  intro d hd hin
  exact Entries.get?_eq_none_iff.1 hk ((h.mem_keys k).2 ⟨d, hd, hin⟩)

/-- The bucket of a key, also one newly opened, holds what has been gathered from the documents with
that key. -/
theorem gatherAll_bucketOf (h : Gathered g ds bs) (id : Value) :
    g.gatherAll (g.members id.key ds) = .ok (Buckets.bucketOf g id bs).parts := by
  unfold Buckets.bucketOf
  cases hb : Entries.get? id.key bs with
  | none =>
    rw [h.members_eq_nil hb]
    exact g.gatherAll_nil
  | some b =>
    obtain ⟨_, _, _, _, hparts⟩ := h.holds _ _ hb
    exact hparts

/-- The bucket of a key holds one more document with that key, once the accumulators have taken it
in. -/
theorem holds_bucketOf {parts : List Accumulation} (h : Gathered g ds bs) (hid : g.keyOf d = .ok id)
    (hparts : (g.step d (Buckets.bucketOf g id bs).parts).settled = .ok parts) :
    ({ Buckets.bucketOf g id bs with parts := parts } : Bucket).Holds g (g.members id.key ds ++ [d]) := by
  have hall : g.gatherAll (g.members id.key ds ++ [d]) = .ok parts :=
    Grouping.gatherAll_concat.2 ⟨_, h.gatherAll_bucketOf id, hparts⟩
  unfold Buckets.bucketOf
  cases hb : Entries.get? id.key bs with
  | none =>
    rw [h.members_eq_nil hb] at hall ⊢
    exact ⟨d, [], rfl, hid, hall⟩
  | some b =>
    obtain ⟨first, rest, hmembers, hfirst, _⟩ := h.holds _ _ hb
    rw [hmembers] at hall ⊢
    exact ⟨first, rest ++ [d], rfl, hfirst, hall⟩

/-- A document that is taken into its bucket keeps the invariant. -/
theorem add {parts : List Accumulation} (h : Gathered g ds bs) (hid : g.keyOf d = .ok id)
    (hparts : (g.step d (Buckets.bucketOf g id bs).parts).settled = .ok parts) :
    Gathered g (ds ++ [d])
      (Entries.put id.key { Buckets.bucketOf g id bs with parts := parts } bs) where
  distinct := Entries.distinct_put h.distinct
  keyed := by
    intro e he
    rcases List.mem_append.1 he with he | he
    · exact h.keyed e he
    · rw [List.mem_singleton.1 he]
      exact ⟨id, hid⟩
  mem_keys := by
    intro k
    rw [Entries.mem_keys_put, h.mem_keys]
    constructor
    · rintro (rfl | ⟨e, he, hin⟩)
      · exact ⟨d, by simp, Grouping.inGroup_iff.2 ⟨id, hid, rfl⟩⟩
      · exact ⟨e, List.mem_append_left _ he, hin⟩
    · rintro ⟨e, he, hin⟩
      rcases List.mem_append.1 he with he | he
      · exact .inr ⟨e, he, hin⟩
      · rw [List.mem_singleton.1 he, Grouping.inGroup_of_keyOf hid, decide_eq_true_eq] at hin
        exact .inl hin.symm
  holds := by
    intro k b hb
    -- only the bucket with the key of the document gets one more member
    by_cases hk : id.key = k
    · subst hk
      rw [Entries.get?_put_self] at hb
      obtain rfl := Option.some.inj hb
      rw [Grouping.members_concat_self hid]
      exact h.holds_bucketOf hid hparts
    · rw [Entries.get?_put_of_ne hk] at hb
      rw [Grouping.members_concat_of_ne hid hk]
      exact h.holds k b hb

end Gathered

/-! ## A whole list -/

namespace Buckets

variable {g : Grouping} {ds : List Document} {bs : Buckets}

theorem addAll_concat (g : Grouping) (cap : Option Nat) (ds : List Document) (d : Document)
    (bs : Buckets) :
    addAll g cap (ds ++ [d]) bs = addAll g cap ds bs >>= fun bs => (add g cap d bs).settled := by
  unfold addAll
  rw [List.foldlM_append]
  simp only [List.foldlM_cons, List.foldlM_nil, bind_pure]

/-- Taking in documents one after the other keeps the invariant. -/
theorem gathered_of_addAll (hbs : addAll g none ds [] = .ok bs) : Gathered g ds bs := by
  induction ds using List.reverseRecOn generalizing bs with
  | nil =>
    obtain rfl : [] = bs := Except.ok.inj hbs
    exact .nil
  | append_singleton ds d ih =>
    rw [addAll_concat] at hbs
    obtain ⟨before, hbefore, hadd⟩ := Except.bind_eq_ok.1 hbs
    obtain ⟨id, parts, hid, hparts, rfl⟩ := settled_add_eq_ok.1 hadd
    exact (ih hbefore).add hid hparts

/-- If the keys are there and the accumulators take in the documents of each key by themselves, then
the buckets take in all documents one after the other. -/
theorem exists_addAll (hkeyed : ∀ d ∈ ds, ∃ id, g.keyOf d = .ok id)
    (hall : ∀ k, ∃ parts, g.gatherAll (g.members k ds) = .ok parts) :
    ∃ bs, addAll g none ds [] = .ok bs := by
  induction ds using List.reverseRecOn with
  | nil => exact ⟨[], rfl⟩
  | append_singleton ds d ih =>
    obtain ⟨id, hid⟩ := hkeyed d (by simp)
    have hbefore : ∀ k, ∃ parts, g.gatherAll (g.members k ds) = .ok parts := by
      intro k
      obtain ⟨parts, hparts⟩ := hall k
      by_cases hk : id.key = k
      · subst hk
        rw [Grouping.members_concat_self hid] at hparts
        obtain ⟨old, hold, _⟩ := Grouping.gatherAll_concat.1 hparts
        exact ⟨old, hold⟩
      · rw [Grouping.members_concat_of_ne hid hk] at hparts
        exact ⟨parts, hparts⟩
    obtain ⟨before, hadded⟩ := ih (fun e he => hkeyed e (List.mem_append_left _ he)) hbefore
    obtain ⟨parts, hparts⟩ := hall id.key
    rw [Grouping.members_concat_self hid] at hparts
    obtain ⟨old, hold, hstep⟩ := Grouping.gatherAll_concat.1 hparts
    have hbucket := (gathered_of_addAll hadded).gatherAll_bucketOf id
    obtain rfl := Except.ok.inj (hold.symm.trans hbucket)
    refine ⟨Entries.put id.key { bucketOf g id before with parts := parts } before, ?_⟩
    rw [addAll_concat]
    exact Except.bind_eq_ok.2 ⟨before, hadded, settled_add_eq_ok.2 ⟨id, parts, hid, hstep, rfl⟩⟩

end Buckets

end DocFlow
