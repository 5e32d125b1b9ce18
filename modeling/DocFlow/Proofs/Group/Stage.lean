import DocFlow.Proofs.Chain.HoldBack
import DocFlow.Proofs.Group.Partition

/-!
# A group in a chain

A chain that begins with a group takes in a list of documents if and only if the documents can be
partitioned, and then hands the documents of the partition to the stages behind, in some order
(`group_eq_partition`).
-/

namespace DocFlow

namespace Grouping

variable {g : Grouping} {k : String} {ds docs : List Document} {keys : List String}

/-! ## The keys of a partition -/

theorem mem_groupKeys (hkeys : g.groupKeys ds = .ok keys) :
    k ∈ keys ↔ ∃ d ∈ ds, g.inGroup k d = true := by
  obtain ⟨ids, hids, hdedup⟩ := Except.bind_eq_ok.1 hkeys
  obtain rfl : (ids.map Value.key).dedup = keys := Except.ok.inj hdedup
  clear hkeys hdedup
  rw [Except.mapM_eq_ok_iff] at hids
  rw [List.mem_dedup]
  induction hids with
  | nil => simp
  | cons hd hds ih =>
    rw [List.map_cons, List.mem_cons, ih, List.exists_mem_cons_iff, inGroup_of_keyOf hd,
      decide_eq_true_eq, eq_comm]

theorem nodup_groupKeys (hkeys : g.groupKeys ds = .ok keys) : keys.Nodup := by
  obtain ⟨ids, _, hkeys⟩ := Except.bind_eq_ok.1 hkeys
  obtain rfl : (ids.map Value.key).dedup = keys := Except.ok.inj hkeys
  exact List.nodup_dedup _

theorem exists_groupKeys_iff :
    (∃ keys, g.groupKeys ds = .ok keys) ↔ ∀ d ∈ ds, ∃ id, g.keyOf d = .ok id := by
  rw [← Except.exists_mapM_eq_ok_iff]
  unfold groupKeys
  cases ds.mapM g.keyOf <;> simp

/-- A document is in one group only. -/
theorem not_inGroup_of_ne {k' : String} {d : Document} (hd : g.inGroup k d = true) (hne : k ≠ k') :
    g.inGroup k' d = false := by
  obtain ⟨id, hid, rfl⟩ := inGroup_iff.1 hd
  simp [inGroup_of_keyOf hid, hne]

/-- If each document has one of the keys, the documents of the keys are all documents, each once. -/
theorem flatMap_members_perm (hnodup : keys.Nodup) (hin : ∀ d ∈ ds, ∃ k ∈ keys, g.inGroup k d = true) :
    (keys.flatMap fun k => g.members k ds).Perm ds := by
  induction keys generalizing ds with
  | nil =>
    have hds : ds = [] := List.eq_nil_iff_forall_not_mem.2 fun d hd => by simpa using hin d hd
    rw [hds]
    exact .nil
  | cons k keys ih =>
    obtain ⟨hk, hnodup⟩ := List.nodup_cons.1 hnodup
    -- the documents of the other keys are among those that do not have this one
    let others := ds.filter fun d => !g.inGroup k d
    have hothers : ∀ d ∈ others, ∃ k' ∈ keys, g.inGroup k' d = true := by
      intro d hd
      obtain ⟨hd, hnot⟩ := List.mem_filter.1 hd
      obtain ⟨k', hk', hmem⟩ := hin d hd
      refine ⟨k', (List.mem_cons.1 hk').resolve_left ?_, hmem⟩
      rintro rfl
      simp [hmem] at hnot
    have hmembers : ∀ k' ∈ keys, g.members k' ds = g.members k' others := by
      intro k' hk'
      have hne : k' ≠ k := fun h => hk (h ▸ hk')
      unfold members
      rw [List.filter_filter]
      refine List.filter_congr fun d _ => ?_
      cases hd : g.inGroup k' d with
      | false => rfl
      | true => simp [not_inGroup_of_ne hd hne]
    rw [List.flatMap_cons, List.flatMap_congr hmembers]
    exact ((ih hnodup hothers).append_left _).trans (List.filter_append_perm (g.inGroup k) ds)

/-! ## Summaries -/

theorem exists_gatherAll_of_summary {first : Document} {rest : List Document} {doc : Document}
    (hdoc : g.summary (first :: rest) = .ok doc) :
    ∃ parts, g.gatherAll (first :: rest) = .ok parts := by
  obtain ⟨_, _, hdoc⟩ := Except.bind_eq_ok.1 hdoc
  obtain ⟨fields, hfields, _⟩ := Except.bind_eq_ok.1 hdoc
  refine Except.exists_mapM_eq_ok_iff.2 fun field hfield => ?_
  obtain ⟨_, hvalue⟩ := Except.exists_mapM_eq_ok_iff.1 ⟨fields, hfields⟩ field hfield
  obtain ⟨s, hs, _⟩ := Except.bind_eq_ok.1 hvalue
  exact ⟨s, hs⟩

/-- If the documents can be partitioned, the accumulators take in the documents of each key. -/
theorem exists_gatherAll_of_partition (hdocs : g.partition ds = .ok docs) (k : String) :
    ∃ parts, g.gatherAll (g.members k ds) = .ok parts := by
  obtain ⟨keys, hkeys, hdocs⟩ := Except.bind_eq_ok.1 hdocs
  cases hm : g.members k ds with
  | nil => exact ⟨g.initial, g.gatherAll_nil⟩
  | cons first rest =>
    have hfirst : first ∈ g.members k ds := by simp [hm]
    obtain ⟨hfirst, hin⟩ := List.mem_filter.1 hfirst
    have hk : k ∈ keys := (mem_groupKeys hkeys).2 ⟨first, hfirst, hin⟩
    obtain ⟨doc, hdoc⟩ := Except.exists_mapM_eq_ok_iff.1 ⟨docs, hdocs⟩ k hk
    rw [hm] at hdoc
    exact exists_gatherAll_of_summary hdoc

end Grouping

/-! ## The buckets at the end -/

namespace Gathered

variable {g : Grouping} {ds : List Document} {bs : Buckets}

/-- The documents of the buckets are the summaries of the documents with their keys. -/
theorem mapM_summary (h : Gathered g ds bs) :
    (Entries.keys bs).mapM (fun k => g.summary (g.members k ds)) =
      .ok ((Entries.values bs).map g.finish) := by
  rw [Except.mapM_eq_ok_iff, Entries.keys, Entries.values, List.map_map, List.forall₂_map_left_iff,
    List.forall₂_map_right_iff, List.forall₂_same]
  intro e he
  have hbucket := Entries.get?_eq_some_of_mem h.distinct he
  obtain ⟨first, rest, hmembers, hid, hparts⟩ := h.holds e.1 e.2 hbucket
  rw [hmembers] at hparts ⊢
  exact Grouping.summary_eq hid hparts

theorem keys_perm {keys : List String} (h : Gathered g ds bs) (hkeys : g.groupKeys ds = .ok keys) :
    (Entries.keys bs).Perm keys := by
  refine (List.perm_ext_iff_of_nodup h.distinct (Grouping.nodup_groupKeys hkeys)).2 fun k => ?_
  rw [h.mem_keys, Grouping.mem_groupKeys hkeys]

/-- The documents of the buckets are those of the partition, in some order. -/
theorem finish_perm {docs : List Document} (h : Gathered g ds bs) (hdocs : g.partition ds = .ok docs) :
    ((Entries.values bs).map g.finish).Perm docs := by
  obtain ⟨keys, hkeys, hdocs⟩ := Except.bind_eq_ok.1 hdocs
  obtain ⟨out, hout, hperm⟩ := Except.mapM_perm (h.keys_perm hkeys) hdocs
  obtain rfl := Except.ok.inj (h.mapM_summary.symm.trans hout)
  exact hperm

theorem exists_partition (h : Gathered g ds bs) : ∃ docs, g.partition ds = .ok docs := by
  obtain ⟨keys, hkeys⟩ := Grouping.exists_groupKeys_iff.2 h.keyed
  obtain ⟨docs, hdocs, _⟩ := Except.mapM_perm (h.keys_perm hkeys).symm h.mapM_summary
  exact ⟨docs, Except.bind_eq_ok.2 ⟨keys, hkeys, hdocs⟩⟩

end Gathered

namespace Buckets

variable {g : Grouping} {cap : Option Nat} {ds : List Document} {bs : Buckets}

theorem addAll_of_partition {docs : List Document} (hdocs : g.partition ds = .ok docs) :
    ∃ bs, addAll g none ds [] = .ok bs := by
  obtain ⟨keys, hkeys, _⟩ := Except.bind_eq_ok.1 hdocs
  exact exists_addAll (Grouping.exists_groupKeys_iff.1 ⟨keys, hkeys⟩)
    (Grouping.exists_gatherAll_of_partition hdocs)

theorem settled_push_group {d : Document} :
    ((Stage.group g cap).push d bs).settled = (add g cap d bs).settled := by
  simp only [Stage.push, Outcome.settled]
  cases (add g cap d bs).answer <;> rfl

theorem takeAll_group : (Stage.group g cap).takeAll ds bs = addAll g cap ds bs := by
  unfold Stage.takeAll addAll
  congr 1
  funext bs d
  exact settled_push_group

end Buckets

/-! ## The chain -/

namespace Chain

variable {g : Grouping} {cap : Option Nat} {ds : List Document} {bs : Buckets} {rest : List Stage}

theorem feedEach_group (hbs : Buckets.addAll g cap ds [] = .ok bs) :
    feedEach (feed (.group g cap :: rest)) ds (initial (.group g cap :: rest)) =
      .success (⟨bs, false⟩, initial rest) .more := by
  have hall : (Stage.group g cap).takeAll ds [] = .ok bs := Buckets.takeAll_group.trans hbs
  exact feedEach_of_takeAll trivial hall

theorem addAll_of_feedEach_group {flow : Flow}
    (hflow : (feedEach (feed (.group g cap :: rest)) ds (initial (.group g cap :: rest))).answer =
      .ok flow) : ∃ bs, Buckets.addAll g cap ds [] = .ok bs := by
  obtain ⟨bs, hbs⟩ := takeAll_of_feedEach (s := .group g cap) trivial hflow
  exact ⟨bs, Buckets.takeAll_group.symm.trans hbs⟩

theorem through_group (h : HandOut) (hbs : Buckets.addAll g cap ds [] = .ok bs) :
    through h (.group g cap :: rest) ds =
      through h rest ((h.order rest.length bs).values.map g.finish) := by
  have hall : (Stage.group g cap).takeAll ds [] = .ok bs := Buckets.takeAll_group.trans hbs
  exact through_of_takeAll trivial hall

/-- **A group partitions its documents.**  A chain that begins with a group takes in documents
without an error if and only if they can be partitioned; then the stages behind are handed one document
for each key, which sums up the documents with that key in the order in which they came; and each
document has one of the keys, and no other. -/
theorem group_eq_partition (g : Grouping) (h : HandOut) (rest : List Stage) (ds : List Document) :
    ((∃ flow, (feedEach (feed (.group g none :: rest)) ds (initial _)).answer = .ok flow) ↔
      ∃ docs, g.partition ds = .ok docs) ∧
    (∀ docs, g.partition ds = .ok docs →
      ∃ out, out.Perm docs ∧ through h (.group g none :: rest) ds = through h rest out) ∧
    ∀ keys, g.groupKeys ds = .ok keys →
      keys.Nodup ∧ (keys.flatMap fun k => g.members k ds).Perm ds := by
  refine ⟨⟨?_, ?_⟩, ?_, ?_⟩
  · rintro ⟨flow, hflow⟩
    obtain ⟨bs, hbs⟩ := addAll_of_feedEach_group hflow
    exact (Buckets.gathered_of_addAll hbs).exists_partition
  · rintro ⟨docs, hdocs⟩
    obtain ⟨bs, hbs⟩ := Buckets.addAll_of_partition hdocs
    exact ⟨.more, congrArg Outcome.answer (feedEach_group hbs)⟩
  · intro docs hdocs
    obtain ⟨bs, hbs⟩ := Buckets.addAll_of_partition hdocs
    have hperm : ((h.order rest.length bs).values.map g.finish).Perm (bs.values.map g.finish) :=
      ((h.perm rest.length bs).map Prod.snd).map g.finish
    have hfinish := (Buckets.gathered_of_addAll hbs).finish_perm hdocs
    exact ⟨_, hperm.trans hfinish, through_group h hbs⟩
  · intro keys hkeys
    have hnodup := Grouping.nodup_groupKeys hkeys
    refine ⟨hnodup, Grouping.flatMap_members_perm hnodup fun d hd => ?_⟩
    obtain ⟨id, hid⟩ := Grouping.exists_groupKeys_iff.1 ⟨keys, hkeys⟩ d hd
    have hin : g.inGroup id.key d = true := Grouping.inGroup_iff.2 ⟨id, hid, rfl⟩
    exact ⟨id.key, (Grouping.mem_groupKeys hkeys).2 ⟨d, hd, hin⟩, hin⟩

/-- Documents of two keys that come in turn. -/
theorem group_eq_partition_in_turn :
    let g : Grouping := ⟨.computed (.operand (.field ⟨"k", []⟩)),
      [("all", .reduce .push (.operand (.field ⟨"v", []⟩)))]⟩
    let ds : List Document := [⟨[("k", .string "a"), ("v", .string "1")]⟩,
      ⟨[("k", .string "b"), ("v", .string "2")]⟩, ⟨[("k", .string "a"), ("v", .string "3")]⟩]
    let docs : List Document := [⟨[("_id", .string "b"), ("all", .array [.string "2"])]⟩,
      ⟨[("_id", .string "a"), ("all", .array [.string "1", .string "3"])]⟩]
    g.partition ds = .ok docs ∧
      (∃ flow, (feedEach (feed [.group g none]) ds (initial _)).answer = .ok flow) ∧
      (∃ out, out.Perm docs ∧ through .firstOpened [.group g none] ds = .ok out) ∧
      ∃ keys, g.groupKeys ds = .ok keys ∧ (keys.flatMap fun k => g.members k ds).Perm ds := by
  intro g ds docs
  have hkeys : ∃ keys, g.groupKeys ds = .ok keys := ⟨_, rfl⟩
  have hdocs : g.partition ds = .ok docs := rfl
  obtain ⟨hfed, hthrough, hmembers⟩ := group_eq_partition g .firstOpened [] ds
  obtain ⟨keys, hkeys⟩ := hkeys
  refine ⟨hdocs, hfed.2 ⟨docs, hdocs⟩, ?_, keys, hkeys, (hmembers keys hkeys).2⟩
  simpa using hthrough docs hdocs

end Chain

end DocFlow
