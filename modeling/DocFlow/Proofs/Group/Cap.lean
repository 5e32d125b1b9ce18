import DocFlow.Proofs.Chain.Reachable
import DocFlow.Proofs.Group.Partition
import DocFlow.Proofs.Pipeline.Build
import DocFlow.Proofs.Pipeline.Calls
import DocFlow.Proofs.Stage.Raised

/-!
# The cap on the buckets of a group

A group with a cap opens a bucket only while it holds fewer than so many, and a bucket that is open stays under its key;
so it never holds more (`Buckets.length_add_le`), whatever its documents are and whether its accumulators fail.  It is
full for a document if and only if the key of the document is new and no room is left; no expression and no accumulator
fails with the same error (`Buckets.answer_add_eq_overflow_iff`).

In a pipeline this holds of every group at all times, also while the groups before it hand out their documents
(`Pipeline.bucket_cap`).
-/

namespace DocFlow

/-! ## Buckets -/

theorem Entries.length_put_of_get? {α : Type} {k : String} (v : α) {es : Entries α} (hk : (get? k es).isSome) :
    (put k v es).length = es.length := by
  simpa [keys] using congrArg List.length (keys_put_of_get? v hk)

theorem Entries.length_put_le {α : Type} (k : String) (v : α) (es : Entries α) :
    (put k v es).length ≤ es.length + 1 := by
  induction es with
  | nil => exact Nat.le_refl _
  | cons e es ih =>
    unfold put
    split
    · exact Nat.le_succ _
    · exact Nat.succ_le_succ ih

namespace Buckets

variable {g : Grouping} {cap : Nat} {d : Document} {bs : Buckets} {id : Value} {b : Bucket}

theorem isFull_some_iff : isFull (some cap) bs = true ↔ cap ≤ bs.length := decide_eq_true_iff

theorem add_of_full (hid : g.keyOf d = .ok id) (hnew : Entries.get? id.key bs = none) (hfull : cap ≤ bs.length) :
    add g (some cap) d bs = .failure bs (overflow (some cap)) := by
  simp only [add, hid, hnew, isFull_some_iff.2 hfull, if_true]

theorem add_of_get? (bound : Option Nat) (hid : g.keyOf d = .ok id) (hb : Entries.get? id.key bs = some b) :
    add g bound d bs = addTo g d id.key b bs := by
  simp only [add, hid, hb]

theorem add_of_room (hid : g.keyOf d = .ok id) (hnew : Entries.get? id.key bs = none) (hroom : bs.length < cap) :
    add g (some cap) d bs = addTo g d id.key ⟨id, g.initial⟩ bs := by
  have hroom : isFull (some cap) bs = false := Bool.eq_false_iff.2 (mt isFull_some_iff.1 (Nat.not_le.2 hroom))
  rw [add_of_keyOf hid fun _ => hroom, bucketOf, hnew, Option.getD_none]

/-- The cap is kept, also by a document that fails in the bucket that was opened for it. -/
theorem length_add_le (h : bs.length ≤ cap) : (add g (some cap) d bs).state.length ≤ cap := by
  cases hid : g.keyOf d with
  | error e =>
    have hadd : add g (some cap) d bs = .failure bs e := by simp only [add, hid]
    rw [hadd]
    exact h
  | ok id =>
    cases hb : Entries.get? id.key bs with
    | some b =>
      rw [add_of_get? _ hid hb]
      exact (Entries.length_put_of_get? _ (hb ▸ rfl)).trans_le h
    | none =>
      rcases Nat.lt_or_ge bs.length cap with hroom | hfull
      · rw [add_of_room hid hb hroom]
        exact (Entries.length_put_le ..).trans hroom
      · rw [add_of_full hid hb hfull]
        exact h

theorem answer_addTo_ne_overflow {key : String} : (addTo g d key b bs).answer ≠ .error (overflow (some cap)) :=
  fun h => (Grouping.failsOnly_step _ h).ne_tooManyBuckets _ _ _ rfl

theorem answer_add_eq_overflow_iff (h : bs.length ≤ cap) (hid : g.keyOf d = .ok id) :
    (add g (some cap) d bs).answer = .error (overflow (some cap)) ↔
      Entries.get? id.key bs = none ∧ bs.length = cap := by
  cases hb : Entries.get? id.key bs with
  | some b =>
    rw [add_of_get? _ hid hb]
    exact iff_of_false answer_addTo_ne_overflow nofun
  | none =>
    rcases Nat.lt_or_ge bs.length cap with hroom | hfull
    · rw [add_of_room hid hb hroom]
      exact iff_of_false answer_addTo_ne_overflow fun hcap => hroom.ne hcap.2
    · rw [add_of_full hid hb hfull]
      exact iff_of_true rfl ⟨rfl, Nat.le_antisymm h hfull⟩

end Buckets

/-! ## Stages and chains -/

/-- A group has this cap and holds no more buckets. -/
def Stage.Capped (cap : Nat) : (s : Stage) → s.Memory → Prop
  | group _ bound, (bs : Buckets) => bound = some cap ∧ bs.length ≤ cap
  | _, _ => True

theorem Stage.capped_push {cap : Nat} {s : Stage} {m : s.Memory} (d : Document) (h : s.Capped cap m) :
    s.Capped cap (s.push d m).state := by
  cases s with
  | group g bound =>
    obtain ⟨rfl, h⟩ := h
    exact ⟨rfl, Buckets.length_add_le h⟩
  | _ => trivial

theorem Stage.capped_release {cap : Nat} {s : Stage} {m : s.Memory} (h : HandOut) (behind : Nat) (hm : s.Capped cap m) :
    s.Capped cap (s.release h behind m).2 := by
  cases s with
  | group g bound => exact ⟨hm.1, Nat.zero_le _⟩
  | _ => trivial

theorem Stage.capped_initial {ctx : Context} {cap : Nat} {j : Json} {s : Stage}
    (hs : Stage.parse ctx (some cap) j = .ok s) : s.Capped cap s.initial := by
  rcases parse_cases hs with ⟨_, _, _, rfl⟩ | ⟨_, _, _, rfl⟩ | ⟨_, _, _, rfl⟩ | ⟨_, _, _, rfl⟩ | ⟨_, rfl⟩ |
    ⟨_, rfl⟩ | ⟨_, rfl⟩
  case inr.inr.inl => exact ⟨rfl, Nat.zero_le _⟩
  all_goals trivial

namespace Chain

theorem feed_group (g : Grouping) (bound : Option Nat) (rest : List Stage) (d : Document) (bs : Buckets) (drained : Bool)
    (state : State rest) :
    feed (.group g bound :: rest) d (⟨bs, drained⟩, state) =
      ⟨(⟨(Buckets.add g bound d bs).state, drained⟩, state), (Buckets.add g bound d bs).answer.map fun _ => .more⟩ := by
  simp only [feed, Stage.push]
  cases (Buckets.add g bound d bs).answer <;> rfl

/-- A chain fails for want of room if and only if its first stage, a group, does. -/
theorem answer_feed_group_eq_overflow_iff {g : Grouping} {cap : Nat} {rest : List Stage} {d : Document} {bs : Buckets}
    {drained : Bool} {state : State rest} :
    (feed (.group g (some cap) :: rest) d (⟨bs, drained⟩, state)).answer = .error (Buckets.overflow (some cap)) ↔
      (Buckets.add g (some cap) d bs).answer = .error (Buckets.overflow (some cap)) := by
  rw [feed_group]
  cases (Buckets.add g (some cap) d bs).answer <;> simp [Except.map]

/-- In every state that the stages of a specification reach, the groups keep to the cap. -/
theorem capped_of_reachable {ctx : Context} {cap : Nat} {stages : List Stage} {state : State stages}
    (hparsed : ∀ s ∈ stages, ∃ j, Stage.parse ctx (some cap) j = .ok s) (h : Reachable stages state) :
    All (fun s station => s.Capped cap station.memory) stages state := by
  refine .of_reaches (fun _ d _ hm => Stage.capped_push d hm)
    (fun _ order behind _ hm => Stage.capped_release order behind hm) h (all_initial fun s hs => ?_)
  obtain ⟨j, hj⟩ := hparsed s hs
  exact Stage.capped_initial hj

end Chain

/-! ## Pipelines -/

namespace Pipeline

open Chain (Reachable)

variable {p : Pipeline}

theorem stages_after (p : Pipeline) (call : Call) : (p.after call).stages = p.stages := by
  rcases after_cases call with ⟨d, -, h⟩ | ⟨h, rfl⟩ | ⟨-, -, h⟩
  · rw [h, stages_feed]
  · exact stages_result p h
  · rw [h]

theorem stages_afterAll (p : Pipeline) (calls : List Call) : (p.afterAll calls).stages = p.stages :=
  afterAll_keeps (P := fun q => q.stages = p.stages) (fun call _ q hq => (stages_after q call).trans hq) rfl

theorem reachable_after (hp : Reachable p.stages p.state) (call : Call) :
    Reachable (p.after call).stages (p.after call).state := by
  rcases after_cases call with ⟨d, -, h⟩ | ⟨h, rfl⟩ | ⟨-, -, h⟩
  · rw [h]
    have hfed := hp.trans (Chain.reaches_feed p.stages d p.state)
    rcases feed_cases p d with ⟨-, h⟩ | ⟨-, -, h⟩ | ⟨-, -, ⟨e, -, h⟩ | ⟨flow, -, h⟩⟩ <;> rw [h]
    exacts [hp, hp, hfed, hfed]
  · change Reachable (p.result h).state.stages (p.result h).state.state
    cases ha : p.answer with
    | none =>
      rw [result_of_unanswered ha]
      exact hp.trans (Chain.reaches_drain h p.stages p.state)
    | some kept =>
      rw [result_of_answered ha]
      exact hp
  · rw [h]
    exact hp

theorem reachable_afterAll (hp : Reachable p.stages p.state) (calls : List Call) :
    Reachable (p.afterAll calls).stages (p.afterAll calls).state :=
  afterAll_keeps (P := fun q => Reachable q.stages q.state) (fun call _ _ hq => reachable_after hq call) hp

/-- **The cap on the buckets.**  A pipeline is built with a cap and used by calls in any order, also by such that fail.
Its state is a reachable one, and in every reachable state all its groups have the cap and hold no more buckets.

A group that holds no more buckets and is fed a document with a key fails for want of room if and only if it has no bucket
of the key and just so many buckets; then nothing changes, in the group or behind it.  Into a bucket that is there the
document goes as without a cap: the answer is that of the accumulators. -/
theorem bucket_cap {options : Options} {registry : Registry} {spec : Json} {cap : Nat}
    (hb : build options registry spec = .ok p) (hcap : options.maxBuckets = some cap) :
    (∀ calls, Reachable (p.afterAll calls).stages (p.afterAll calls).state ∧
      ∀ state, Reachable (p.afterAll calls).stages state →
        Chain.All (fun s station => s.Capped cap station.memory) (p.afterAll calls).stages state) ∧
    ∀ (g : Grouping) (rest : List Stage) (d : Document) (id : Value) (bs : Buckets) (drained : Bool)
      (state : Chain.State rest), g.keyOf d = .ok id → bs.length ≤ cap →
      let o := Chain.feed (.group g (some cap) :: rest) d (⟨bs, drained⟩, state)
      (o.answer = .error (Buckets.overflow (some cap)) ↔ Entries.get? id.key bs = none ∧ bs.length = cap) ∧
      (o.answer = .error (Buckets.overflow (some cap)) → o.state = (⟨bs, drained⟩, state)) ∧
      ∀ b, Entries.get? id.key bs = some b →
        o.answer = (g.step d b.parts).answer.map (fun _ => .more) ∧
        o.state = (⟨Entries.put id.key { b with parts := (g.step d b.parts).state } bs, drained⟩, state) := by
  constructor
  · obtain ⟨stages, rfl, offset, hparsed⟩ := parsed_of_build hb
    rw [hcap] at hparsed
    have hstart : Reachable (start stages).stages (start stages).state := Relation.ReflTransGen.refl
    refine fun calls => ⟨reachable_afterAll hstart calls, fun state hstate => ?_⟩
    have hstages : ((start stages).afterAll calls).stages = stages := stages_afterAll _ calls
    exact Chain.capped_of_reachable (hstages.symm ▸ hparsed) hstate
  · intro g rest d id bs drained state hid hle
    have hiff := Buckets.answer_add_eq_overflow_iff hle hid
    refine ⟨Chain.answer_feed_group_eq_overflow_iff.trans hiff, fun hfull => ?_, fun b hget => ?_⟩
    · obtain ⟨hnew, hlength⟩ := hiff.1 (Chain.answer_feed_group_eq_overflow_iff.1 hfull)
      rw [Chain.feed_group, Buckets.add_of_full hid hnew hlength.ge]
      rfl
    · rw [Chain.feed_group, Buckets.add_of_get? _ hid hget]
      exact ⟨rfl, rfl⟩

/-- Two buckets, of which the second was opened by a document that then failed, leave no room for a third key; the first
key is still taken in. -/
theorem bucket_cap_two :
    let spec : Json := .array [
      .object [("$group", .object [("_id", .string "$k"), ("all", .object [("$concatToList", .string "$v")])])],
      .object [("$group", .object [("_id", .string "$all")])]]
    let g : Grouping := ⟨.computed (.operand (.field ⟨"k", []⟩)),
      [("all", .reduce .concatToList (.operand (.field ⟨"v", []⟩)))]⟩
    let rest : List Stage := [.group ⟨.computed (.operand (.field ⟨"all", []⟩)), []⟩ (some 2)]
    let a : Document := ⟨[("k", .string "a")]⟩
    let b : Document := ⟨[("k", .string "b"), ("v", .string "x")]⟩
    let c : Document := ⟨[("k", .string "c")]⟩
    let bs : Buckets := [((Value.string "a").key, ⟨.string "a", [.list []]⟩),
      ((Value.string "b").key, ⟨.string "b", [.list []]⟩)]
    let state : Chain.State (.group g (some 2) :: rest) := (⟨bs, false⟩, Chain.initial rest)
    ∃ p, build ⟨0, some 2⟩ .empty spec = .ok p ∧
      (∀ calls, Chain.All (fun s station => s.Capped 2 station.memory) _ (p.afterAll calls).state) ∧
      p.afterAll [.feed a, .feed b] = ⟨.group g (some 2) :: rest, state, false, none⟩ ∧
      bs.length ≤ 2 ∧ g.keyOf c = .ok (.string "c") ∧
      (Chain.feed (.group g (some 2) :: rest) c state).answer = .error (Buckets.overflow (some 2)) ∧
      (Chain.feed (.group g (some 2) :: rest) c state).state = state ∧
      g.keyOf a = .ok (.string "a") ∧ (Chain.feed (.group g (some 2) :: rest) a state).answer = .ok .more := by
  intro spec g rest a b c bs state
  have hbuild : build ⟨0, some 2⟩ .empty spec = .ok (start (.group g (some 2) :: rest)) := rfl
  obtain ⟨hcalls, hgroup⟩ := bucket_cap hbuild rfl
  obtain ⟨hfull, hsame, -⟩ := hgroup g rest c (.string "c") bs false (Chain.initial rest) rfl (by decide)
  obtain ⟨-, -, hopen⟩ := hgroup g rest a (.string "a") bs false (Chain.initial rest) rfl (by decide)
  have hoverflow := hfull.2 ⟨by decide, rfl⟩
  have haccepted := (hopen ⟨.string "a", [.list []]⟩ (by rfl)).1
  exact ⟨_, hbuild, fun calls => (hcalls calls).2 _ (hcalls calls).1, rfl, by decide, rfl, hoverflow, hsame hoverflow,
    rfl, haccepted⟩

end Pipeline

end DocFlow
