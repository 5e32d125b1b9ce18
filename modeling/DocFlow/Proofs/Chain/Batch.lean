import DocFlow.Proofs.Chain.Basic
import DocFlow.Proofs.Group.Gather
import DocFlow.Proofs.Pipeline.Calls
import DocFlow.Proofs.Sort.Insertion
import DocFlow.Proofs.Stage.Push

/-!
# Streaming equals batch

`Stage.batch` says what a stage makes of a whole list of documents, `Chain.batch` applies it stage by
stage.  A running chain is fed one document at a time, stops being fed and stops draining at the first
limit that is met, and still gives the batch result (`run_eq_batch`).

* `Stage.onward m ds`, `Chain.onward state ds` — what comes out in the end of a stage or a chain in the
  middle of its run, if `ds` are still fed and it is then drained;
* `Stage.Advance` — a stage takes in a document and passes on the first part of what comes out of it, or
  it is a full limit;
* `onward_feed` — feeding a document does not change what comes out in the end, and where a limit
  answers, what comes out is the same without the documents that are left.
-/

namespace DocFlow

/-- The documents of a list that are fed after an answer. -/
def Flow.remaining (ds : List Document) : Flow → List Document
  | more => ds
  | limit => []

namespace Stage

/-! ## The meaning of a stage on lists -/

/-- What a stage makes of a list of documents, with `behind` stages behind it. -/
def batch (h : HandOut) (behind : Nat) : Stage → List Document → Except Error (List Document)
  | filter q, ds => ds.filterMapM fun d => do return if ← q.accepts d then some d else none
  | project p, ds => ds.mapM fun d => p.apply d
  | group g cap, ds => do
    let bs ← Buckets.addAll g cap ds []
    return (h.order behind bs).values.map g.finish
  | sort keys, ds => .ok (insertAll keys ds [])
  | skip count, ds => .ok (ds.drop count)
  | limit count, ds => .ok (ds.take count)
  | unwind path, ds => ds.flatMapM (unwound path)

/-- What comes out of a stage in the end, if it takes in a list of documents and is drained. -/
def onward (h : HandOut) (behind : Nat) :
    (s : Stage) → s.Memory → List Document → Except Error (List Document)
  | group g cap, (bs : Buckets), ds => do
    let bs ← Buckets.addAll g cap ds bs
    return (h.order behind bs).values.map g.finish
  | sort keys, (sorted : List Document), ds => .ok (insertAll keys ds sorted)
  | skip count, (seen : Nat), ds => batch h behind (skip (count - seen)) ds
  | limit count, (passed : Nat), ds => batch h behind (limit (count - passed)) ds
  | filter q, _, ds => batch h behind (filter q) ds
  | project p, _, ds => batch h behind (project p) ds
  | unwind path, _, ds => batch h behind (unwind path) ds

variable {h : HandOut} {behind : Nat}

theorem onward_initial (s : Stage) (ds : List Document) :
    s.onward h behind s.initial ds = s.batch h behind ds := by
  cases s <;> rfl

/-- Without further documents, what comes out of a stage is what it has held back. -/
theorem onward_nil (s : Stage) (m : s.Memory) :
    s.onward h behind m [] = .ok (s.release h behind m).1 := by
  cases s with
  | skip count => simp [onward, batch, release]
  | limit count => simp [onward, batch, release]
  | _ => rfl

/-! ## Taking in one document -/

/-- How a stage takes in a document out of which and out of those that follow the documents `all` come:
as a full limit, out of which nothing comes; or it passes on the first part of them, and if that is
something, it has held nothing back. -/
inductive Advance (h : HandOut) (behind : Nat) (s : Stage) (m : s.Memory) (d : Document)
    (ds : List Document) : (all : List Document) → Prop
  | full (hfull : (s.push d m).answer = .ok .full)
      (hdry : s.onward h behind (s.push d m).state [] = .ok []) : Advance h behind s m d ds []
  | pass {es more : List Document} (hpass : (s.push d m).answer = .ok (.pass es))
      (hmore : s.onward h behind (s.push d m).state ds = .ok more)
      (hdry : es ≠ [] → s.onward h behind (s.push d m).state [] = .ok []) :
      Advance h behind s m d ds (es ++ more)

variable {d : Document} {ds all : List Document}

theorem advance_filter {q : Query} {m : (filter q).Memory}
    (hall : (filter q).onward h behind m (d :: ds) = .ok all) :
    (filter q).Advance h behind m d ds all := by
  simp only [onward, batch, List.filterMapM_cons] at hall
  cases hq : q.accepts d with
  | error e => simp [hq] at hall
  | ok keep =>
    cases keep with
    | true =>
      simp only [hq, Except.ok_bind, Except.pure_eq_ok, if_true] at hall
      obtain ⟨more, hmore, hall⟩ := Except.bind_eq_ok.1 hall
      obtain rfl : [d] ++ more = all := Except.ok.inj hall
      exact .pass (by simp [push, hq]) hmore fun _ => rfl
    | false =>
      simp only [hq, Except.ok_bind, Except.pure_eq_ok, Bool.false_eq_true, if_false] at hall
      rw [← List.nil_append all]
      exact .pass (by simp [push, hq]) hall fun _ => rfl

theorem advance_project {p : Projection} {m : (project p).Memory}
    (hall : (project p).onward h behind m (d :: ds) = .ok all) :
    (project p).Advance h behind m d ds all := by
  simp only [onward, batch] at hall
  obtain ⟨e, more, he, hmore, rfl⟩ := Except.mapM_cons_eq_ok.1 hall
  rw [← List.singleton_append]
  exact .pass (by simp [push, he]) hmore fun _ => rfl

theorem advance_group {g : Grouping} {cap : Option Nat} {m : (group g cap).Memory}
    (hall : (group g cap).onward h behind m (d :: ds) = .ok all) :
    (group g cap).Advance h behind m d ds all := by
  obtain ⟨bs, hbs, hall⟩ := Except.bind_eq_ok.1 hall
  obtain ⟨next, hnext, hbs⟩ := Except.bind_eq_ok.1 hbs
  obtain ⟨⟨_, hanswer⟩, rfl⟩ := Outcome.settled_eq_ok.1 hnext
  rw [← List.nil_append all]
  refine .pass ?_ ?_ fun hne => absurd rfl hne
  · simp [push, hanswer]
  · exact Except.bind_eq_ok.2 ⟨bs, hbs, hall⟩

theorem advance_sort {keys : List SortKey} {m : (sort keys).Memory}
    (hall : (sort keys).onward h behind m (d :: ds) = .ok all) :
    (sort keys).Advance h behind m d ds all := by
  obtain rfl : insertAll keys (d :: ds) m = all := Except.ok.inj hall
  exact .pass rfl rfl fun hne => absurd rfl hne

theorem advance_skip {count : Nat} {m : (skip count).Memory}
    (hall : (skip count).onward h behind m (d :: ds) = .ok all) :
    (skip count).Advance h behind m d ds all := by
  change Nat at m
  obtain rfl : (d :: ds).drop (count - m) = all := Except.ok.inj hall
  rcases Nat.lt_or_ge m count with hm | hm
  · have hleft : count - m = count - (m + 1) + 1 := by omega
    have hdrop : (d :: ds).drop (count - m) = [] ++ ds.drop (count - (m + 1)) := by
      rw [hleft]
      rfl
    rw [hdrop]
    refine .pass ?_ ?_ fun hne => absurd rfl hne
    · rw [push_skip_of_lt hm]
      rfl
    · rw [push_skip_of_lt hm]
      rfl
  · have hleft : count - m = 0 := by omega
    have hdrop : (d :: ds).drop (count - m) = [d] ++ ds := by
      rw [hleft]
      rfl
    rw [hdrop]
    refine .pass ?_ ?_ fun _ => ?_
    · rw [push_skip_of_le hm]
      rfl
    · rw [push_skip_of_le hm]
      show Except.ok (ds.drop (count - m)) = .ok ds
      rw [hleft, List.drop_zero]
    · rw [push_skip_of_le hm]
      simp [onward, batch]

theorem advance_limit {count : Nat} {m : (limit count).Memory}
    (hall : (limit count).onward h behind m (d :: ds) = .ok all) :
    (limit count).Advance h behind m d ds all := by
  change Nat at m
  obtain rfl : (d :: ds).take (count - m) = all := Except.ok.inj hall
  rcases Nat.lt_or_ge m count with hm | hm
  · have hleft : count - m = count - (m + 1) + 1 := by omega
    have htake : (d :: ds).take (count - m) = [d] ++ ds.take (count - (m + 1)) := by
      rw [hleft]
      rfl
    rw [htake]
    refine .pass ?_ ?_ fun _ => ?_
    · rw [push_limit_of_lt hm]
      rfl
    · rw [push_limit_of_lt hm]
      rfl
    · rw [push_limit_of_lt hm]
      simp [onward, batch]
  · have htake : (d :: ds).take (count - m) = [] := by
      rw [Nat.sub_eq_zero_of_le hm]
      rfl
    rw [htake]
    refine .full ?_ ?_
    · rw [push_limit_of_le hm]
      rfl
    · rw [push_limit_of_le hm]
      simp [onward, batch]

theorem advance_unwind {path : Path} {m : (unwind path).Memory}
    (hall : (unwind path).onward h behind m (d :: ds) = .ok all) :
    (unwind path).Advance h behind m d ds all := by
  simp only [onward, batch, List.flatMapM_cons] at hall
  obtain ⟨es, hes, hall⟩ := Except.bind_eq_ok.1 hall
  obtain ⟨more, hmore, hall⟩ := Except.bind_eq_ok.1 hall
  obtain rfl : es ++ more = all := Except.ok.inj hall
  exact .pass (by simp [push, hes]) hmore fun _ => rfl

/-- Whatever a stage remembers, it takes in the first of the documents out of which something comes. -/
theorem advance_of_onward {s : Stage} {m : s.Memory} (hall : s.onward h behind m (d :: ds) = .ok all) :
    s.Advance h behind m d ds all := by
  cases s with
  | filter q => exact advance_filter hall
  | project p => exact advance_project hall
  | group g cap => exact advance_group hall
  | sort keys => exact advance_sort hall
  | skip count => exact advance_skip hall
  | limit count => exact advance_limit hall
  | unwind path => exact advance_unwind hall

end Stage

namespace Chain

/-! ## The meaning of a chain on lists -/

/-- What a chain makes of a list of documents, stage by stage. -/
def batch (h : HandOut) : List Stage → List Document → Except Error (List Document)
  | [], ds => .ok ds
  | s :: rest, ds => do batch h rest (← s.batch h rest.length ds)

/-- What comes out of a chain in the end, if a list of documents is fed to it and it is drained. -/
def onward (h : HandOut) : (stages : List Stage) → State stages → List Document →
    Except Error (List Document)
  | [], (out : Array Document), ds => .ok (out.toList ++ ds)
  | s :: rest, (station, state), ds => do
    onward h rest state (← s.onward h rest.length station.memory ds)

variable {h : HandOut} {stages : List Stage} {state : State stages}

theorem onward_initial (h : HandOut) (stages : List Stage) (ds : List Document) :
    onward h stages (initial stages) ds = batch h stages ds := by
  induction stages generalizing ds with
  | nil => rfl
  | cons s rest ih => simp only [onward, initial, batch, Stage.onward_initial, ih]

/-! ## Feeding -/

/-- If feeding one document does not change what comes out in the end, neither does feeding a list. -/
theorem onward_feedEach_of_feed
    (hfeed : ∀ {state d ds out}, onward h stages state (d :: ds) = .ok out →
      ∃ flow, (feed stages d state).answer = .ok flow ∧
        onward h stages (feed stages d state).state (flow.remaining ds) = .ok out)
    {es ds out : List Document} (hout : onward h stages state (es ++ ds) = .ok out) :
    ∃ flow, (feedEach (feed stages) es state).answer = .ok flow ∧
      onward h stages (feedEach (feed stages) es state).state (flow.remaining ds) = .ok out := by
  induction es generalizing state with
  | nil => exact ⟨.more, rfl, hout⟩
  | cons e es ih =>
    obtain ⟨flow, hflow, hnext⟩ := hfeed hout
    cases flow with
    | more =>
      rw [feedEach_cons_of_more hflow]
      exact ih hnext
    | limit =>
      rw [feedEach_cons_of_limit hflow]
      exact ⟨.limit, hflow, hnext⟩

/-- Feeding a document does not change what comes out in the end; if a limit answers, that is also
what comes out without the documents that are left. -/
theorem onward_feed {d : Document} {ds out : List Document}
    (hout : onward h stages state (d :: ds) = .ok out) :
    ∃ flow, (feed stages d state).answer = .ok flow ∧
      onward h stages (feed stages d state).state (flow.remaining ds) = .ok out := by
  induction stages generalizing d ds out with
  | nil =>
    change Array Document at state
    refine ⟨.more, rfl, ?_⟩
    rw [← hout]
    simp [onward, feed, Flow.remaining, Outcome.success]
  | cons s rest ih =>
    obtain ⟨station, state⟩ := state
    obtain ⟨all, hall, hrest⟩ := Except.bind_eq_ok.1 hout
    cases Stage.advance_of_onward hall with
    | full hfull hdry =>
      rw [feed_of_full hfull]
      exact ⟨.limit, rfl, Except.bind_eq_ok.2 ⟨[], hdry, hrest⟩⟩
    | @pass es more hpass hmore hdry =>
      obtain ⟨flow, hflow, hnext⟩ := onward_feedEach_of_feed ih hrest
      rw [feed_of_pass hpass]
      refine ⟨flow, hflow, ?_⟩
      cases flow with
      | more => exact Except.bind_eq_ok.2 ⟨more, hmore, hnext⟩
      | limit =>
        -- a stage behind answers only to documents that are passed on to it
        have hne : es ≠ [] := by
          rintro rfl
          simp [feedEach] at hflow
        exact Except.bind_eq_ok.2 ⟨[], hdry hne, hnext⟩

theorem onward_feedEach {es ds out : List Document}
    (hout : onward h stages state (es ++ ds) = .ok out) :
    ∃ flow, (feedEach (feed stages) es state).answer = .ok flow ∧
      onward h stages (feedEach (feed stages) es state).state (flow.remaining ds) = .ok out :=
  onward_feedEach_of_feed onward_feed hout

/-! ## Draining -/

/-- What comes out of a chain without further documents is what draining it answers. -/
theorem drain_of_onward {out : List Document} (hu : Undrained stages state)
    (hout : onward h stages state [] = .ok out) : (drain h stages state).answer = .ok out := by
  induction stages with
  | nil =>
    change Array Document at state
    obtain rfl : state.toList ++ [] = out := Except.ok.inj hout
    rw [List.append_nil]
    rfl
  | cons s rest ih =>
    obtain ⟨station, state⟩ := state
    obtain ⟨hdrained, hu⟩ := hu
    obtain ⟨all, hall, hrest⟩ := Except.bind_eq_ok.1 hout
    rw [Stage.onward_nil] at hall
    obtain rfl : station.held h rest.length = all := Except.ok.inj hall
    rw [← List.append_nil (station.held h rest.length)] at hrest
    obtain ⟨flow, hflow, hnext⟩ := onward_feedEach hrest
    rw [drain_of_ok hdrained hflow]
    refine ih (feedEach_keeps (fun _ _ h => h.feed) hu) ?_
    cases flow with
    | more => exact hnext
    | limit => exact hnext

end Chain

namespace Pipeline

/-! ## Pipelines -/

/-- A pipeline takes in documents: its result has not been made, and no limit has been met. -/
structure Open (p : Pipeline) : Prop where
  answer_eq : p.answer = none
  not_limitReached : p.limitReached = false
  undrained : Chain.Undrained p.stages p.state

theorem open_start (stages : List Stage) : (start stages).Open :=
  ⟨rfl, rfl, Chain.undrained_initial stages⟩

theorem build_eq_ok {options : Options} {registry : Registry} {spec : Json} {p : Pipeline}
    (hb : build options registry spec = .ok p) : ∃ stages, p = start stages := by
  unfold build at hb
  obtain ⟨_, _, hb⟩ := Except.bind_eq_ok.1 hb
  split at hb
  · cases hb
  · obtain ⟨offset, _, hb⟩ := Except.bind_eq_ok.1 hb
    obtain ⟨stages, _, hb⟩ := Except.bind_eq_ok.1 hb
    exact ⟨stages, (Except.ok.inj hb).symm⟩
  · cases hb

variable {h : HandOut} {p : Pipeline}

theorem feedAll_cons_of_more {d : Document} {ds : List Document} (hf : (p.feed d).answer = .ok .more) :
    p.feedAll (d :: ds) = (p.feed d).state.feedAll ds := by
  simp only [feedAll, feedEach, hf]

theorem feedAll_cons_of_limit {d : Document} {ds : List Document}
    (hf : (p.feed d).answer = .ok .limit) : p.feedAll (d :: ds) = .success (p.feed d).state () := by
  simp only [feedAll, feedEach, hf]

theorem result_of_onward (hp : p.answer = none) (hu : Chain.Undrained p.stages p.state)
    {out : List Document} (hout : Chain.onward h p.stages p.state [] = .ok out) :
    (p.result h).answer = .ok out := by
  simp only [result, hp]
  exact Chain.drain_of_onward hu hout

/-- Documents that are fed up to a limit do not change what comes out in the end. -/
theorem result_feedAll (hp : p.Open) {ds out : List Document}
    (hout : Chain.onward h p.stages p.state ds = .ok out) :
    (p.feedAll ds).answer = .ok () ∧ ((p.feedAll ds).state.result h).answer = .ok out := by
  induction ds generalizing p with
  | nil => exact ⟨rfl, result_of_onward hp.answer_eq hp.undrained hout⟩
  | cons d ds ih =>
    obtain ⟨flow, hflow, hnext⟩ := Chain.onward_feed hout
    have hfeed := feed_of_ok hp.answer_eq hp.not_limitReached hflow
    have hanswer : (p.feed d).answer = .ok flow := by rw [hfeed]; rfl
    cases flow with
    | more =>
      rw [feedAll_cons_of_more hanswer, hfeed]
      exact ih ⟨hp.answer_eq, rfl, hp.undrained.feed⟩ hnext
    | limit =>
      rw [feedAll_cons_of_limit hanswer, hfeed]
      refine ⟨rfl, result_of_onward ?_ ?_ hnext⟩
      · exact hp.answer_eq
      · exact hp.undrained.feed

theorem feedEach_feedJson {js : List Json} {ds : List Document} (hjs : js.mapM Document.ofJson = .ok ds) :
    p.feedEach feedJson js = p.feedAll ds := by
  induction js generalizing p ds with
  | nil =>
    obtain rfl : [] = ds := Except.ok.inj hjs
    rfl
  | cons j js ih =>
    obtain ⟨d, ds, hd, hds, rfl⟩ := Except.mapM_cons_eq_ok.1 hjs
    simp only [feedAll] at ih
    simp only [feedAll, feedEach, feedJson, hd, ih hds]

theorem result_start (stages : List Stage) {ds out : List Document}
    (hout : Chain.batch h stages ds = .ok out) :
    ((start stages).feedAll ds).answer = .ok () ∧
      (((start stages).feedAll ds).state.result h).answer = .ok out := by
  rw [← Chain.onward_initial] at hout
  exact result_feedAll (open_start stages) hout

/-- **Streaming equals batch.**  A pipeline that is fed documents up to a limit and then drained
returns what the stages make of the whole list one after the other, if no stage fails on it; so does
the evaluation of the specification over JSON objects. -/
theorem run_eq_batch (h : HandOut) (spec : Json) :
    (∀ options registry p, build options registry spec = .ok p → ∀ ds out,
      Chain.batch h p.stages ds = .ok out → (p.run h ds).answer = .ok out) ∧
    ∀ p, build .default .empty spec = .ok p → ∀ js ds out, js.mapM Document.ofJson = .ok ds →
      Chain.batch h p.stages ds = .ok out → evaluate h spec js = .ok out := by
  constructor
  · intro options registry p hb ds out hout
    obtain ⟨stages, rfl⟩ := build_eq_ok hb
    obtain ⟨hfed, hresult⟩ := result_start stages hout
    simp only [run, hfed]
    exact hresult
  · intro p hb js ds out hjs hout
    obtain ⟨stages, rfl⟩ := build_eq_ok hb
    obtain ⟨hfed, hresult⟩ := result_start stages hout
    simp only [evaluate, hb, feedEach_feedJson hjs, Except.ok_bind, hfed]
    exact hresult

/-- An unwinding that is cut off by a limit, and a sort that is cut off while it is drained. -/
theorem run_eq_batch_cut_off :
    let spec : Json := .array [.object [("$unwind", .string "$n")], .object [("$limit", .number (.int 2))],
      .object [("$sort", .object [("n", .number (.int (-1)))])], .object [("$limit", .number (.int 1))]]
    let stages : List Stage := [.unwind ⟨"n", []⟩, .limit 2, .sort [⟨⟨"n", []⟩, true⟩], .limit 1]
    let d : Document := ⟨[("n", .array [.string "a", .string "c", .string "b"])]⟩
    let j : Json := .object [("n", .array [.string "a", .string "c", .string "b"])]
    build .default .empty spec = .ok (start stages) ∧
      ((start stages).run .firstOpened [d]).answer = .ok [⟨[("n", .string "c")]⟩] ∧
      evaluate .firstOpened spec [j] = .ok [⟨[("n", .string "c")]⟩] := by
  intro spec stages d j
  have hbuild : build .default .empty spec = .ok (start stages) := rfl
  have hbatch : Chain.batch .firstOpened stages [d] = .ok [⟨[("n", .string "c")]⟩] := rfl
  have hdocs : [j].mapM Document.ofJson = .ok [d] := rfl
  exact ⟨hbuild, (run_eq_batch .firstOpened spec).1 .default .empty _ hbuild [d] _ hbatch,
    (run_eq_batch .firstOpened spec).2 _ hbuild [j] [d] _ hdocs hbatch⟩

end Pipeline

end DocFlow
