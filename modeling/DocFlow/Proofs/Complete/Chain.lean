import DocFlow.Proofs.Complete.Group
import DocFlow.Proofs.Pipeline.Build
import DocFlow.Proofs.Pipeline.Calls

/-!
# Pipelines that leave nothing missing

All documents in a chain are complete: those that its stages hold back, what the buckets have gathered, and the
documents at the end (`Chain.Complete`).  Feeding complete documents and draining keep it so, also when they fail or
are cut off by a limit.  So no result of a pipeline that is only fed complete documents has anything missing in it
(`Pipeline.complete_result`).
-/

namespace DocFlow

open DocFlow.Except (Yields)

/-! ## Stages -/

namespace Stage

variable {ctx : Context} {cap : Option Nat} {s : Stage} {m : s.Memory} {d : Document}

/-- What the stage makes of complete documents is complete. -/
def Tidy : Stage → Prop
  | project p => p.Tidy
  | group g _ => g.Tidy
  | _ => True

def Holds : (s : Stage) → s.Memory → Prop
  | group _ _, bs => Buckets.Complete bs
  | sort _, (ds : List Document) => ∀ d ∈ ds, d.Complete
  | _, _ => True

theorem tidy_parse (hr : ctx.registry.Tidy) {j : Json} : Yields Tidy (parse ctx cap j) := by
  intro s hs
  rcases parse_cases hs with ⟨_, _, _, rfl⟩ | ⟨_, _, hp, rfl⟩ | ⟨_, _, hg, rfl⟩ | ⟨_, _, _, rfl⟩ | ⟨_, rfl⟩ |
    ⟨_, rfl⟩ | ⟨_, rfl⟩
  · trivial
  · exact Projection.tidy_parse hr _ hp
  · exact Grouping.tidy_parse hr _ hg
  all_goals trivial

theorem holds_initial (s : Stage) : s.Holds s.initial := by
  cases s with
  | group g cap => exact nofun
  | sort keys => exact nofun
  | _ => trivial

def Output.Complete : Output → Prop
  | pass ds => ∀ d ∈ ds, d.Complete
  | full => True

theorem complete_unwound {path : Path} (hd : d.Complete) :
    Yields (fun ds => ∀ d ∈ ds, d.Complete) (unwound path d) := by
  unfold unwound
  split
  · exact .ok nofun
  · rename_i items hitems
    have hitems := Value.complete_array_iff.1 ((hitems ▸ hd.get).complete nofun)
    refine .ok (List.forall_mem_map.2 fun item hitem => hd.set (.inr (hitems item hitem)))
  · exact .error _

/-- A stage that takes in a complete document keeps what it remembers complete, also if it fails. -/
theorem holds_push (hs : s.Tidy) (hm : s.Holds m) (hd : d.Complete) : s.Holds (s.push d m).state := by
  cases s with
  | group g cap => exact Buckets.complete_add hs hd hm
  | sort keys =>
    intro e he
    rcases List.mem_cons.1 ((insertSorted_perm keys d m).mem_iff.1 he) with rfl | he
    · exact hd
    · exact hm e he
  | _ => trivial

theorem complete_push (hs : s.Tidy) (hd : d.Complete) : Yields Output.Complete (s.push d m).answer := by
  have hself : ∀ e ∈ [d], e.Complete := List.forall_mem_singleton.2 hd
  cases s with
  | filter q =>
    refine .bind fun accepted _ => .ok ?_
    change ∀ e ∈ if accepted then [d] else [], e.Complete
    split
    · exact hself
    · exact nofun
  | project p => exact .bind fun e he => .ok (List.forall_mem_singleton.2 (hs hd e he))
  | group g cap => exact .bind fun _ _ => .ok (nofun : ∀ e ∈ ([] : List Document), e.Complete)
  | sort keys => exact .ok (nofun : ∀ e ∈ ([] : List Document), e.Complete)
  | skip count =>
    change Nat at m
    rcases Nat.lt_or_ge m count with hm | hm
    · rw [push_skip_of_lt hm]
      exact .ok (nofun : ∀ e ∈ ([] : List Document), e.Complete)
    · rw [push_skip_of_le hm]
      exact .ok hself
  | limit count =>
    change Nat at m
    rcases Nat.lt_or_ge m count with hm | hm
    · rw [push_limit_of_lt hm]
      exact .ok hself
    · rw [push_limit_of_le hm]
      exact .ok trivial
  | unwind path => exact .bind fun ds hds => .ok (complete_unwound hd ds hds)

theorem holds_release (h : HandOut) (behind : Nat) (hm : s.Holds m) : s.Holds (s.release h behind m).2 := by
  cases s with
  | group g cap => exact nofun
  | sort keys => exact nofun
  | _ => trivial

/-- The documents that a stage has held back are complete. -/
theorem complete_release (h : HandOut) (behind : Nat) (hm : s.Holds m) :
    ∀ d ∈ (s.release h behind m).1, d.Complete := by
  cases s with
  | group g cap =>
    change Buckets at m
    simp only [release, Entries.values, List.map_map, List.forall_mem_map, Function.comp_def]
    intro e he
    exact Grouping.complete_finish (hm e ((h.perm behind m).mem_iff.1 he))
  | sort keys => exact hm
  | _ => exact fun d hd => absurd hd List.not_mem_nil

end Stage

/-! ## Chains -/

namespace Chain

variable {stages : List Stage} {state : State stages} {d : Document} {ds : List Document}

/-- All documents that the stages remember and that have come to the end are complete. -/
def Complete : (stages : List Stage) → State stages → Prop
  | [], (out : Array Document) => ∀ d ∈ out.toList, d.Complete
  | s :: rest, (station, state) => s.Holds station.memory ∧ Complete rest state

theorem complete_initial (stages : List Stage) : Complete stages (initial stages) := by
  induction stages with
  | nil => exact nofun
  | cons s rest ih => exact ⟨s.holds_initial, ih⟩

/-- Feeding a complete document keeps all documents complete, whatever the answer. -/
theorem Complete.feed (hs : ∀ s ∈ stages, s.Tidy) (hd : d.Complete) (h : Complete stages state) :
    Complete stages (feed stages d state).state := by
  induction stages generalizing d with
  | nil =>
    change Array Document at state
    change ∀ e ∈ (state.push d).toList, e.Complete
    rw [Array.toList_push]
    exact List.forall_mem_append.2 ⟨h, List.forall_mem_singleton.2 hd⟩
  | cons s rest ih =>
    obtain ⟨station, state⟩ := state
    obtain ⟨hstation, hstate⟩ := h
    obtain ⟨hs, hrest⟩ := List.forall_mem_cons.1 hs
    have hfed : s.Holds (station.fed d).memory := Stage.holds_push hs hstation hd
    match ho : (s.push d station.memory).answer with
    | .error e =>
      rw [feed_of_error ho]
      exact ⟨hfed, hstate⟩
    | .ok .full =>
      rw [feed_of_full ho]
      exact ⟨hfed, hstate⟩
    | .ok (.pass ds) =>
      rw [feed_of_pass ho]
      have hds : ∀ d ∈ ds, d.Complete := Stage.complete_push hs hd _ ho
      exact ⟨hfed, feedEach_keeps_of_mem (fun d hd _ h => ih hrest (hds d hd) h) hstate⟩

/-- Draining keeps all documents complete, whatever the answer, and answers with complete documents. -/
theorem Complete.drain (h : HandOut) (hs : ∀ s ∈ stages, s.Tidy) (hstate : Complete stages state) :
    Complete stages (drain h stages state).state ∧
      Yields (fun ds => ∀ d ∈ ds, d.Complete) (drain h stages state).answer := by
  induction stages with
  | nil => exact ⟨hstate, .ok hstate⟩
  | cons s rest ih =>
    obtain ⟨station, state⟩ := state
    obtain ⟨hstation, hstate⟩ := hstate
    obtain ⟨hs, hrest⟩ := List.forall_mem_cons.1 hs
    cases hd : station.drained with
    | true =>
      rw [drain_of_drained hd]
      obtain ⟨hnext, hanswer⟩ := ih hrest hstate
      exact ⟨⟨hstation, hnext⟩, hanswer⟩
    | false =>
      have hheld : ∀ d ∈ station.held h rest.length, d.Complete := Stage.complete_release h _ hstation
      have hemptied : s.Holds (station.emptied h rest.length).memory := Stage.holds_release h _ hstation
      have hfed := feedEach_keeps_of_mem (fun d hd _ h => Complete.feed hrest (hheld d hd) h) hstate
      match ho : (feedEach (Chain.feed rest) (station.held h rest.length) state).answer with
      | .error e =>
        rw [drain_of_error hd ho]
        exact ⟨⟨hemptied, hfed⟩, .error e⟩
      | .ok flow =>
        rw [drain_of_ok hd ho]
        obtain ⟨hnext, hanswer⟩ := ih hrest hfed
        exact ⟨⟨hemptied, hnext⟩, hanswer⟩

end Chain

/-! ## Pipelines -/

namespace Pipeline

/-- All documents in the pipeline are complete, and those of its result. -/
structure Complete (p : Pipeline) : Prop where
  stages : ∀ s ∈ p.stages, s.Tidy
  state : Chain.Complete p.stages p.state
  answer : ∀ out, p.answer = some (.ok out) → ∀ d ∈ out, d.Complete

variable {p : Pipeline} {d : Document}

theorem complete_build {options : Options} {registry : Registry} {spec : Json} (hr : registry.Tidy)
    (hb : build options registry spec = .ok p) : p.Complete := by
  obtain ⟨stages, rfl, offset, hparsed⟩ := parsed_of_build hb
  refine ⟨fun s hs => ?_, Chain.complete_initial stages, nofun⟩
  obtain ⟨j, hj⟩ := hparsed s hs
  have htidy : Yields Stage.Tidy (Stage.parse ⟨registry, offset⟩ options.maxBuckets j) := Stage.tidy_parse hr
  exact htidy s hj

theorem Complete.feed (hp : p.Complete) (hd : d.Complete) : (p.feed d).state.Complete := by
  rcases feed_cases p d with ⟨-, h⟩ | ⟨-, -, h⟩ | ⟨-, -, ⟨e, -, h⟩ | ⟨flow, -, h⟩⟩ <;> rw [h]
  · exact hp
  · exact hp
  · exact ⟨hp.stages, hp.state.feed hp.stages hd, hp.answer⟩
  · exact ⟨hp.stages, hp.state.feed hp.stages hd, hp.answer⟩

theorem Complete.feedJson (hp : p.Complete) (j : Json) : (p.feedJson j).state.Complete := by
  unfold Pipeline.feedJson
  split
  · rename_i hd
    exact hp.feed (Document.complete_ofJson hd)
  · exact hp

theorem complete_copyAnswer {answer : Except Error (List Document)}
    (h : Yields (fun ds => ∀ d ∈ ds, d.Complete) answer) :
    Yields (fun ds => ∀ d ∈ ds, d.Complete) (copyAnswer answer) := by
  cases answer with
  | ok ds => exact h
  | error e => exact .error _

theorem Complete.result (hp : p.Complete) (h : HandOut) :
    (p.result h).state.Complete ∧ Yields (fun ds => ∀ d ∈ ds, d.Complete) (p.result h).answer := by
  unfold Pipeline.result
  split
  · rename_i kept hkept
    exact ⟨hp, complete_copyAnswer fun out hout => hp.answer out (hkept.trans (congrArg some hout))⟩
  · obtain ⟨hstate, hanswer⟩ := hp.state.drain h hp.stages
    refine ⟨⟨hp.stages, hstate, fun out hout => ?_⟩, hanswer⟩
    exact complete_copyAnswer hanswer out (Option.some.inj hout)

theorem Complete.afterAll {calls : List Call} (hp : p.Complete) (hd : ∀ d, .feed d ∈ calls → d.Complete) :
    (p.afterAll calls).Complete := by
  refine afterAll_keeps (P := Complete) (fun call hcall p hp => ?_) hp
  cases call with
  | feed d => exact hp.feed (hd d hcall)
  | feedJson j => exact hp.feedJson j
  | result h => exact (hp.result h).1

/-- **Missing never reaches the output.**  A pipeline is built with functions of the host program that give tidy
values, and used in any way, but only fed complete documents, as those are that JSON objects write.  Then the
documents of its result are complete. -/
theorem complete_result {options : Options} {registry : Registry} {spec : Json} (hr : registry.Tidy)
    (hb : build options registry spec = .ok p) :
    (∀ (calls : List Call) (h : HandOut) out, (∀ d, .feed d ∈ calls → d.Complete) →
      ((p.afterAll calls).result h).answer = .ok out → ∀ d ∈ out, d.Complete) ∧
    ∀ j d, Document.ofJson j = .ok d → d.Complete := by
  refine ⟨fun calls h out hd hout => ?_, fun j d => Document.complete_ofJson⟩
  exact (((complete_build hr hb).afterAll hd).result h).2 out hout

/-- A function of the host program that gives nothing, and a group by a field that no document has. -/
theorem complete_result_gone :
    let registry := Registry.empty.withProjector "gone" fun _ => .ok .missing
    let spec : Json := .array [
      .object [("$project", .object [("a", .object [("$call", .string "gone")]), ("b", .string "$x")])],
      .object [("$group", .object [("_id", .string "$y"), ("all", .object [("$push", .string "$b")]),
        ("first", .object [("$first", .string "$a")])])]]
    let d : Document := ⟨[("x", .string "1")]⟩
    registry.Tidy ∧ d.Complete ∧ ∃ p out, build .default registry spec = .ok p ∧
      ((p.afterAll [.feed d]).result .firstOpened).answer = .ok out ∧
      out = [⟨[("_id", .null), ("all", .array [.string "1"]), ("first", .null)]⟩] ∧
      ∀ d ∈ out, d.Complete := by
  intro registry spec d
  have hr : registry.Tidy := by
    refine ⟨?_, nofun⟩
    rintro f hf d v hv
    obtain rfl := List.mem_singleton.1 hf
    cases hv
    exact .inl rfl
  have hd : d.Complete := by decide
  have hfed : ∀ e, Call.feed e ∈ [Call.feed d] → e.Complete := by
    intro e he
    cases List.mem_singleton.1 he
    exact hd
  let stages : List Stage := [
    .project (.compute [("a", .call ⟨"gone", fun _ => .ok .missing⟩), ("b", .operand (.field ⟨"x", []⟩))]),
    .group ⟨.computed (.operand (.field ⟨"y", []⟩)), [("all", .reduce .push (.operand (.field ⟨"b", []⟩))),
      ("first", .reduce .first (.operand (.field ⟨"a", []⟩)))]⟩ none]
  have hb : build .default registry spec = .ok (start stages) := rfl
  have hout : (((start stages).afterAll [.feed d]).result .firstOpened).answer =
    .ok [⟨[("_id", .null), ("all", .array [.string "1"]), ("first", .null)]⟩] := rfl
  exact ⟨hr, hd, _, _, hb, hout, rfl, (complete_result hr hb).1 _ _ _ hfed hout⟩

end Pipeline

end DocFlow
