import DocFlow.Proofs.Chain.Basic
import DocFlow.Proofs.Stage.Push

/-!
# Behind a limit that is met

Once feeding a document answers that a limit is met, no further document makes a difference to what
draining the chain answers (`answer_drain_feedOn`), not even one on which a stage fails.  Between the first
stage and the limit that answers no stage holds documents back, so all that further documents reach is
of no use to a drain (`AlikeBehindLimit`), and the limit itself takes in nothing more.
-/

namespace DocFlow.Chain

/-- Two states of a chain are the same behind a limit that is met in the second, and no stage before it
holds documents back. -/
def AlikeBehindLimit : (stages : List Stage) → State stages → State stages → Prop
  | [], _, _ => False
  | s :: rest, (_, x), (station, y) =>
    (s.Met station.memory ∧ x = y) ∨ (¬ s.HoldsBack ∧ AlikeBehindLimit rest x y)

/-- Feeds documents one by one, whatever the answers. -/
def feedOn (stages : List Stage) (ds : List Document) (state : State stages) : State stages :=
  ds.foldl (fun state d => (feed stages d state).state) state

variable {stages : List Stage} {x y : State stages}

/-! ## The limit that answers -/

/-- If feeding a list answers that a limit is met, the last document that was fed was answered so. -/
theorem exists_feed_of_feedEach_limit {σ : Type} {step : Document → σ → Outcome σ Flow}
    {ds : List Document} {state : σ} (h : (feedEach step ds state).answer = .ok .limit) :
    ∃ d before, feedEach step ds state = step d before := by
  induction ds generalizing state with
  | nil => cases h
  | cons d ds ih =>
    match ho : (step d state).answer with
    | .error e => exact ⟨d, state, feedEach_cons_of_error ho⟩
    | .ok .limit => exact ⟨d, state, feedEach_cons_of_limit ho⟩
    | .ok .more =>
      rw [feedEach_cons_of_more ho] at h ⊢
      exact ih h

theorem alikeBehindLimit_of_feed_limit {d : Document} (h : (feed stages d x).answer = .ok .limit) :
    AlikeBehindLimit stages (feed stages d x).state (feed stages d x).state := by
  induction stages generalizing d with
  | nil => cases h
  | cons s rest ih =>
    obtain ⟨station, x⟩ := x
    match ho : (s.push d station.memory).answer with
    | .error e =>
      rw [feed_of_error ho] at h
      cases h
    | .ok .full =>
      -- this stage is the limit, and its count stays as it is
      rw [feed_of_full ho]
      have hm := Stage.met_of_push_full ho
      refine .inl ⟨?_, rfl⟩
      rw [Station.fed, Stage.push_of_met hm]
      exact hm
    | .ok (.pass ds) =>
      -- the limit is behind this stage, which has passed something on and so holds nothing back
      rw [feed_of_pass ho] at h ⊢
      have hrest : (feedEach (feed rest) ds x).answer = .ok .limit := h
      refine .inr ⟨fun hs => ?_, ?_⟩
      · obtain rfl := Stage.eq_nil_of_push_pass hs ho
        cases hrest
      · obtain ⟨e, before, he⟩ := exists_feed_of_feedEach_limit hrest
        show AlikeBehindLimit rest (feedEach (feed rest) ds x).state (feedEach (feed rest) ds x).state
        rw [he] at hrest ⊢
        exact ih hrest

/-! ## Feeding on -/

theorem AlikeBehindLimit.feed {d : Document} (h : AlikeBehindLimit stages x y) :
    AlikeBehindLimit stages x (feed stages d y).state := by
  induction stages generalizing d with
  | nil => cases h
  | cons s rest ih =>
    obtain ⟨station, x⟩ := x
    obtain ⟨station', y⟩ := y
    rcases h with ⟨hm, rfl⟩ | ⟨hs, h⟩
    · have hpush := Stage.push_of_met (d := d) hm
      rw [feed_of_full (by rw [hpush]; rfl)]
      refine .inl ⟨?_, rfl⟩
      rw [Station.fed, hpush]
      exact hm
    · match ho : (s.push d station'.memory).answer with
      | .error e =>
        rw [feed_of_error ho]
        exact .inr ⟨hs, h⟩
      | .ok .full =>
        rw [feed_of_full ho]
        exact .inr ⟨hs, h⟩
      | .ok (.pass ds) =>
        rw [feed_of_pass ho]
        exact .inr ⟨hs, feedEach_keeps (P := AlikeBehindLimit rest x) (fun _ _ h => ih h) h⟩

theorem AlikeBehindLimit.feedOn {ds : List Document} (h : AlikeBehindLimit stages x y) :
    AlikeBehindLimit stages x (feedOn stages ds y) := by
  induction ds generalizing y with
  | nil => exact h
  | cons d ds ih => exact ih h.feed

/-! ## Draining -/

/-- A stage that holds nothing back has no part in draining the chain. -/
theorem answer_drain_of_not_holdsBack {s : Stage} {rest : List Stage} (hs : ¬ s.HoldsBack) (h : HandOut)
    (station : Station s) (state : State rest) :
    (drain h (s :: rest) (station, state)).answer = (drain h rest state).answer := by
  cases hd : station.drained with
  | true =>
    rw [drain_of_drained hd]
    rfl
  | false =>
    have hheld : station.held h rest.length = [] := Stage.release_of_not_holdsBack hs h _
    have hmore : (feedEach (feed rest) (station.held h rest.length) state).answer = .ok .more := by
      rw [hheld]
      rfl
    rw [drain_of_ok hd hmore, hheld]
    rfl

theorem AlikeBehindLimit.answer_drain (h : HandOut) (hxy : AlikeBehindLimit stages x y) :
    (drain h stages x).answer = (drain h stages y).answer := by
  induction stages with
  | nil => cases hxy
  | cons s rest ih =>
    obtain ⟨station, x⟩ := x
    obtain ⟨station', y⟩ := y
    rcases hxy with ⟨hm, rfl⟩ | ⟨hs, hxy⟩
    · rw [answer_drain_of_not_holdsBack hm.not_holdsBack, answer_drain_of_not_holdsBack hm.not_holdsBack]
    · rw [answer_drain_of_not_holdsBack hs, answer_drain_of_not_holdsBack hs]
      exact ih hxy

/-- **Early termination loses nothing.**  In any state of a chain in which feeding a document answers
that a limit is met, draining answers the same, whatever documents are fed in between and whatever
they are answered. -/
theorem answer_drain_feedOn {state : State stages} {d : Document}
    (hlimit : (feed stages d state).answer = .ok .limit) (h : HandOut) (ds : List Document) :
    (drain h stages (feedOn stages ds (feed stages d state).state)).answer =
      (drain h stages (feed stages d state).state).answer := by
  have halike := alikeBehindLimit_of_feed_limit hlimit
  exact (halike.feedOn.answer_drain h).symm

/-- A limit behind an unwinding that is cut off: neither a document that cannot be unwound nor one that
would come first makes a difference to the sort behind the limit. -/
theorem answer_drain_feedOn_unwind :
    let stages : List Stage := [.unwind ⟨"n", []⟩, .limit 2, .sort [⟨⟨"n", []⟩, false⟩]]
    let met := feed stages ⟨[("n", .array [.string "c", .string "b", .string "d"])]⟩ (initial stages)
    met.answer = .ok .limit ∧
      (drain .firstOpened stages (feedOn stages
        [⟨[("n", .string "x")]⟩, ⟨[("n", .array [.string "a"])]⟩] met.state)).answer =
        .ok [⟨[("n", .string "b")]⟩, ⟨[("n", .string "c")]⟩] := by
  have hlimit : (feed [.unwind ⟨"n", []⟩, .limit 2, .sort [⟨⟨"n", []⟩, false⟩]]
      ⟨[("n", .array [.string "c", .string "b", .string "d"])]⟩ (initial _)).answer = .ok .limit := rfl
  exact ⟨hlimit, (answer_drain_feedOn hlimit .firstOpened _).trans rfl⟩

end DocFlow.Chain
