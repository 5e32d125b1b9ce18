import DocFlow.Chain

/-!
# Feeding and draining a chain

What feeding a document does, by the answer of the first stage, and what draining does, by whether the
first stage has been drained and how the documents it hands out are taken in.  A property of the
single stages that taking in a document keeps holds of all stages of a chain after feeding
(`All.feed`).
-/

namespace DocFlow

namespace Station

variable {s : Stage}

def fed (d : Document) (station : Station s) : Station s :=
  { station with memory := (s.push d station.memory).state }

/-- The documents that a stage hands out when it is drained. -/
def held (h : HandOut) (behind : Nat) (station : Station s) : List Document :=
  (s.release h behind station.memory).1

/-- A stage after it has been drained. -/
def emptied (h : HandOut) (behind : Nat) (station : Station s) : Station s :=
  ⟨(s.release h behind station.memory).2, true⟩

end Station

namespace Chain

def front {s : Stage} {rest : List Stage} : State (s :: rest) → Station s
  | (station, _) => station

/-! ## Feeding a list -/

section FeedEach

variable {σ : Type} {step : Document → σ → Outcome σ Flow} {d : Document} {ds : List Document} {state : σ}

theorem feedEach_cons_of_more (h : (step d state).answer = .ok .more) :
    feedEach step (d :: ds) state = feedEach step ds (step d state).state := by
  simp only [feedEach, h]

theorem feedEach_cons_of_limit (h : (step d state).answer = .ok .limit) :
    feedEach step (d :: ds) state = step d state := by
  simp only [feedEach, h]

theorem feedEach_cons_of_error {e : Error} (h : (step d state).answer = .error e) :
    feedEach step (d :: ds) state = step d state := by
  simp only [feedEach, h]

theorem feedEach_cons_of_success {next : σ} (h : step d state = .success next .more) :
    feedEach step (d :: ds) state = feedEach step ds next := by
  simp only [feedEach, h, Outcome.success]

/-- What the step for each document of a list keeps, feeding the list keeps. -/
theorem feedEach_keeps_of_mem {P : σ → Prop} (hstep : ∀ d ∈ ds, ∀ state, P state → P (step d state).state)
    (h : P state) : P (feedEach step ds state).state := by
  induction ds generalizing state with
  | nil => exact h
  | cons d ds ih =>
    obtain ⟨hd, hds⟩ := List.forall_mem_cons.1 hstep
    have hd := hd state h
    simp only [feedEach]
    split
    · exact ih hds hd
    · exact hd

/-- What each step keeps, feeding a list keeps. -/
theorem feedEach_keeps {P : σ → Prop} (hstep : ∀ d state, P state → P (step d state).state)
    (h : P state) : P (feedEach step ds state).state :=
  feedEach_keeps_of_mem (fun d _ => hstep d) h

end FeedEach

/-! ## Feeding one document -/

section Feed

variable {s : Stage} {rest : List Stage} {station : Station s} {state : State rest} {d : Document}

theorem feed_of_error {e : Error} (h : (s.push d station.memory).answer = .error e) :
    feed (s :: rest) d (station, state) = .failure (station.fed d, state) e := by
  simp only [feed, h]
  rfl

theorem feed_of_full (h : (s.push d station.memory).answer = .ok .full) :
    feed (s :: rest) d (station, state) = .success (station.fed d, state) .limit := by
  simp only [feed, h]
  rfl

theorem feed_of_pass {ds : List Document} (h : (s.push d station.memory).answer = .ok (.pass ds)) :
    feed (s :: rest) d (station, state) =
      (feedEach (feed rest) ds state).within fun state => (station.fed d, state) := by
  simp only [feed, h]
  rfl

end Feed

/-! ## Draining -/

section Drain

variable {h : HandOut} {s : Stage} {rest : List Stage} {station : Station s} {state : State rest}

theorem drain_of_drained (hd : station.drained = true) :
    drain h (s :: rest) (station, state) = (drain h rest state).within fun state => (station, state) := by
  simp only [drain, hd, if_true]
  rfl

theorem drain_of_error {e : Error} (hd : station.drained = false)
    (he : (feedEach (feed rest) (station.held h rest.length) state).answer = .error e) :
    drain h (s :: rest) (station, state) =
      .failure (station.emptied h rest.length,
        (feedEach (feed rest) (station.held h rest.length) state).state) e := by
  simp only [Station.held] at he
  simp only [drain, hd, Bool.false_eq_true, if_false, he]
  rfl

theorem drain_of_ok {flow : Flow} (hd : station.drained = false)
    (hf : (feedEach (feed rest) (station.held h rest.length) state).answer = .ok flow) :
    drain h (s :: rest) (station, state) =
      (drain h rest (feedEach (feed rest) (station.held h rest.length) state).state).within fun state =>
        (station.emptied h rest.length, state) := by
  simp only [Station.held] at hf
  simp only [drain, hd, Bool.false_eq_true, if_false, hf]
  rfl

/-- A stage that is drained has nothing left to hand out. -/
theorem front_drain (hd : station.drained = false) :
    front (drain h (s :: rest) (station, state)).state = station.emptied h rest.length := by
  match ho : (feedEach (feed rest) (station.held h rest.length) state).answer with
  | .error e => exact congrArg (fun o => front o.state) (drain_of_error hd ho)
  | .ok flow => exact congrArg (fun o => front o.state) (drain_of_ok hd ho)

end Drain

/-! ## Properties of the single stages -/

/-- A property holds of every stage of a chain. -/
def All (P : ∀ s : Stage, Station s → Prop) : (stages : List Stage) → State stages → Prop
  | [], _ => True
  | s :: rest, (station, state) => P s station ∧ All P rest state

theorem All.feed {P : ∀ s : Stage, Station s → Prop}
    (hpush : ∀ s d (station : Station s), P s station → P s (station.fed d))
    {stages : List Stage} {state : State stages} {d : Document} (h : All P stages state) :
    All P stages (feed stages d state).state := by
  induction stages generalizing d with
  | nil => trivial
  | cons s rest ih =>
    obtain ⟨station, state⟩ := state
    obtain ⟨hs, hrest⟩ := h
    have hs := hpush s d station hs
    match ho : (s.push d station.memory).answer with
    | .error e =>
      rw [feed_of_error ho]
      exact ⟨hs, hrest⟩
    | .ok .full =>
      rw [feed_of_full ho]
      exact ⟨hs, hrest⟩
    | .ok (.pass ds) =>
      rw [feed_of_pass ho]
      exact ⟨hs, feedEach_keeps (fun _ _ h => ih h) hrest⟩

theorem all_initial {P : ∀ s : Stage, Station s → Prop} {stages : List Stage}
    (h : ∀ s ∈ stages, P s ⟨s.initial, false⟩) : All P stages (initial stages) := by
  induction stages with
  | nil => trivial
  | cons s rest ih =>
    obtain ⟨hs, hrest⟩ := List.forall_mem_cons.1 h
    exact ⟨hs, ih hrest⟩

/-- No stage of a chain has been drained. -/
def Undrained (stages : List Stage) (state : State stages) : Prop :=
  All (fun _ station => station.drained = false) stages state

theorem undrained_initial (stages : List Stage) : Undrained stages (initial stages) := all_initial fun _ _ => rfl

theorem Undrained.feed {stages : List Stage} {state : State stages} {d : Document}
    (h : Undrained stages state) : Undrained stages (feed stages d state).state :=
  All.feed (fun _ _ _ h => h) h

end Chain

end DocFlow
