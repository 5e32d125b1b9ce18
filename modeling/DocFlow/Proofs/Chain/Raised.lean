import DocFlow.Proofs.Chain.Basic
import DocFlow.Proofs.Outcome

/-!
# Errors of feeding and draining a chain

Every error of feeding a chain, or of draining it, is one with which some stage has refused a document.  So what is
known of the errors of the single stages, as long as each of them remembers what it should, is known of those of the
chain (`failsOnly_feed_of_all`, `failsOnly_drain_of_all`).
-/

namespace DocFlow.Chain

open DocFlow.Except (FailsOnly)

/-- The errors of feeding a list are those of the step for each document, in states that each step keeps to. -/
theorem failsOnly_feedEach {σ : Type} {P : σ → Prop} {Q : Error → Prop} {step : Document → σ → Outcome σ Flow}
    (hkeeps : ∀ d state, P state → P (step d state).state)
    (hstep : ∀ d state, P state → FailsOnly Q (step d state).answer) (ds : List Document) {state : σ} (h : P state) :
    FailsOnly Q (feedEach step ds state).answer := by
  induction ds generalizing state with
  | nil => exact .ok _
  | cons d ds ih =>
    unfold feedEach
    dsimp only
    split
    · exact ih (hkeeps d state h)
    · exact hstep d state h

/-- What holds of a stage whatever it remembers holds of all stages of a chain. -/
theorem All.of_mem {P : ∀ s : Stage, Station s → Prop} {stages : List Stage}
    (h : ∀ s ∈ stages, ∀ station : Station s, P s station) (state : State stages) : All P stages state := by
  induction stages with
  | nil => trivial
  | cons s rest ih =>
    obtain ⟨hs, hrest⟩ := List.forall_mem_cons.1 h
    exact ⟨hs state.1, ih hrest state.2⟩

section All

variable {P : ∀ s : Stage, Station s → Prop} {Q : Error → Prop} {stages : List Stage} {state : State stages}
  (hfed : ∀ s d (station : Station s), P s station → P s (station.fed d))
  (hpush : ∀ s d (station : Station s), P s station → FailsOnly Q (s.push d station.memory).answer)

include hfed hpush

theorem failsOnly_feed_of_all (d : Document) (h : All P stages state) : FailsOnly Q (feed stages d state).answer := by
  induction stages generalizing d with
  | nil => exact .ok _
  | cons s rest ih =>
    obtain ⟨station, state⟩ := state
    obtain ⟨hs, hrest⟩ := h
    match ho : (s.push d station.memory).answer with
    | .error e =>
      rw [feed_of_error ho]
      exact .error (hpush s d station hs e ho)
    | .ok .full =>
      rw [feed_of_full ho]
      exact .ok _
    | .ok (.pass ds) =>
      rw [feed_of_pass ho]
      have hkeeps : ∀ d state, All P rest state → All P rest (feed rest d state).state := fun _ _ h => h.feed hfed
      exact failsOnly_feedEach hkeeps (fun d _ h => ih d h) ds hrest

theorem failsOnly_drain_of_all (order : HandOut) (h : All P stages state) :
    FailsOnly Q (drain order stages state).answer := by
  induction stages with
  | nil => exact .ok _
  | cons s rest ih =>
    obtain ⟨station, state⟩ := state
    obtain ⟨-, hrest⟩ := h
    by_cases hd : station.drained = true
    · rw [drain_of_drained hd]
      exact ih hrest
    · have hd : station.drained = false := Bool.eq_false_iff.2 hd
      have hkeeps : ∀ d state, All P rest state → All P rest (feed rest d state).state := fun _ _ h => h.feed hfed
      match ho : (feedEach (feed rest) (station.held order rest.length) state).answer with
      | .error e =>
        rw [drain_of_error hd ho]
        exact .error (failsOnly_feedEach hkeeps (fun d _ h => failsOnly_feed_of_all hfed hpush d h) _ hrest e ho)
      | .ok flow =>
        rw [drain_of_ok hd ho]
        exact ih (feedEach_keeps hkeeps hrest)

end All

end DocFlow.Chain
