import DocFlow.Proofs.Chain.Basic
import Mathlib.Logic.Relation

/-!
# The states that a chain goes through

While a chain is fed and drained, one thing happens after the other: a stage takes a document in, a stage hands out what
it has held back, a document comes to the end (`Moves`).  A state is reachable if such moves lead to it, in any order and
with any documents; so the states in the middle of feeding or draining are among the reachable ones, also where the first
stages have handed out their documents and those behind have not taken in all of them.

Feeding and draining consist of moves (`reaches_feed`, `reaches_drain`), and what every move keeps of the single stages
holds in every reachable state (`All.of_reaches`).
-/

namespace DocFlow.Chain

/-- One thing that happens in a chain. -/
inductive Moves : (stages : List Stage) → State stages → State stages → Prop
  /-- A document comes to the end. -/
  | arrive (d : Document) (out : Array Document) : Moves [] out (out.push d)
  /-- The first stage takes a document in, whether it fails or not. -/
  | takeIn {s : Stage} {rest : List Stage} (d : Document) (station : Station s) (state : State rest) :
    Moves (s :: rest) (station, state) (station.fed d, state)
  /-- The first stage is drained. -/
  | handOut {s : Stage} {rest : List Stage} (h : HandOut) (station : Station s) (state : State rest) :
    Moves (s :: rest) (station, state) (station.emptied h rest.length, state)
  /-- Something happens behind the first stage. -/
  | behind {s : Stage} {rest : List Stage} {station : Station s} {state state' : State rest}
    (h : Moves rest state state') : Moves (s :: rest) (station, state) (station, state')

/-- Moves lead from one state to another. -/
abbrev Reaches (stages : List Stage) : State stages → State stages → Prop := Relation.ReflTransGen (Moves stages)

/-- Moves lead to the state from that of a chain before any document. -/
def Reachable (stages : List Stage) (state : State stages) : Prop := Reaches stages (initial stages) state

/-! ## Feeding and draining -/

section Reaches

variable {s : Stage} {rest : List Stage} {station station' : Station s} {state state' : State rest}

theorem Reaches.behind (h : Reaches rest state state') : Reaches (s :: rest) (station, state) (station, state') :=
  h.lift (fun state => (station, state)) fun _ _ => .behind

/-- A move of the first stage, and then moves behind it. -/
theorem Reaches.cons (h : Moves (s :: rest) (station, state) (station', state)) (hrest : Reaches rest state state') :
    Reaches (s :: rest) (station, state) (station', state') :=
  Relation.ReflTransGen.head h hrest.behind

theorem reaches_feed (stages : List Stage) (d : Document) (state : State stages) :
    Reaches stages state (feed stages d state).state := by
  induction stages generalizing d with
  | nil => exact .single (.arrive d state)
  | cons s rest ih =>
    obtain ⟨station, state⟩ := state
    match ho : (s.push d station.memory).answer with
    | .error e =>
      rw [feed_of_error ho]
      exact .single (.takeIn d station state)
    | .ok .full =>
      rw [feed_of_full ho]
      exact .single (.takeIn d station state)
    | .ok (.pass ds) =>
      rw [feed_of_pass ho]
      exact .cons (.takeIn d station state)
        (feedEach_keeps (P := Reaches rest state) (fun d next h => h.trans (ih d next)) .refl)

theorem reaches_feedEach (stages : List Stage) (ds : List Document) (state : State stages) :
    Reaches stages state (feedEach (feed stages) ds state).state :=
  feedEach_keeps (P := Reaches stages state) (fun d next h => h.trans (reaches_feed stages d next)) .refl

theorem reaches_drain (h : HandOut) (stages : List Stage) (state : State stages) :
    Reaches stages state (drain h stages state).state := by
  induction stages with
  | nil => exact .refl
  | cons s rest ih =>
    obtain ⟨station, state⟩ := state
    cases hd : station.drained with
    | true =>
      rw [drain_of_drained hd]
      exact (ih state).behind
    | false =>
      have hfed := reaches_feedEach rest (station.held h rest.length) state
      match ho : (feedEach (feed rest) (station.held h rest.length) state).answer with
      | .error e =>
        rw [drain_of_error hd ho]
        exact .cons (.handOut h station state) hfed
      | .ok flow =>
        rw [drain_of_ok hd ho]
        exact .cons (.handOut h station state) (hfed.trans (ih _))

end Reaches

/-! ## What every move keeps -/

section All

variable {P : ∀ s : Stage, Station s → Prop} {stages : List Stage} {state state' : State stages}

theorem All.of_moves (hfed : ∀ s d (station : Station s), P s station → P s (station.fed d))
    (hemptied : ∀ s h behind (station : Station s), P s station → P s (station.emptied h behind))
    (hmove : Moves stages state state') (h : All P stages state) : All P stages state' := by
  induction hmove with
  | arrive d out => trivial
  | takeIn d station state => exact ⟨hfed _ d station h.1, h.2⟩
  | handOut order station state => exact ⟨hemptied _ order _ station h.1, h.2⟩
  | behind hmove ih => exact ⟨h.1, ih h.2⟩

/-- What every move keeps of the single stages, a run of moves keeps. -/
theorem All.of_reaches (hfed : ∀ s d (station : Station s), P s station → P s (station.fed d))
    (hemptied : ∀ s h behind (station : Station s), P s station → P s (station.emptied h behind))
    (hreach : Reaches stages state state') (h : All P stages state) : All P stages state' := by
  induction hreach with
  | refl => exact h
  | tail _ hmove ih => exact ih.of_moves hfed hemptied hmove

end All

end DocFlow.Chain
