import DocFlow.Stage.Basic

/-!
# Chains of stages

The documents that a stage passes on are fed to the stage behind it, and those that the last stage
passes on are the result.  A limit that is met answers so to all stages before it, which then stop
feeding.  Draining goes from the first stage to the last and feeds what a stage has held back; each
stage is drained once.
-/

namespace DocFlow

/-- What feeding a document answers. -/
inductive Flow where
  /-- More documents can be fed. -/
  | more
  /-- A limit is met; no further document makes a difference. -/
  | limit
  deriving DecidableEq, Repr

/-- A stage in a running chain: what it remembers, and whether it has been drained. -/
structure Station (s : Stage) where
  memory : s.Memory
  drained : Bool

namespace Chain

/-- The state of a chain: that of each stage, and the documents that have come to the end. -/
def State : List Stage → Type
  | [] => Array Document
  | s :: rest => Station s × State rest

def initial : (stages : List Stage) → State stages
  | [] => (#[] : Array Document)
  | s :: rest => (⟨s.initial, false⟩, initial rest)

/-- Feeds documents one by one, up to an error or a limit. -/
def feedEach {σ : Type} (step : Document → σ → Outcome σ Flow) : List Document → σ → Outcome σ Flow
  | [], state => .success state .more
  | d :: ds, state =>
    let o := step d state
    match o.answer with
    | .ok .more => feedEach step ds o.state
    | _ => o

def feed : (stages : List Stage) → Document → State stages → Outcome (State stages) Flow
  | [], d, (out : Array Document) => .success (out.push d) .more
  | s :: rest, d, (station, state) =>
    let o := s.push d station.memory
    let station := { station with memory := o.state }
    match o.answer with
    | .error e => .failure (station, state) e
    | .ok .full => .success (station, state) .limit
    | .ok (.pass ds) => (feedEach (feed rest) ds state).within fun state => (station, state)

/-- Drains the stages from the first to the last and returns the documents at the end.  A stage that
has been drained is passed over. -/
def drain (h : HandOut) : (stages : List Stage) → State stages →
    Outcome (State stages) (List Document)
  | [], (out : Array Document) => .success out out.toList
  | s :: rest, (station, state) =>
    if station.drained then (drain h rest state).within fun state => (station, state)
    else
      -- the stage counts as drained also if a later one fails on what it hands out
      let (held, memory) := s.release h rest.length station.memory
      let station : Station s := ⟨memory, true⟩
      let o := feedEach (feed rest) held state
      match o.answer with
      | .error e => .failure (station, o.state) e
      | .ok _ => (drain h rest o.state).within fun state => (station, state)

def parse (ctx : Context) (cap : Option Nat) : List Json → Except Error (List Stage)
  | [] => .ok []
  | j :: js => do
    let s ← Stage.parse ctx cap j
    return s :: (← parse ctx cap js)

end Chain

end DocFlow
