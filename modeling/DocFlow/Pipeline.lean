import DocFlow.Chain
import DocFlow.Document.Json
import DocFlow.Options

/-!
# Pipelines

A pipeline is a chain of stages with a life of its own: documents are fed to it until a limit is met
or its result is asked for.  The result is made once and kept, also if it is an error; after it no
document is taken in.
-/

namespace DocFlow

/-- A pipeline and how far it has come. -/
structure Pipeline where
  stages : List Stage
  state : Chain.State stages
  /-- A limit has been met. -/
  limitReached : Bool
  /-- The result, once it has been made. -/
  answer : Option (Except Error (List Document))

def copyAnswer {α : Type} : Except Error α → Except Error α
  | .ok a => .ok a
  | .error e => .error e.copy

namespace Pipeline

/-! ## Building -/

def start (stages : List Stage) : Pipeline := ⟨stages, Chain.initial stages, false, none⟩

/-- The pipeline of a specification, with the functions of the host program. -/
def build (options : Options) (registry : Registry) (spec : Json) : Except Error Pipeline := do
  options.validate
  match spec with
  | .array [] => throw (.invalidPipeline .emptyPipeline)
  | .array stages =>
    let offset ← options.offset
    return start (← Chain.parse ⟨registry, offset⟩ options.maxBuckets stages)
  | _ => throw (.invalidPipeline .pipelineNotArray)

def stageNames (p : Pipeline) : List String := p.stages.map fun s => s.name.text

/-! ## Running -/

/-- Feeds a document.  Once a limit is met, further documents are left out. -/
def feed (p : Pipeline) (d : Document) : Outcome Pipeline Flow :=
  if p.answer.isSome then .failure p .finished
  else if p.limitReached then .success p .limit
  else
    let o := Chain.feed p.stages d p.state
    match o.answer with
    | .error e => .failure { p with state := o.state } e
    | .ok flow => .success { p with state := o.state, limitReached := flow = .limit } flow

def feedJson (p : Pipeline) (j : Json) : Outcome Pipeline Flow :=
  match Document.ofJson j with
  | .ok d => p.feed d
  | .error e => .failure p e

/-- The result: the documents at the end of the chain once it is drained. -/
def result (p : Pipeline) (h : HandOut) : Outcome Pipeline (List Document) :=
  match p.answer with
  | some kept => ⟨p, copyAnswer kept⟩
  | none =>
    let o := Chain.drain h p.stages p.state
    -- the first answer is handed out as it is, and a copy of it is kept for later calls
    ⟨{ p with state := o.state, answer := some (copyAnswer o.answer) }, o.answer⟩

/-- Feeds items one by one, each in the given way, up to an error or a limit. -/
def feedEach {α : Type} (step : Pipeline → α → Outcome Pipeline Flow) (p : Pipeline) :
    List α → Outcome Pipeline Unit
  | [] => .success p ()
  | x :: xs =>
    let o := step p x
    match o.answer with
    | .error e => .failure o.state e
    | .ok .limit => .success o.state ()
    | .ok .more => feedEach step o.state xs

def feedAll (p : Pipeline) (ds : List Document) : Outcome Pipeline Unit := p.feedEach feed ds

/-- Feeds documents up to a limit and returns the result. -/
def run (p : Pipeline) (h : HandOut) (ds : List Document) : Outcome Pipeline (List Document) :=
  let o := p.feedAll ds
  match o.answer with
  | .error e => .failure o.state e
  | .ok _ => o.state.result h

/-- The result of a specification over JSON objects, with no options and no functions. -/
def evaluate (h : HandOut) (spec : Json) (docs : List Json) : Except Error (List Document) := do
  let p ← build .default .empty spec
  let o := p.feedEach feedJson docs
  o.answer
  (o.state.result h).answer

end Pipeline

end DocFlow
