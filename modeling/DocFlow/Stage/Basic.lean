import DocFlow.Group.Basic
import DocFlow.Query.Parser
import DocFlow.Stage.Projection
import DocFlow.Stage.Sort

/-!
# Stages

A stage takes documents in and passes documents on.  What it remembers between documents depends on
the stage: the buckets of a group, the documents of a sort, the count of a skip or limit.  A group
and a sort pass nothing on until they are drained.
-/

namespace DocFlow

inductive Stage where
  | filter (q : Query)
  | project (p : Projection)
  | group (g : Grouping) (cap : Option Nat)
  | sort (keys : List SortKey)
  | skip (count : Nat)
  | limit (count : Nat)
  | unwind (path : Path)

namespace Stage

def name : Stage → StageName
  | filter _ => .filter
  | project _ => .project
  | group _ _ => .group
  | sort _ => .sort
  | skip _ => .skip
  | limit _ => .limit
  | unwind _ => .unwind

/-! ## Reading -/

def parseCount (name : StageName) (j : Json) : Except Error Nat :=
  match j.toNat? with
  | some n => .ok n
  | none => .error (.invalidStage name.text (.notCount name))

/-- The path of an array: a field reference, or an object with one as `path`. -/
def parseUnwindPath (j : Json) : Except Error Path :=
  let target :=
    match j with
    | .object members => Entries.get? "path" members
    | j => some j
  match target.bind Json.reference? with
  | some path => .ok (.ofString path)
  | none => .error (.invalidStage "$unwind" .notFieldReference)

def parseNamed (ctx : Context) (cap : Option Nat) (name : String) (j : Json) : Except Error Stage :=
  match name with
  | "$match" => do return .filter (← Query.parse ctx j)
  | "$project" => do return .project (← Projection.parse ctx j)
  | "$group" => do return .group (← Grouping.parse ctx j) cap
  | "$sort" => do return .sort (← SortKey.parse j)
  | "$skip" => do return .skip (← parseCount .skip j)
  | "$limit" => do return .limit (← parseCount .limit j)
  | "$unwind" => do return .unwind (← parseUnwindPath j)
  | name => .error (.invalidStage name .unknownStage)

/-- A stage from its specification, an object with one member; `cap` bounds the buckets of a
group. -/
def parse (ctx : Context) (cap : Option Nat) : Json → Except Error Stage
  | .object [(name, j)] => parseNamed ctx cap name j
  | .object _ => .error (.invalidPipeline .stageNotSingle)
  | _ => .error (.invalidPipeline .stageNotObject)

/-! ## Memory -/

/-- What a stage remembers between documents. -/
def Memory : Stage → Type
  | group _ _ => Buckets
  | sort _ => List Document
  | skip _ => Nat
  | limit _ => Nat
  | _ => Unit

def initial : (s : Stage) → s.Memory
  | filter _ => ()
  | project _ => ()
  | group _ _ => ([] : Buckets)
  | sort _ => ([] : List Document)
  | skip _ => (0 : Nat)
  | limit _ => (0 : Nat)
  | unwind _ => ()

/-- What a stage does with a document. -/
inductive Output where
  /-- Documents are passed on. -/
  | pass (ds : List Document)
  /-- The count of a limit is met. -/
  | full

/-- The copies of a document in which the array at a path is replaced by each of its items. -/
def unwound (path : Path) (d : Document) : Except Error (List Document) :=
  match d.get path with
  | .missing => .ok []
  | .array items => .ok (items.map fun item => d.set path item)
  | v => .error (Scope.evaluation ⟨.unwind, path.text⟩ "$unwind" (.notUnwindable v.kind))

def push (d : Document) : (s : Stage) → s.Memory → Outcome s.Memory Output
  | filter q, m => ⟨m, do return .pass (if ← q.accepts d then [d] else [])⟩
  | project p, m => ⟨m, do return .pass [← p.apply d]⟩
  | group g cap, bs =>
    let o := Buckets.add g cap d bs
    ⟨o.state, do let _ ← o.answer; return .pass []⟩
  | sort keys, ds => .success (insertSorted keys d ds) (.pass [])
  | skip count, (seen : Nat) =>
    if seen < count then .success (seen + 1 : Nat) (.pass []) else .success seen (.pass [d])
  | limit count, (passed : Nat) =>
    if passed < count then .success (passed + 1 : Nat) (.pass [d]) else .success passed .full
  | unwind path, m => ⟨m, do return .pass (← unwound path d)⟩

/-- The documents that a stage with so many stages behind it has held back, in the order in which it
hands them out, and what it remembers without them. -/
def release (h : HandOut) (behind : Nat) : (s : Stage) → s.Memory → List Document × s.Memory
  | group g _, bs => ((h.order behind bs).values.map g.finish, ([] : Buckets))
  | sort _, ds => (ds, ([] : List Document))
  | filter _, m => ([], m)
  | project _, m => ([], m)
  | skip _, m => ([], m)
  | limit _, m => ([], m)
  | unwind _, m => ([], m)

end Stage

end DocFlow
