import DocFlow.Group.Accumulator
import DocFlow.Group.Key

/-!
# Groups

Documents are put into buckets by their key.  Each bucket keeps the key of its first document and
what the accumulators have gathered, and becomes one document at the end.
-/

namespace DocFlow

/-- How documents are grouped: by a key, and with accumulators for the fields of the result. -/
structure Grouping where
  key : GroupKey
  fields : List (String × Accumulator)

/-- The documents of one key: the key, and what the accumulators have gathered. -/
structure Bucket where
  id : Value
  parts : List Accumulation
  deriving Inhabited

namespace Grouping

def scopeOf (key : String) : Scope := ⟨.group, key⟩

/-- A grouping from its specification, in which `_id` is the key and every other member an accumulator. -/
def parse (ctx : Context) : Json → Except Error Grouping
  | .object members =>
    match Entries.get? "_id" members with
    | none => .error (.invalidStage "$group" .groupWithoutId)
    | some id => do
      let key ← GroupKey.parse (scopeOf "_id") ctx id
      return ⟨key, ← Accumulator.parseMembers scopeOf ctx (Entries.erase "_id" members)⟩
  | _ => .error (.invalidStage "$group" .groupNotObject)

def keyOf (g : Grouping) (d : Document) : Except Error Value := g.key.eval d (scopeOf "_id")

def initial (g : Grouping) : List Accumulation := Accumulator.initialParts g.fields

def step (g : Grouping) (d : Document) (parts : List Accumulation) :
    Outcome (List Accumulation) Unit := Accumulator.stepAll d scopeOf g.fields parts

/-- The document that a bucket becomes: the key, then the fields in order. -/
def finish (g : Grouping) (b : Bucket) : Document :=
  ⟨Accumulator.finishParts [("_id", b.id)] g.fields b.parts⟩

end Grouping

/-- The buckets of a group by their canonical keys, in the order in which they were opened. -/
abbrev Buckets := Entries Bucket

namespace Buckets

/-- There is no room for another bucket. -/
def isFull (cap : Option Nat) (bs : Buckets) : Bool := cap.any fun cap => cap ≤ bs.length

def overflow (cap : Option Nat) : Error :=
  (Grouping.scopeOf "_id").evaluation "$group" (.tooManyBuckets (cap.getD 0))

/-- The buckets with a document taken into the one under `key`. -/
def addTo (g : Grouping) (d : Document) (key : String) (b : Bucket) (bs : Buckets) :
    Outcome Buckets Unit :=
  (g.step d b.parts).within fun parts => Entries.put key { b with parts := parts } bs

/-- The buckets with a document taken in; one with a new key opens a bucket. -/
def add (g : Grouping) (cap : Option Nat) (d : Document) (bs : Buckets) : Outcome Buckets Unit :=
  match g.keyOf d with
  | .error e => .failure bs e
  | .ok id =>
    match Entries.get? id.key bs with
    | some b => addTo g d id.key b bs
    | none =>
      if isFull cap bs then .failure bs (overflow cap)
      else addTo g d id.key ⟨id, g.initial⟩ bs

end Buckets

/-- The order in which a group with so many stages behind it hands out its buckets: any order, as long
as each bucket is handed out once. -/
structure HandOut where
  order : Nat → Buckets → Buckets
  perm : ∀ behind bs, (order behind bs).Perm bs

def HandOut.firstOpened : HandOut := ⟨fun _ bs => bs, fun _ bs => .refl bs⟩

end DocFlow
