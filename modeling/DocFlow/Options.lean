import DocFlow.Error

/-!
# Options

What applies to every stage of a pipeline: the offset at which wall-clock times are read and dates
are taken apart, and a cap on the buckets of a group.
-/

namespace DocFlow

-- Powers are those of core, also where a library brings others; for that a literal exponent has its type written out.
attribute [local instance (high)] instPowNat

structure Options where
  /-- The offset from UTC in seconds. -/
  utcOffsetSeconds : Int
  /-- The greatest count of buckets of a group, if there is a cap. -/
  maxBuckets : Option Nat
  deriving DecidableEq, Repr

namespace Options

/-- UTC, and no cap. -/
def default : Options := ⟨0, none⟩

def offset (o : Options) : Except Error Calendar.Offset :=
  match Calendar.Offset.ofSeconds? o.utcOffsetSeconds with
  | some offset => pure offset
  | none => throw (.invalidPipeline (.offsetOutOfRange o.utcOffsetSeconds))

/-- The offset is less than a day and the cap is not zero. -/
def validate (o : Options) : Except Error Unit := do
  let _ ← o.offset
  if o.maxBuckets = some 0 then throw (.invalidPipeline .bucketCapZero)

/-! ## Options as JSON -/

def unreadable {α : Type} (reason : String) : Except Error α := throw (.serialization reason)

/-- An offset: an integer of 32 bits. -/
def readOffset (j : Json) : Except Error Int :=
  match j.toInt? with
  | some n => if -2 ^ (31 : Nat) ≤ n ∧ n < 2 ^ (31 : Nat) then pure n else unreadable "integer out of range"
  | none => unreadable "expected an integer"

/-- A cap: a natural number, or `null` for none. -/
def readCap (j : Json) : Except Error (Option Nat) :=
  match j with
  | .null => pure none
  | j =>
    match j.toNat? with
    | some n => pure (some n)
    | none => unreadable "expected a natural number"

def readMember (o : Options) (member : String × Json) : Except Error Options :=
  if member.1 = "utc_offset_seconds" then do
    let n ← readOffset member.2
    pure { o with utcOffsetSeconds := n }
  else if member.1 = "max_group_buckets" then do
    let cap ← readCap member.2
    pure { o with maxBuckets := cap }
  else unreadable "unknown field"

/-- Options by name in an object, or by place in an array; what is absent has its default. -/
def read : Json → Except Error Options
  | .object members => members.foldlM readMember default
  | .array [] => pure default
  | .array [offset] => do
    let n ← readOffset offset
    pure { default with utcOffsetSeconds := n }
  | .array [offset, cap] => do
    let n ← readOffset offset
    let cap ← readCap cap
    pure ⟨n, cap⟩
  | _ => unreadable "expected options"

def ofJson (j : Json) : Except Error Options := do
  let o ← read j
  o.validate
  pure o

end Options

end DocFlow
