import DocFlow.Error
import DocFlow.Value.Order

/-!
# Sorting

Documents are compared by the values at paths, each rising or falling.  A sorted list takes in one
document at a time: it is put behind all that do not come after it, so that documents with equal
values stay in the order in which they came.
-/

namespace DocFlow

/-- A path to sort by, and whether its values fall. -/
structure SortKey where
  path : Path
  falling : Bool
  deriving DecidableEq, Repr

namespace SortKey

def fault (f : StageFault) : Error := .invalidStage "$sort" f

/-! ## Reading -/

/-- A direction: one rises, minus one falls. -/
def parseDirection (j : Json) : Except Error Bool :=
  match j.toInt? with
  | some 1 => .ok false
  | some (-1) => .ok true
  | _ => .error (fault (.badDirection j))

/-- The keys of a list of pairs of a path and a direction. -/
def parsePairs : List Json → Except Error (List SortKey)
  | [] => .ok []
  | .array [.string path, direction] :: rest => do
    let falling ← parseDirection direction
    return ⟨.ofString path, falling⟩ :: (← parsePairs rest)
  | j :: _ => .error (fault (.badSortKey j))

/-- The keys of an object of paths with directions. -/
def parseMembers : List (String × Json) → Except Error (List SortKey)
  | [] => .ok []
  | (path, direction) :: rest => do
    let falling ← parseDirection direction
    return ⟨.ofString path, falling⟩ :: (← parseMembers rest)

/-- The keys of an order from its specification; there has to be one. -/
def parse (j : Json) : Except Error (List SortKey) := do
  let keys ← (
    match j with
    | .array pairs => parsePairs pairs
    | .object members => parseMembers members
    | _ => throw (fault .sortForm) : Except Error (List SortKey))
  if keys.isEmpty then throw (fault .noSortKey)
  return keys

/-! ## Comparing -/

def compare (k : SortKey) (a b : Document) : Ordering :=
  let o := (a.get k.path).compare (b.get k.path)
  if k.falling then o.swap else o

/-- The order of two documents by several keys, the first that tells them apart. -/
def compareAll (a b : Document) : List SortKey → Ordering
  | [] => .eq
  | k :: ks => (k.compare a b).then (compareAll a b ks)

/-- The first document does not come after the second. -/
def notAfter (keys : List SortKey) (a b : Document) : Bool := compareAll a b keys != .gt

end SortKey

/-! ## Sorted lists -/

/-- Bisection for the last of `size` items from `base` on that has a property which holds of items up
to some place; it ends at `base` if there is none. -/
def bisect {α : Type} (p : α → Bool) (xs : List α) : (fuel base size : Nat) → Nat
  | 0, base, _ => base
  | fuel + 1, base, size =>
    if size ≤ 1 then base
    else
      let half := size / 2
      let mid := base + half
      bisect p xs fuel (if xs[mid]?.any p then mid else base) (size - half)

/-- The count of the items at the start of a list that have a property, if those that have it all
stand before the others. -/
def partitionPoint {α : Type} (p : α → Bool) (xs : List α) : Nat :=
  let base := bisect p xs xs.length 0 xs.length
  if xs[base]?.any p then base + 1 else base

def insertAt {α : Type} (n : Nat) (x : α) (xs : List α) : List α := xs.take n ++ x :: xs.drop n

theorem insertAt_perm {α : Type} (n : Nat) (x : α) (xs : List α) : (insertAt n x xs).Perm (x :: xs) := by
  have h : (insertAt n x xs).Perm (x :: (xs.take n ++ xs.drop n)) := List.perm_middle
  rwa [List.take_append_drop] at h

/-- A sorted list with a document put behind all that do not come after it. -/
def insertSorted (keys : List SortKey) (d : Document) (ds : List Document) : List Document :=
  insertAt (partitionPoint (fun old => SortKey.notAfter keys old d) ds) d ds

theorem insertSorted_perm (keys : List SortKey) (d : Document) (ds : List Document) :
    (insertSorted keys d ds).Perm (d :: ds) := insertAt_perm _ _ _

end DocFlow
