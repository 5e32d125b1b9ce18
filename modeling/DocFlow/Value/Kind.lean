/-!
# Kinds of values

The kind of a value and sets of kinds.  A set of kinds says what an operator may give or take; the
check of a specification compares such sets before any document is seen.
-/

namespace DocFlow

inductive Kind where
  | missing | null | bool | number | string | timestamp | array | document
  deriving DecidableEq, Repr

namespace Kind

/-- Every kind, in the order in which kinds are listed. -/
def all : List Kind := [missing, null, bool, number, string, timestamp, array, document]

theorem mem_all (k : Kind) : k ∈ all := by cases k <;> decide

def name : Kind → String
  | missing => "missing"
  | null => "null"
  | bool => "bool"
  | number => "number"
  | string => "string"
  | timestamp => "timestamp"
  | array => "array"
  | document => "document"

end Kind

structure KindSet where
  contains : Kind → Bool

namespace KindSet

def of (ks : List Kind) : KindSet := ⟨fun k => ks.contains k⟩

def empty : KindSet := ⟨fun _ => false⟩

def any : KindSet := ⟨fun _ => true⟩

/-- The two kinds that stand for no value. -/
def nullish : KindSet := of [.missing, .null]

def union (s t : KindSet) : KindSet := ⟨fun k => s.contains k || t.contains k⟩

def diff (s t : KindSet) : KindSet := ⟨fun k => s.contains k && !t.contains k⟩

/-- The kinds of the set in order. -/
def kinds (s : KindSet) : List Kind := Kind.all.filter s.contains

def isEmpty (s : KindSet) : Bool := s.kinds.isEmpty

def meets (s t : KindSet) : Bool := Kind.all.any fun k => s.contains k && t.contains k

/-- The names of the kinds with bars between them. -/
def text (s : KindSet) : String := String.intercalate "|" (s.kinds.map Kind.name)

/-- The names of the kinds in quotation marks and braces. -/
def listing (s : KindSet) : String :=
  "\x7b" ++ String.intercalate ", " (s.kinds.map fun k => "\"" ++ k.name ++ "\"") ++ "\x7d"

/-! ## Membership -/

@[simp] theorem contains_any (k : Kind) : any.contains k = true := rfl

@[simp] theorem contains_union (s t : KindSet) (k : Kind) :
    (s.union t).contains k = (s.contains k || t.contains k) := rfl

@[simp] theorem contains_diff (s t : KindSet) (k : Kind) :
    (s.diff t).contains k = (s.contains k && !t.contains k) := rfl

theorem isEmpty_iff (s : KindSet) : s.isEmpty = true ↔ ∀ k, s.contains k = false := by
  simp only [isEmpty, kinds, List.isEmpty_iff, List.filter_eq_nil_iff]
  exact ⟨fun h k => by simpa using h k k.mem_all, fun h k _ => by simp [h k]⟩

theorem meets_iff (s t : KindSet) : s.meets t = true ↔ ∃ k, s.contains k = true ∧ t.contains k = true := by
  simp only [meets, List.any_eq_true, Bool.and_eq_true]
  exact ⟨fun ⟨k, _, h⟩ => ⟨k, h⟩, fun ⟨k, h⟩ => ⟨k, k.mem_all, h⟩⟩

end KindSet

end DocFlow
