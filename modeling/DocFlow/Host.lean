import DocFlow.Document.Basic
import DocFlow.Text.Quoted

/-!
# Host functions

A host program may register functions of its own, by name: predicates for matching, functions of a
document for projections, and reducers for groups.  A specification calls them by name; the name is
looked up when the specification is read.
-/

namespace DocFlow

/-- Why a host function failed: in its own words, and the causes behind that. -/
structure HostFailure where
  message : String
  causes : List String
  deriving DecidableEq, Repr

namespace HostFailure

/-- The message followed by its causes. -/
def chain (f : HostFailure) : String := String.intercalate ": " (f.message :: f.causes)

/-- The failure with its causes drawn into the message. -/
def flatten (f : HostFailure) : HostFailure := ⟨f.chain, []⟩

end HostFailure

/-- A predicate over the value found at a path and the whole document. -/
abbrev Matcher := Value → Document → Except HostFailure Bool

abbrev Projector := Document → Except HostFailure Value

/-- A function of the value so far and the next document of a group. -/
abbrev Reducer := Value → Document → Except HostFailure Value

structure Named (F : Type) where
  name : String
  run : F

/-- The functions that a host program has registered. -/
structure Registry where
  matchers : Entries Matcher
  projectors : Entries Projector
  reducers : Entries Reducer

namespace Registry

def empty : Registry := ⟨[], [], []⟩

def withMatcher (r : Registry) (name : String) (f : Matcher) : Registry :=
  { r with matchers := Entries.put name f r.matchers }

def withProjector (r : Registry) (name : String) (f : Projector) : Registry :=
  { r with projectors := Entries.put name f r.projectors }

def withReducer (r : Registry) (name : String) (f : Reducer) : Registry :=
  { r with reducers := Entries.put name f r.reducers }

def find? {F : Type} (name : String) (fs : Entries F) : Option (Named F) :=
  (Entries.get? name fs).map fun f => ⟨name, f⟩

/-- The names of functions, sorted and in quotation marks. -/
def listing {F : Type} (fs : Entries F) : String :=
  let names := (Entries.keys fs).mergeSort fun a b => !(b < a)
  "[" ++ String.intercalate ", " (names.map fun n => String.ofList (Text.quoted n)) ++ "]"

def describe (r : Registry) : String :=
  "Callbacks \x7b matchers: " ++ listing r.matchers ++ ", projectors: " ++ listing r.projectors
    ++ ", reducers: " ++ listing r.reducers ++ " \x7d"

end Registry

end DocFlow
