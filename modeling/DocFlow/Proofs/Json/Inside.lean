import DocFlow.Json.Basic

/-!
# Parts of a JSON value

What is proved of a JSON value may use that it holds of everything inside it, at any depth
(`Json.inside_induction`).
-/

namespace DocFlow.Json

/-- The value is an item or a member of another, or inside of one. -/
inductive Inside (part : Json) : Json → Prop
  | item {items : List Json} (h : part ∈ items) : Inside part (array items)
  | member {members : List (String × Json)} {key : String} (h : (key, part) ∈ members) :
    Inside part (object members)
  | insideItem {items : List Json} {j : Json} (h : Inside part j) (hj : j ∈ items) : Inside part (array items)
  | insideMember {members : List (String × Json)} {key : String} {j : Json} (h : Inside part j)
    (hj : (key, j) ∈ members) : Inside part (object members)

variable {part j whole : Json}

theorem Inside.trans (h : part.Inside j) (hj : j.Inside whole) : part.Inside whole := by
  induction hj with
  | item hj => exact .insideItem h hj
  | member hj => exact .insideMember h hj
  | insideItem _ hj ih => exact .insideItem ih hj
  | insideMember _ hj ih => exact .insideMember ih hj

theorem sizeOf_lt_of_mem_items {items : List Json} (h : j ∈ items) : sizeOf j < sizeOf (array items) := by
  have := List.sizeOf_lt_of_mem h
  simp only [array.sizeOf_spec]
  omega

theorem sizeOf_lt_of_mem_members {members : List (String × Json)} {key : String} (h : (key, j) ∈ members) :
    sizeOf j < sizeOf (object members) := by
  have := List.sizeOf_lt_of_mem h
  simp only [object.sizeOf_spec, Prod.mk.sizeOf_spec] at *
  omega

theorem Inside.sizeOf_lt (h : part.Inside whole) : sizeOf part < sizeOf whole := by
  induction h with
  | item h => exact sizeOf_lt_of_mem_items h
  | member h => exact sizeOf_lt_of_mem_members h
  | insideItem _ hj ih => exact Nat.lt_trans ih (sizeOf_lt_of_mem_items hj)
  | insideMember _ hj ih => exact Nat.lt_trans ih (sizeOf_lt_of_mem_members hj)

/-- What holds of a value if it holds of all that is inside it holds of all values. -/
theorem inside_induction {motive : Json → Prop}
    (step : ∀ j, (∀ part, part.Inside j → motive part) → motive j) (j : Json) : motive j :=
  step j fun part h =>
    have := h.sizeOf_lt
    inside_induction step part
termination_by sizeOf j

end DocFlow.Json
