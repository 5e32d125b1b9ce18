import DocFlow.Json.Reader
import DocFlow.Proofs.Outcome

/-!
# Keys of JSON objects

A repeated key keeps its first place and its last value, so an object that is read from a text holds each key once, and
so do all objects inside of what is read (`Json.isDistinct_of_parse`).
-/

namespace DocFlow.Json

open DocFlow.Except (Yields)

/-! ## Values with distinct keys -/

mutual

/-- Each object in the value, at any depth, holds each key once. -/
def isDistinct : Json → Bool
  | array items => isDistinctItems items
  | object members => decide (Entries.Distinct members) && isDistinctMembers members
  | _ => true

def isDistinctItems : List Json → Bool
  | [] => true
  | j :: js => isDistinct j && isDistinctItems js

def isDistinctMembers : List (String × Json) → Bool
  | [] => true
  | (_, j) :: members => isDistinct j && isDistinctMembers members

end

theorem isDistinct_array_iff {items : List Json} :
    (array items).isDistinct = true ↔ ∀ j ∈ items, j.isDistinct = true := by
  rw [isDistinct]
  induction items with
  | nil => simp [isDistinctItems]
  | cons j js ih => simp [isDistinctItems, ih]

theorem isDistinctMembers_iff {members : List (String × Json)} :
    isDistinctMembers members = true ↔ ∀ m ∈ members, m.2.isDistinct = true := by
  induction members with
  | nil => simp [isDistinctMembers]
  | cons m members ih => simp [isDistinctMembers, ih]

theorem isDistinct_object_iff {members : List (String × Json)} : (object members).isDistinct = true ↔
    Entries.Distinct members ∧ ∀ m ∈ members, m.2.isDistinct = true := by
  rw [isDistinct, Bool.and_eq_true, decide_eq_true_eq, isDistinctMembers_iff]

/-! ## Values read from a text -/

/-- An object of members that are read one after the other. -/
theorem isDistinct_ofList {members : List (String × Json)} (h : ∀ m ∈ members, m.2.isDistinct = true) :
    (object (Entries.ofList members)).isDistinct = true :=
  isDistinct_object_iff.2 ⟨Entries.distinct_ofList members, Entries.forall_mem_ofList (P := (isDistinct · = true)) h⟩

mutual

theorem isDistinct_readValue : ∀ (fuel depth : Nat) (cs : List Char),
    Yields (fun r => r.1.isDistinct = true) (readValue fuel depth cs)
  | 0, _, _ => .error _
  | fuel + 1, depth, cs => by
    unfold readValue
    split
    case h_1 => exact .error _
    case h_2 => exact .bind fun _ _ => .ok rfl
    case h_3 =>
      split
      · exact .error _
      · split
        · exact .ok rfl
        · refine .bind fun r hr => .ok (isDistinct_array_iff.2 ?_)
          exact isDistinct_readItems fuel _ _ r hr
    case h_4 =>
      split
      · exact .error _
      · split
        · exact .ok rfl
        · refine .bind fun r hr => .ok (isDistinct_ofList ?_)
          exact isDistinct_readMembers fuel _ _ r hr
    case h_5 | h_6 | h_7 => exact .bind fun _ _ => .ok rfl
    case h_8 => exact .bind fun _ _ => .ok rfl

theorem isDistinct_readItems : ∀ (fuel depth : Nat) (cs : List Char),
    Yields (fun r => ∀ j ∈ r.1, j.isDistinct = true) (readItems fuel depth cs)
  | 0, _, _ => .error _
  | fuel + 1, depth, cs => by
    unfold readItems
    refine .bind fun ⟨item, cs⟩ hread => ?_
    have hitem : item.isDistinct = true := isDistinct_readValue fuel depth _ _ hread
    dsimp only
    split
    · refine .bind fun ⟨items, cs⟩ hitems => .ok ?_
      exact List.forall_mem_cons.2 ⟨hitem, isDistinct_readItems fuel depth _ _ hitems⟩
    · exact .ok (List.forall_mem_singleton.2 hitem)
    · exact .error _
    · exact .error _

theorem isDistinct_readMembers : ∀ (fuel depth : Nat) (cs : List Char),
    Yields (fun r => ∀ m ∈ r.1, m.2.isDistinct = true) (readMembers fuel depth cs)
  | 0, _, _ => .error _
  | fuel + 1, depth, cs => by
    unfold readMembers
    split
    · refine .bind fun ⟨key, cs⟩ _ => ?_
      dsimp only
      split
      · refine .bind fun ⟨value, cs⟩ hread => ?_
        have hvalue : value.isDistinct = true := isDistinct_readValue fuel depth _ _ hread
        dsimp only
        split
        · refine .bind fun ⟨members, cs⟩ hmembers => .ok ?_
          exact List.forall_mem_cons.2 ⟨hvalue, isDistinct_readMembers fuel depth _ _ hmembers⟩
        · exact .ok (List.forall_mem_singleton.2 hvalue)
        · exact .error _
        · exact .error _
      · exact .error _
      · exact .error _
    · exact .error _
    · exact .error _

end

/-- In what is read from a text, each object holds each key once. -/
theorem isDistinct_of_parse {text : String} {j : Json} (h : parse text = .ok j) : j.isDistinct = true := by
  obtain ⟨⟨read, rest⟩, hread, h⟩ := Except.bind_eq_ok.1 h
  dsimp only at h
  split at h
  · obtain rfl := Except.ok.inj h
    exact isDistinct_readValue _ _ _ _ hread
  · cases h

end DocFlow.Json
