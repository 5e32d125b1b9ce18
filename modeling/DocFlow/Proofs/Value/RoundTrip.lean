import DocFlow.Proofs.Json.Writer
import DocFlow.Proofs.Number.Exact
import DocFlow.Proofs.Value.Identical

/-!
# Values read back from their JSON

JSON has no missing values, no timestamps and no numbers that are not finite.  A value without these reads back from its
JSON as it is, with its fields in the same order (`Value.identical_ofJson_toJson`), and any other value reads back as
one of the same JSON (`Value.toJson_ofJson_toJson`).
-/

namespace DocFlow.Value

/-! ## Numbers -/

variable {x : Float}

theorem beq_self_of_isFinite (h : x.isFinite = true) : (x == x) = true := by
  obtain ⟨negative, m, q, hview⟩ := Number.isFinite_iff_view.1 h
  have hx : x.isNaN = false := Bool.eq_false_iff.2 fun h => by simp [Number.isNaN_iff_view.1 h] at hview
  exact (Number.beq_iff_view hx hx).2 (.inl rfl)

/-- A finite number reads back from its JSON. -/
theorem identical_ofJson_numberToJson (h : x.isFinite = true) : Identical (ofJson (numberToJson x)) (number x) := by
  unfold numberToJson
  split
  · rename_i n hn
    exact .number (Number.ofInt_beq_of_toSafeInt? hn)
  · rw [if_pos h]
    exact .number (beq_self_of_isFinite h)

/-- The JSON of a number is that of the number read back from it. -/
theorem toJson_ofJson_numberToJson (x : Float) : (ofJson (numberToJson x)).toJson = numberToJson x := by
  have hread {n : Int} (hn : Number.toSafeInt? x = some n) : numberToJson (Float.ofInt n) = .number (.int n) := by
    obtain ⟨-, hsafe⟩ := Option.filter_eq_some_iff.1 hn
    rw [numberToJson, Number.toSafeInt?_ofInt (of_decide_eq_true hsafe)]
  cases hn : Number.toSafeInt? x with
  | some n =>
    have hjson : numberToJson x = .number (.int n) := by rw [numberToJson, hn]
    rw [hjson]
    exact hread hn
  | none =>
    by_cases hfinite : x.isFinite = true
    · have hjson : numberToJson x = .number (.float x) := by rw [numberToJson, hn, if_pos hfinite]
      rw [hjson]
      exact hjson
    · have hjson : numberToJson x = .null := by rw [numberToJson, hn, if_neg hfinite]
      rw [hjson]
      rfl

/-! ## Values -/

/-- The value is one that JSON has: no missing value, no timestamp, and no number that is not finite. -/
def isPlain : Value → Bool
  | missing => false
  | timestamp _ => false
  | number x => x.isFinite
  | _ => true

mutual

/-- A value that holds only what JSON has reads back from its JSON. -/
theorem identical_ofJson_toJson : ∀ v : Value, v.everywhere isPlain = true → Identical (ofJson v.toJson) v
  | null, _ => .null
  | bool b, _ => .bool b
  | number _, h => identical_ofJson_numberToJson h
  | string s, _ => .string s
  | array items, h => .array (identicalItems_ofItems_toItems items (everywhere_array_iff.1 h).2)
  | document fields, h => .document (identicalFields_ofMembers_toMembers fields (everywhere_document_iff.1 h).2)

theorem identicalItems_ofItems_toItems : ∀ vs : List Value, (∀ v ∈ vs, v.everywhere isPlain = true) →
    IdenticalItems (ofItems (toItems vs)) vs
  | [], _ => .nil
  | v :: vs, h => by
    obtain ⟨hv, hvs⟩ := List.forall_mem_cons.1 h
    exact .cons (identical_ofJson_toJson v hv) (identicalItems_ofItems_toItems vs hvs)

theorem identicalFields_ofMembers_toMembers :
    ∀ fs : List (String × Value), (∀ f ∈ fs, f.2.everywhere isPlain = true) →
      IdenticalFields (ofMembers (toMembers fs)) fs
  | [], _ => .nil
  | (k, v) :: fs, h => by
    obtain ⟨hv, hfs⟩ := List.forall_mem_cons.1 h
    rcases v.eq_missing_or_isMissing with rfl | hthere
    · cases hv
    · rw [toMembers_cons hthere]
      exact .cons k (identical_ofJson_toJson v hv) (identicalFields_ofMembers_toMembers fs hfs)

end

theorem isMissing_ofJson (j : Json) : (ofJson j).isMissing = false := by
  cases j <;> rfl

mutual

/-- A value and what reads back from its JSON have the same JSON. -/
theorem toJson_ofJson_toJson : ∀ v : Value, (ofJson v.toJson).toJson = v.toJson
  | missing | null | bool _ | string _ | timestamp _ => rfl
  | number x => toJson_ofJson_numberToJson x
  | array items => congrArg Json.array (toItems_ofItems_toItems items)
  | document fields => congrArg Json.object (toMembers_ofMembers_toMembers fields)

theorem toItems_ofItems_toItems : ∀ vs : List Value, toItems (ofItems (toItems vs)) = toItems vs
  | [] => rfl
  | v :: vs => by rw [toItems, ofItems, toItems, toJson_ofJson_toJson v, toItems_ofItems_toItems vs]

theorem toMembers_ofMembers_toMembers :
    ∀ fs : List (String × Value), toMembers (ofMembers (toMembers fs)) = toMembers fs
  | [] => rfl
  | (k, v) :: fs => by
    rcases v.eq_missing_or_isMissing with rfl | hv
    · exact toMembers_ofMembers_toMembers fs
    · rw [toMembers_cons hv, ofMembers, toMembers_cons (isMissing_ofJson _), toJson_ofJson_toJson v,
        toMembers_ofMembers_toMembers fs]

end

/-- **JSON round trips.**  A value that holds only null, truth values, finite numbers, texts, arrays and documents reads
back from its JSON as an identical value, which is equal to it if no document in it has a name twice.  Whatever a value
holds, what reads back from its JSON has the same JSON; and every writer, that of the compact text among them, gets the
same from a value as from its JSON. -/
theorem json_round_trip :
    (∀ v : Value, v.everywhere isPlain = true →
      Identical (ofJson v.toJson) v ∧ (v.everywhere isDistinct = true → (ofJson v.toJson == v) = true)) ∧
    (∀ v : Value, (ofJson v.toJson).toJson = v.toJson) ∧
    (∀ (α : Type) (w : Json.Writer α) (v : Value), v.write w = v.toJson.write w) ∧
    ∀ v : Value, v.serialize = v.toJson.text := by
  refine ⟨fun v hplain => ?identical, toJson_ofJson_toJson, fun α w v => (write_toJson w v).symm, fun v => ?text⟩
  case identical =>
    have hidentical := identical_ofJson_toJson v hplain
    exact ⟨hidentical, hidentical.beq⟩
  case text => rw [serialize, Json.text, ← write_text, ← write_toJson, Json.write_text]

/-- A negative zero, the greatest and the least integer that are written as such, and a number beside them, in this
order of fields; and a value of which nothing but the text in it reads back. -/
theorem json_round_trip_edges :
    let v : Value := .document [("z", .array [.number (Float.ofBits 0x8000000000000000), .null]),
      ("b", .number (Float.ofInt 9007199254740991)), ("a", .document [("y", .number (Float.ofInt (-9007199254740991))),
      ("x", .number (Float.ofBits 0x3FF8000000000000))])]
    let lost : Value := .array [.missing, .number (Float.ofBits 0x7FF0000000000000), .timestamp ⟨0, 0⟩,
      .document [("m", .missing), ("s", .string "x")]]
    v.everywhere isPlain = true ∧ v.everywhere isDistinct = true ∧ Identical (ofJson v.toJson) v ∧
      (ofJson v.toJson == v) = true ∧ lost.everywhere isPlain = false ∧ (ofJson lost.toJson).toJson = lost.toJson ∧
      lost.serialize = lost.toJson.text := by
  intro v lost
  have hplain : v.everywhere isPlain = true := by decide +kernel
  have hdistinct : v.everywhere isDistinct = true := by decide +kernel
  obtain ⟨hread, hagain, -, htext⟩ := json_round_trip
  obtain ⟨hidentical, hequal⟩ := hread v hplain
  exact ⟨hplain, hdistinct, hidentical, hequal hdistinct, rfl, hagain lost, htext lost⟩

end DocFlow.Value
