import DocFlow.Text.Substring

/-!
# Parts of a text in 64 bits

The places of a text are computed with integers of any size.  In integers of 64 bits a sum may leave the range, and the
characters between two places can only be asked for if both are places of the text and stand in order; `slice64?` has no
value where one of this goes wrong.  It never does (`slice64?_eq`): an index is only added to the length if it is
negative, and what comes out is a place of the text.

The two ways to name a part agree, and the parts before and behind a place make up the text (`slice_laws`).
-/

namespace DocFlow.Text

/-! ## In 64 bits -/

/-- The sum of two integers, if it is one of 64 bits. -/
def sum64? (a b : Int64) : Option Int64 :=
  if Int64.minValue.toInt ≤ a.toInt + b.toInt ∧ a.toInt + b.toInt ≤ Int64.maxValue.toInt then some (a + b) else none

/-- The place that an index stands for in a text of `n` characters, if it can be computed. -/
def clamp64? (n i : Int64) : Option Int64 := if i < 0 then (sum64? n i).map (max · 0) else some (min i n)

/-- The characters from one place up to another, if these are places of the list in order. -/
def between? (cs : List Char) (first last : Nat) : Option (List Char) :=
  if first ≤ last ∧ last ≤ cs.length then some ((cs.take last).drop first) else none

/-- The characters from `start` up to `stop`, or up to the end, if they can be found with integers of 64 bits. -/
def slice64? (s : String) (start : Int64) (stop : Option Int64) : Option String := do
  let n := Int64.ofNat s.toList.length
  let first ← clamp64? n start
  let last ← stop.elim (some n) (clamp64? n)
  if last ≤ first then return ""
  return String.ofList (← between? s.toList first.toUInt64.toNat last.toUInt64.toNat)

/-- The text has no more bytes than a signed integer of 64 bits can count. -/
def Addressable (s : String) : Prop := (s.utf8ByteSize : Int) ≤ Int64.maxValue.toInt

instance (s : String) : Decidable (Addressable s) := inferInstanceAs (Decidable (_ ≤ _))

variable {s : String} {a b n i : Int64}

theorem toInt_add_eq (hlo : Int64.minValue.toInt ≤ a.toInt + b.toInt)
    (hhi : a.toInt + b.toInt ≤ Int64.maxValue.toInt) : (a + b).toInt = a.toInt + b.toInt := by
  rw [Int64.toInt_minValue] at hlo
  rw [Int64.toInt_maxValue] at hhi
  rw [Int64.toInt_add]
  exact Int.bmod_eq_of_le (by omega) (by omega)

theorem toInt_max_zero (a : Int64) : (max a 0).toInt = max a.toInt 0 := by
  show (if a ≤ 0 then (0 : Int64) else a).toInt = max a.toInt 0
  split <;> rename_i h <;> rw [Int64.le_iff_toInt_le, Int64.toInt_zero] at h
  · rw [Int64.toInt_zero, Int.max_eq_right h]
  · rw [Int.max_eq_left (by omega)]

theorem toInt_min (a b : Int64) : (min a b).toInt = min a.toInt b.toInt := by
  show (if a ≤ b then a else b).toInt = min a.toInt b.toInt
  split <;> rename_i h <;> rw [Int64.le_iff_toInt_le] at h
  · rw [Int.min_eq_left h]
  · rw [Int.min_eq_right (by omega)]

theorem clamp_le (n : Nat) (i : Int) : clamp n i ≤ n := by
  unfold clamp
  split <;> omega

/-- Only a negative index is added to the length, so that the sum lies between the two. -/
theorem clamp64?_eq {m : Nat} (hn : n.toInt = m) (i : Int64) :
    ∃ p, clamp64? n i = some p ∧ p.toInt = clamp m i.toInt := by
  have hmin := i.minValue_le_toInt
  have hmax := n.toInt_le
  by_cases hi : i < 0
  · have hneg : i.toInt < 0 := Int64.lt_iff_toInt_lt.1 hi
    have hlo : Int64.minValue.toInt ≤ n.toInt + i.toInt := by omega
    have hhi : n.toInt + i.toInt ≤ Int64.maxValue.toInt := by omega
    refine ⟨max (n + i) 0, by rw [clamp64?, if_pos hi, sum64?, if_pos ⟨hlo, hhi⟩, Option.map_some], ?_⟩
    rw [toInt_max_zero, toInt_add_eq hlo hhi, clamp, if_pos hneg]
    omega
  · have hpos : ¬ i.toInt < 0 := fun h => hi (Int64.lt_iff_toInt_lt.2 h)
    refine ⟨min i n, by rw [clamp64?, if_neg hi], ?_⟩
    rw [toInt_min, clamp, if_neg hpos]
    omega

theorem toNat_toUInt64 (ha : 0 ≤ a.toInt) : a.toUInt64.toNat = a.toInt.toNat :=
  Int64.toNat_toUInt64_of_le (Int64.le_iff_toInt_le.2 ha)

/-- A character takes at least one byte. -/
theorem length_toList_le (s : String) : s.toList.length ≤ s.utf8ByteSize := by
  induction s using String.push_induction with
  | empty => exact Nat.zero_le _
  | push s c ih =>
    have hc := c.utf8Size_pos
    rw [String.toList_push, List.length_append, List.length_singleton, String.utf8ByteSize_push]
    omega

theorem between?_eq {cs : List Char} {first last : Nat} (hfirst : first ≤ last) (hlast : last ≤ cs.length) :
    between? cs first last = some ((cs.take last).drop first) := if_pos ⟨hfirst, hlast⟩

/-- **Safety.**  Neither the sum nor the range of characters ever goes wrong. -/
theorem slice64?_eq (hs : Addressable s) (start : Int64) (stop : Option Int64) :
    slice64? s start stop = some (slice s start.toInt (stop.map Int64.toInt)) := by
  have hlength : (Int64.ofNat s.toList.length).toInt = s.toList.length := by
    have hbytes := length_toList_le s
    rw [Addressable, Int64.toInt_maxValue] at hs
    exact Int64.toInt_ofNat_of_lt (by omega)
  obtain ⟨first, hfirst, hfirstInt⟩ := clamp64?_eq hlength start
  obtain ⟨last, hlast, hlastInt, hle⟩ : ∃ last,
      stop.elim (some (.ofNat s.toList.length)) (clamp64? (.ofNat s.toList.length)) = some last ∧
      last.toInt = ((stop.map Int64.toInt).map (clamp s.toList.length)).getD s.toList.length ∧
      last.toInt ≤ s.toList.length := by
    cases stop with
    | none => exact ⟨_, rfl, hlength, Int.le_of_eq hlength⟩
    | some stop =>
      obtain ⟨last, hlast, hlastInt⟩ := clamp64?_eq hlength stop
      exact ⟨last, hlast, hlastInt, hlastInt ▸ Int.ofNat_le.2 (clamp_le _ _)⟩
  show (clamp64? _ start).bind _ = _
  rw [hfirst, Option.bind_some, hlast]
  show (if last ≤ first then some "" else _) = _
  rw [slice]
  -- between places that cross there are no characters
  split <;> rename_i hcross <;> rw [Int64.le_iff_toInt_le] at hcross
  · rw [List.drop_of_length_le (by rw [List.length_take]; omega)]
  · rw [toNat_toUInt64 (by omega), toNat_toUInt64 (by omega), hfirstInt, hlastInt, between?_eq (by omega) (by omega)]
    rfl

/-! ## Laws of the parts -/

/-- Dropping more than there is drops everything. -/
theorem drop_min {cs : List Char} {n : Nat} (hn : cs.length ≤ n) (k : Nat) : cs.drop (min k n) = cs.drop k := by
  rcases Nat.le_total k n with hk | hk
  · rw [Nat.min_eq_left hk]
  · rw [Nat.min_eq_right hk, List.drop_of_length_le hn, List.drop_of_length_le (Nat.le_trans hn hk)]

theorem slice_append_slice (s : String) (k : Int) : slice s 0 (some k) ++ slice s k none = s := by
  show String.ofList ((s.toList.take (clamp _ k)).drop (clamp _ 0)) ++
    String.ofList ((s.toList.take s.toList.length).drop (clamp _ k)) = s
  have hzero (n : Nat) : clamp n 0 = 0 := Nat.zero_min n
  rw [← String.ofList_append, hzero, List.drop_zero, List.take_length, List.take_append_drop, String.ofList_toList]

theorem slice_eq_take {start length : Int} (hstart : 0 ≤ start) (hlength : 0 ≤ length) :
    slice s start (some (start + length)) = take s start length := by
  have hclamp {i : Int} (hi : 0 ≤ i) : clamp s.toList.length i = min i.toNat s.toList.length := if_neg (by omega)
  show String.ofList ((s.toList.take (clamp _ (start + length))).drop (clamp _ start)) = _
  rw [take, if_neg (by omega), hclamp hstart, hclamp (by omega), ← List.take_eq_take_min,
    drop_min (by rw [List.length_take]; omega), List.drop_take]
  show _ = String.ofList (if length < 0 then _ else _)
  rw [if_neg (by omega), Int.toNat_add hstart hlength, Nat.add_sub_cancel_left]

/-- **Parts of a text.**  With integers of 64 bits every part from a start up to a stop is found without a sum that leaves
the range and without asking for characters that are not there.  What stands before any place and what stands behind it
make up the text, and a part of a given length is the one up to the place so far behind its start. -/
theorem slice_laws (hs : Addressable s) :
    (∀ (start : Int64) (stop : Option Int64),
      slice64? s start stop = some (slice s start.toInt (stop.map Int64.toInt))) ∧
    (∀ k : Int64, slice s 0 (some k.toInt) ++ slice s k.toInt none = s) ∧
    (∀ start length : Int64, 0 ≤ start → 0 ≤ length → start.toInt + length.toInt ≤ Int64.maxValue.toInt →
      slice s start.toInt (some (start + length).toInt) = take s start.toInt length.toInt) := by
  refine ⟨slice64?_eq hs, fun k => slice_append_slice s k.toInt, fun start length hstart hlength hsum => ?_⟩
  rw [Int64.le_iff_toInt_le, Int64.toInt_zero] at hstart hlength
  have hmin := length.minValue_le_toInt
  rw [toInt_add_eq (by omega) hsum]
  exact slice_eq_take hstart hlength

/-- A text whose characters take one to four bytes, cut at the ends of the range of places and before its last one. -/
theorem slice_laws_multibyte :
    let s := "aé€𝄞"
    Addressable s ∧ slice64? s Int64.minValue (some Int64.maxValue) = some s ∧
    slice64? s (-2) none = some "€𝄞" ∧ slice64? s 3 (some (-3)) = some "" ∧
    slice s 0 (some (-1)) ++ slice s (-1) none = s ∧
    (0 : Int64) ≤ 1 ∧ 0 ≤ Int64.maxValue - 1 ∧
    (1 : Int64).toInt + (Int64.maxValue - 1).toInt ≤ Int64.maxValue.toInt ∧
    slice s 1 (some Int64.maxValue.toInt) = take s 1 (Int64.maxValue - 1).toInt := by
  have hs : Addressable "aé€𝄞" := by decide
  obtain ⟨hsafe, hcut, htake⟩ := slice_laws hs
  have hall := (hsafe Int64.minValue (some Int64.maxValue)).trans (congrArg some (by decide : _ = "aé€𝄞"))
  have hrest := (hsafe (-2) none).trans (congrArg some (by decide : _ = "€𝄞"))
  have hcrossed := (hsafe 3 (some (-3))).trans (congrArg some (by decide : _ = ""))
  have hpart := htake 1 (Int64.maxValue - 1) (by decide) (by decide) (by decide)
  rw [show 1 + (Int64.maxValue - 1) = Int64.maxValue by decide] at hpart
  exact ⟨hs, hall, hrest, hcrossed, hcut (-1), by decide, by decide, by decide, hpart⟩

end DocFlow.Text
