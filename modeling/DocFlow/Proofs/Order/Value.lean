import DocFlow.Proofs.Order.Number
import DocFlow.Value.Order

/-!
# The order of values

Swapping two values turns their order around (`compare_swap`), and the order of values that hold no NaN
is consistent (`consistent_compare`).  Values of different kinds are told apart by the ranks of their
kinds alone, so that it is enough to look at the order within a kind (`compareWithin`).
-/

namespace DocFlow.Value

/-! ## Values that hold NaN -/

mutual

def hasNaN : Value → Bool
  | number x => x.isNaN
  | array items => hasNaNItems items
  | document fields => hasNaNFields fields
  | _ => false

def hasNaNItems : List Value → Bool
  | [] => false
  | v :: vs => hasNaN v || hasNaNItems vs

def hasNaNFields : List (String × Value) → Bool
  | [] => false
  | (_, v) :: fields => hasNaN v || hasNaNFields fields

end

/-! ## The order within a kind -/

/-- The order of values of one kind; values of different kinds tie. -/
def compareWithin : Value → Value → Ordering
  | number a, number b => Number.compare a b
  | string a, string b => compareText a b
  | bool a, bool b => compareBool a b
  | timestamp a, timestamp b => a.compare b
  | array a, array b => compareItems a b
  | document a, document b => compareFields a b
  | _, _ => .eq

theorem compare_eq_then (a b : Value) :
    a.compare b = (Ord.compare a.rank b.rank).then (a.compareWithin b) := by
  cases a <;> cases b <;> rfl

/-! ## Turning around -/

theorem compareText_swap (s t : String) : (compareText s t).swap = compareText t s :=
  Std.OrientedOrd.eq_swap.symm

theorem compareBool_swap (x y : Bool) : (compareBool x y).swap = compareBool y x := Nat.compare_swap _ _

theorem compareInstant_swap (s t : Calendar.Instant) : (s.compare t).swap = t.compare s := by
  unfold Calendar.Instant.compare
  rw [Ordering.swap_then, Int.compare_swap, Nat.compare_swap]

mutual

theorem compare_swap (a b : Value) : (a.compare b).swap = b.compare a := by
  cases a with
  | missing => cases b <;> rfl
  | null => cases b <;> rfl
  | bool x =>
    cases b with
    | bool y => exact compareBool_swap x y
    | _ => rfl
  | number x =>
    cases b with
    | number y => exact Number.compare_swap x y
    | _ => rfl
  | string s =>
    cases b with
    | string t => exact compareText_swap s t
    | _ => rfl
  | timestamp s =>
    cases b with
    | timestamp t => exact compareInstant_swap s t
    | _ => rfl
  | array as =>
    cases b with
    | array bs => exact compareItems_swap as bs
    | _ => rfl
  | document as =>
    cases b with
    | document bs => exact compareFields_swap as bs
    | _ => rfl

theorem compareItems_swap (as bs : List Value) : (compareItems as bs).swap = compareItems bs as := by
  cases as with
  | nil => cases bs <;> rfl
  | cons a as =>
    cases bs with
    | nil => rfl
    | cons b bs =>
      rw [compareItems, compareItems, Ordering.swap_then, compare_swap a b, compareItems_swap as bs]

theorem compareFields_swap (as bs : List (String × Value)) :
    (compareFields as bs).swap = compareFields bs as := by
  match as, bs with
  | [], [] => rfl
  | [], _ :: _ => rfl
  | _ :: _, [] => rfl
  | (k, a) :: as, (l, b) :: bs =>
    rw [compareFields, compareFields, Ordering.swap_then, Ordering.swap_then, compareText_swap k l,
      compare_swap a b, compareFields_swap as bs]

end

/-- Values of comparable kinds stand the other way round when they are swapped; others stand in no order. -/
theorem compare?_swap (a b : Value) : (a.compare? b).map Ordering.swap = b.compare? a := by
  cases a with
  | number x =>
    cases b with
    | number y => exact Number.compare?_swap x y
    | _ => rfl
  | string s =>
    cases b with
    | string t => exact congrArg some (compareText_swap s t)
    | _ => rfl
  | bool x =>
    cases b with
    | bool y => exact congrArg some (compareBool_swap x y)
    | _ => rfl
  | timestamp s =>
    cases b with
    | timestamp t => exact congrArg some (compareInstant_swap s t)
    | _ => rfl
  | _ => cases b <;> rfl

/-! ## Three values -/

theorem consistent_compareBool (x y z : Bool) :
    Consistent (compareBool x y) (compareBool y z) (compareBool x z) :=
  .of_transOrd x.toNat y.toNat z.toNat

theorem consistent_compareInstant (s t u : Calendar.Instant) :
    Consistent (s.compare t) (t.compare u) (s.compare u) :=
  (Consistent.of_transOrd s.seconds t.seconds u.seconds).lex
    (Consistent.of_transOrd s.nanos t.nanos u.nanos)

mutual

/-- Three values that hold no NaN stand to each other as in a chain. -/
theorem consistent_compare (a b c : Value) (ha : a.hasNaN = false) (hb : b.hasNaN = false)
    (hc : c.hasNaN = false) : Consistent (a.compare b) (b.compare c) (a.compare c) := by
  rw [compare_eq_then, compare_eq_then, compare_eq_then]
  refine (Consistent.of_transOrd a.rank b.rank c.rank).lexTies fun hab hbc => ?_
  rw [Nat.compare_eq_eq] at hab hbc
  -- the ranks leave one kind for all three
  cases a with
  | missing =>
    cases b <;> cases hab
    exact .eq_eq_eq
  | null =>
    cases b <;> cases hab
    exact .eq_eq_eq
  | bool x =>
    cases b <;> cases hab
    cases c <;> cases hbc
    exact consistent_compareBool _ _ _
  | number x =>
    cases b <;> cases hab
    cases c <;> cases hbc
    exact Number.consistent_compare ha hb hc
  | string s =>
    cases b <;> cases hab
    cases c <;> cases hbc
    exact .of_transOrd _ _ _
  | timestamp s =>
    cases b <;> cases hab
    cases c <;> cases hbc
    exact consistent_compareInstant _ _ _
  | array as =>
    cases b <;> cases hab
    cases c <;> cases hbc
    exact consistent_compareItems as _ _ ha hb hc
  | document as =>
    cases b <;> cases hab
    cases c <;> cases hbc
    exact consistent_compareFields as _ _ ha hb hc

theorem consistent_compareItems (as bs cs : List Value) (ha : hasNaNItems as = false)
    (hb : hasNaNItems bs = false) (hc : hasNaNItems cs = false) :
    Consistent (compareItems as bs) (compareItems bs cs) (compareItems as cs) := by
  match as, bs, cs with
  | [], [], [] | [], [], _ :: _ | [], _ :: _, [] | [], _ :: _, _ :: _ | _ :: _, [], [] |
      _ :: _, [], _ :: _ | _ :: _, _ :: _, [] => constructor <;> simp [compareItems]
  | a :: as, b :: bs, c :: cs =>
    obtain ⟨ha, has⟩ := Bool.or_eq_false_iff.1 ha
    obtain ⟨hb, hbs⟩ := Bool.or_eq_false_iff.1 hb
    obtain ⟨hc, hcs⟩ := Bool.or_eq_false_iff.1 hc
    exact (consistent_compare a b c ha hb hc).lex (consistent_compareItems as bs cs has hbs hcs)

theorem consistent_compareFields (as bs cs : List (String × Value)) (ha : hasNaNFields as = false)
    (hb : hasNaNFields bs = false) (hc : hasNaNFields cs = false) :
    Consistent (compareFields as bs) (compareFields bs cs) (compareFields as cs) := by
  match as, bs, cs with
  | [], [], [] | [], [], _ :: _ | [], _ :: _, [] | [], _ :: _, _ :: _ | _ :: _, [], [] |
      _ :: _, [], _ :: _ | _ :: _, _ :: _, [] => constructor <;> simp [compareFields]
  | (k, a) :: as, (l, b) :: bs, (m, c) :: cs =>
    obtain ⟨ha, has⟩ := Bool.or_eq_false_iff.1 ha
    obtain ⟨hb, hbs⟩ := Bool.or_eq_false_iff.1 hb
    obtain ⟨hc, hcs⟩ := Bool.or_eq_false_iff.1 hc
    have hkeys := Consistent.of_transOrd k l m
    have hvalues := consistent_compare a b c ha hb hc
    exact (hkeys.lex hvalues).lex (consistent_compareFields as bs cs has hbs hcs)

end

end DocFlow.Value
