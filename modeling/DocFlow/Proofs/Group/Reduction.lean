import DocFlow.Proofs.Group.Gather

/-!
# Reductions over a list of values

A reduction absorbs the values of its source one by one, but what it has gathered can be told of the list as a whole
(`Reduction.gathered`): a fold over the numbers among the values, the first or the last value that is there, or a list
of some of them.  The set of a reduction holds the first value of each canonical key (`Value.firsts`).

* `Reduction.absorb_gathered` — one more value is absorbed into what is gathered with it, if the reduction takes it;
* `Accumulator.gather_reduce_eq_ok` — so over documents a reduction gathers what is told of the values of its source.
-/

namespace DocFlow

namespace Value

/-! ## Lists of values -/

def numbers (vs : List Value) : List Float := vs.filterMap toFloat?

/-- The items of the arrays among values, in order. -/
def itemsIn (vs : List Value) : List Value := (vs.filterMap toArray?).flatten

/-- The values of a list that are the first with their canonical key. -/
def firsts (vs : List Value) : List Value := vs.eraseDupsBy fun v w => v.key == w.key

def keyed (vs : List Value) : Entries Value := vs.map fun v => (v.key, v)

theorem values_keyed (vs : List Value) : (keyed vs).values = vs := by
  rw [keyed, Entries.values, List.map_map]
  exact List.map_id vs

theorem hasKey_keyed (k : String) (vs : List Value) : (keyed vs).hasKey k = vs.any fun w => k == w.key := by
  rw [keyed, Entries.hasKey, List.any_map]
  exact congrArg vs.any (funext fun w => decide_eq_decide.2 eq_comm)

theorem itemsIn_concat (vs : List Value) (v : Value) : itemsIn (vs ++ [v]) = itemsIn vs ++ v.toArray?.getD [] := by
  cases v <;> simp [itemsIn, toArray?, List.filterMap_cons]

theorem numbers_concat (vs : List Value) (v : Value) : numbers (vs ++ [v]) = numbers vs ++ v.toFloat?.toList := by
  cases v <;> simp [numbers, toFloat?, List.filterMap_cons]

theorem eraseDupsBy_loop_concat (same : Value → Value → Bool) (vs seen : List Value) (v : Value) :
    List.eraseDupsBy.loop same (vs ++ [v]) seen =
      if (List.eraseDupsBy.loop same vs seen).any (same v) then List.eraseDupsBy.loop same vs seen
      else List.eraseDupsBy.loop same vs seen ++ [v] := by
  induction vs generalizing seen with
  | nil => cases h : seen.any (same v) <;> simp [List.eraseDupsBy.loop, h]
  | cons w vs ih => cases h : seen.any (same w) <;> simp [List.eraseDupsBy.loop, h, ih]

theorem firsts_concat (vs : List Value) (v : Value) :
    firsts (vs ++ [v]) = if (firsts vs).any (fun w => v.key == w.key) then firsts vs else firsts vs ++ [v] :=
  eraseDupsBy_loop_concat _ vs [] v

end Value

namespace Reduction

open Value (numbers itemsIn firsts keyed)

/-! ## Sets -/

theorem addToItems_firsts (vs : List Value) (v : Value) :
    addToItems (keyed (firsts vs)) v = keyed (firsts (vs ++ [v])) := by
  rw [addToItems, Entries.addNew, Value.hasKey_keyed, Value.firsts_concat]
  split <;> simp [keyed]

theorem foldl_addToItems_firsts (vs items : List Value) :
    items.foldl addToItems (keyed (firsts vs)) = keyed (firsts (vs ++ items)) := by
  induction items generalizing vs with
  | nil => simp
  | cons v items ih => rw [List.foldl_cons, addToItems_firsts, ih, List.append_assoc, List.singleton_append]

/-! ## One more value -/

def gathered : Reduction → List Value → Accumulation
  | sum, vs => .sum ((numbers vs).foldl (· + ·) 0.0)
  | avg, vs => .average ((numbers vs).foldl (· + ·) 0.0) (numbers vs).length
  | min, vs => .extremum (vs.foldl (keepBest .lt) .missing)
  | max, vs => .extremum (vs.foldl (keepBest .gt) .missing)
  | first, vs => .first ((vs.find? (!·.isMissing)).getD .missing)
  | last, vs => .last ((vs.reverse.find? (!·.isMissing)).getD .missing)
  | addToSet, vs => .set (keyed (firsts (vs.filter (!·.isNullish))))
  | push, vs => .list (vs.filter (!·.isNullish))
  | concatToSet, vs => .set (keyed (firsts (itemsIn vs)))
  | concatToList, vs => .list (itemsIn vs)

/-- The reduction can absorb the value. -/
def takes : Reduction → Value → Bool
  | concatToSet, v => v.isNullish || v.kind = .array
  | concatToList, v => v.isNullish || v.kind = .array
  | _, _ => true

theorem itemsOf_eq (v : Value) : itemsOf v =
    if v.isNullish || v.kind = .array then .ok (v.toArray?.getD []) else .error (.sourceNotArray v.kind) := by
  cases v <;> rfl

theorem gathered_nil (r : Reduction) : r.gathered [] = r.initial := by cases r <;> rfl

theorem fits_gathered (r : Reduction) (vs : List Value) : r.fits (r.gathered vs) = true := by cases r <;> rfl

/-- What a reduction has gathered becomes what is gathered with one more value. -/
theorem absorb_gathered {r : Reduction} {vs : List Value} {v : Value} {s : Accumulation} :
    r.absorb v (r.gathered vs) = .ok s ↔ r.takes v = true ∧ r.gathered (vs ++ [v]) = s := by
  cases r with
  | sum => cases v <;> simp [gathered, absorb, takes, Value.numbers_concat, Value.toFloat?]
  | avg => cases v <;> simp [gathered, absorb, takes, Value.numbers_concat, Value.toFloat?]
  | min => simp [gathered, absorb, takes]
  | max => simp [gathered, absorb, takes]
  | first =>
    cases h : vs.find? (!·.isMissing) with
    | some w =>
      have hw : w.isMissing = false := by simpa using List.find?_some h
      simp [gathered, absorb, takes, List.find?_append, h, hw]
    | none =>
      have hnone : Value.missing.isMissing = true := rfl
      cases hv : v.isMissing with
      | false => simp [gathered, absorb, takes, List.find?_append, h, hnone, hv]
      | true => simp [gathered, absorb, takes, List.find?_append, h, hnone, Value.isMissing_iff.1 hv]
  | last => cases h : v.isMissing <;> simp [gathered, absorb, takes, h]
  | addToSet => cases h : v.isNullish <;> simp [gathered, absorb, takes, h, addToItems_firsts]
  | push => cases h : v.isNullish <;> simp [gathered, absorb, takes, h]
  | concatToSet =>
    cases h : v.isNullish || v.kind = .array <;>
      simp [gathered, absorb, takes, itemsOf_eq, h, foldl_addToItems_firsts, Value.itemsIn_concat]
  | concatToList =>
    cases h : v.isNullish || v.kind = .array <;>
      simp [gathered, absorb, takes, itemsOf_eq, h, Value.itemsIn_concat]

/-- A reduction that looks at no further value would not change with one. -/
theorem absorb_of_isSettled {r : Reduction} {s : Accumulation} (h : r.isSettled s = true) (v : Value) :
    r.absorb v s = .ok s := by
  cases r with
  | first =>
    cases s with
    | first old => simp_all [isSettled, absorb]
    | _ => cases h
  | _ => cases s <;> cases h

end Reduction

namespace Accumulator

variable {scope : Scope} {r : Reduction} {source : Expr}

theorem settled_reduceStep {d : Document} {v : Value} {s t : Accumulation} (hv : source.eval d scope = .ok v)
    (hfits : r.fits s = true) :
    (reduceStep d scope r source s).settled = .ok t ↔ r.absorb v s = .ok t := by
  cases hsettled : r.isSettled s with
  | true => simp [reduceStep, hfits, hsettled, Outcome.settled_eq_ok, Reduction.absorb_of_isSettled hsettled]
  | false => cases h : r.absorb v s <;> simp [reduceStep, hfits, hsettled, hv, h, Outcome.settled_eq_ok]

theorem foldlM_reduceStep_eq_ok (r : Reduction) {ds : List Document} {vs : List Value}
    (hvs : List.Forall₂ (fun d v => source.eval d scope = .ok v) ds vs) (before : List Value) (s : Accumulation) :
    ds.foldlM (fun s d => (reduceStep d scope r source s).settled) (r.gathered before) = .ok s ↔
      (∀ v ∈ vs, r.takes v = true) ∧ r.gathered (before ++ vs) = s := by
  induction hvs generalizing before with
  | nil => simp
  | @cons d v ds vs hv _ ih =>
    rw [List.foldlM_cons, Except.bind_eq_ok, List.forall_mem_cons, and_assoc, List.append_cons, ← ih]
    simp only [settled_reduceStep hv (r.fits_gathered _), Reduction.absorb_gathered]
    constructor
    · rintro ⟨_, ⟨htakes, rfl⟩, hrest⟩
      exact ⟨htakes, hrest⟩
    · rintro ⟨htakes, hrest⟩
      exact ⟨_, ⟨htakes, rfl⟩, hrest⟩

/-- A reduction gathers what is told of the values of its source, if it can absorb all of them. -/
theorem gather_reduce_eq_ok {ds : List Document} {vs : List Value} {s : Accumulation}
    (hvs : ds.mapM (fun d => source.eval d scope) = .ok vs) :
    (reduce r source).gather scope ds = .ok s ↔ (∀ v ∈ vs, r.takes v = true) ∧ r.gathered vs = s := by
  have hfold := foldlM_reduceStep_eq_ok r (Except.mapM_eq_ok_iff.1 hvs) [] s
  rw [r.gathered_nil] at hfold
  exact hfold

end Accumulator

end DocFlow
