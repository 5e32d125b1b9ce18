import DocFlow.Proofs.Group.Reduction

/-!
# What accumulators compute

The value that an accumulator stands for is told of a list of documents as a whole (`Accumulator.result?`): of a
reduction it is read off the values of its source, of an object it is the document of what its fields stand for.  The
extrema are told by what holds of them and not by a formula, and a reducer of the host program makes its value itself.

The value at the end of taking in the documents one after the other is that value (`Accumulator.finish_gathered`),
for objects nested to any depth.
-/

namespace DocFlow

open Value (numbers itemsIn firsts)

/-! ## Reductions -/

namespace Reduction

/-- The value that a reduction stands for, told of all values of its source. -/
def result? : Reduction → List Value → Option Value
  | sum, vs => some (.number ((numbers vs).foldl (· + ·) 0.0))
  | avg, vs => some (
    if numbers vs = [] then .null
    else .number ((numbers vs).foldl (· + ·) 0.0 / Float.ofNat (numbers vs).length))
  | min, _ => none
  | max, _ => none
  | first, vs => some ((vs.find? (!·.isMissing)).getD .null)
  | last, vs => some ((vs.reverse.find? (!·.isMissing)).getD .null)
  | addToSet, vs => some (.array (firsts (vs.filter (!·.isNullish))))
  | push, vs => some (.array (vs.filter (!·.isNullish)))
  | concatToSet, vs => some (.array (firsts (itemsIn vs)))
  | concatToList, vs => some (.array (itemsIn vs))

theorem orNull_find? (vs : List Value) :
    ((vs.find? (!·.isMissing)).getD .missing).orNull = (vs.find? (!·.isMissing)).getD .null := by
  cases h : vs.find? (!·.isMissing) with
  | none => rfl
  | some v => exact Value.orNull_of_isMissing (by simpa using List.find?_some h)

/-- What a reduction has gathered becomes the value that it stands for. -/
theorem result?_eq {r : Reduction} (hmin : r ≠ min) (hmax : r ≠ max) (source : Expr) (vs : List Value) :
    r.result? vs = some ((Accumulator.reduce r source).finish (r.gathered vs)) := by
  cases r with
  | sum => rfl
  | avg => simp [result?, gathered, Accumulator.finish]
  | min => exact absurd rfl hmin
  | max => exact absurd rfl hmax
  | first => simp only [result?, gathered, Accumulator.finish, orNull_find?]
  | last => simp only [result?, gathered, Accumulator.finish, orNull_find?]
  | addToSet => simp only [result?, gathered, Accumulator.finish, Value.values_keyed]
  | push => rfl
  | concatToSet => simp only [result?, gathered, Accumulator.finish, Value.values_keyed]
  | concatToList => rfl

end Reduction

/-! ## Accumulators -/

namespace Accumulator

section Result

variable (scope : Scope) (ds : List Document)

mutual

/-- The value that an accumulator stands for, told of all documents. -/
def result? : Accumulator → Option Value
  | reduce r source => do r.result? (← (ds.mapM fun d => source.eval d scope).toOption)
  | call _ => none
  | object fields => do return .document (Entries.ofList (← resultFields? fields))

/-- The values that the accumulators of fields stand for, under the names of the fields. -/
def resultFields? : List (String × Accumulator) → Option (Entries Value)
  | [] => some []
  | (key, a) :: rest => do return (key, ← result? a) :: (← resultFields? rest)

end

/-- The source of each reduction has a value in every document, and no extremum and no reducer of the host program
is part of the accumulator. -/
inductive Resolves : Accumulator → Prop
  | reduce {r : Reduction} {source : Expr} (hmin : r ≠ .min) (hmax : r ≠ .max)
    (h : ∀ d ∈ ds, ∃ v, source.eval d scope = .ok v) : Resolves (.reduce r source)
  | object {fields : List (String × Accumulator)} (h : ∀ f ∈ fields, Resolves f.2) : Resolves (.object fields)

end Result

variable {scope : Scope} {ds : List Document}

theorem resultFields?_eq {fields : List (String × Accumulator)} {parts : List Accumulation}
    (h : ∀ f ∈ fields, ∀ s, f.2.gather scope ds = .ok s → f.2.result? scope ds = some (f.2.finish s))
    (hparts : fields.mapM (fun field => field.2.gather scope ds) = .ok parts) :
    resultFields? scope ds fields =
      some (List.zipWith (fun field s => (field.1, field.2.finish s)) fields parts) := by
  induction fields generalizing parts with
  | nil => rfl
  | cons field fields ih =>
    obtain ⟨s, rest, hs, hrest, rfl⟩ := Except.mapM_cons_eq_ok.1 hparts
    obtain ⟨hfield, hfields⟩ := List.forall_mem_cons.1 h
    simp [resultFields?, hfield s hs, ih hfields hrest]

theorem keys_of_resultFields? {fields : List (String × Accumulator)} {entries : Entries Value}
    (h : resultFields? scope ds fields = some entries) : entries.keys = Entries.keys fields := by
  induction fields generalizing entries with
  | nil =>
    obtain rfl := Option.some.inj h
    rfl
  | cons field fields ih =>
    simp only [resultFields?, Option.bind_eq_bind, Option.bind_eq_some_iff] at h
    obtain ⟨v, -, rest, hrest, h⟩ := h
    obtain rfl := Option.some.inj h
    exact congrArg (field.1 :: ·) (ih hrest)

/-- If no two fields have one name, the document of an object holds their values in order. -/
theorem result?_object {fields : List (String × Accumulator)} (hd : Entries.Distinct fields) :
    (object fields).result? scope ds = (resultFields? scope ds fields).map .document := by
  cases h : resultFields? scope ds fields with
  | none => simp [result?, h]
  | some entries =>
    have hentries : entries.Distinct := (congrArg List.Nodup (keys_of_resultFields? h)).mpr hd
    simp [result?, h, Entries.ofList_of_distinct hentries]

/-- **What accumulators compute.**  If no document fails to be taken in and every source has a value in every
document, then the value at the end is the one that the accumulator stands for: the first or the last value that is
there, the list or the set of the values, the sum or the average of the numbers, and of an object the document of these
for its fields, in order. -/
theorem finish_gathered {a : Accumulator} {s : Accumulation} (ha : a.Resolves scope ds)
    (hs : a.gather scope ds = .ok s) : a.result? scope ds = some (a.finish s) := by
  induction ha generalizing s with
  | @reduce r source hmin hmax h =>
    obtain ⟨vs, hvs⟩ := Except.exists_mapM_eq_ok_iff.2 h
    obtain ⟨-, rfl⟩ := (gather_reduce_eq_ok hvs).1 hs
    rw [result?, hvs]
    exact Reduction.result?_eq hmin hmax source vs
  | object _ ih =>
    obtain ⟨parts, hparts, rfl⟩ := gather_object_eq_ok.1 hs
    rw [result?, resultFields?_eq (fun f hf s => ih f hf) hparts, finish, finishParts_eq]
    rfl

/-- An object in an object, over documents whose arrays overlap and of which one has no array. -/
theorem finish_gathered_nested :
    let text (name : String) : Expr := .operand (.field ⟨name, []⟩)
    let a : Accumulator := .object [("all", .reduce .push (text "v")),
      ("in", .object [("tags", .reduce .concatToSet (text "t")), ("n", .reduce .sum (text "n")),
        ("end", .reduce .last (text "v"))])]
    let ds : List Document := [⟨[("v", .string "x"), ("t", .array [.string "a", .string "b"]), ("n", .number 1.0)]⟩,
      ⟨[("v", .null), ("n", .number 2.0)]⟩, ⟨[("t", .array [.string "b", .null]), ("n", .string "y")]⟩]
    ∃ s, a.Resolves ⟨.group, "g"⟩ ds ∧ a.gather ⟨.group, "g"⟩ ds = .ok s ∧
      a.result? ⟨.group, "g"⟩ ds = some (a.finish s) ∧
      a.finish s = .document [("all", .array [.string "x"]), ("in", .document [
        ("tags", .array [.string "a", .string "b", .null]), ("n", .number 3.0), ("end", .null)])] := by
  intro text a ds
  have hreduce (r : Reduction) (name : String) (hmin : r ≠ .min) (hmax : r ≠ .max) :
      (reduce r (text name)).Resolves ⟨.group, "g"⟩ ds := .reduce hmin hmax fun d _ => ⟨_, rfl⟩
  have hresolves : a.Resolves ⟨.group, "g"⟩ ds := by
    refine .object (List.forall_mem_cons.2 ⟨hreduce .push "v" nofun nofun, List.forall_mem_singleton.2 (.object ?_)⟩)
    simp only [List.forall_mem_cons, List.not_mem_nil, false_imp_iff, implies_true, and_true]
    exact ⟨hreduce .concatToSet "t" nofun nofun, hreduce .sum "n" nofun nofun, hreduce .last "v" nofun nofun⟩
  refine ⟨_, hresolves, rfl, finish_gathered hresolves rfl, ?_⟩
  rfl

end Accumulator

end DocFlow
