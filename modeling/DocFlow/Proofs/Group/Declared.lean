import DocFlow.Proofs.Group.Fit
import DocFlow.Proofs.Group.Reading
import DocFlow.Proofs.Json.Distinct
import DocFlow.Proofs.Json.Inside

/-!
# The fields of the documents of a group

A specification of a group declares the fields of its documents: the key first and then its other members in their
order, where an object of accumulators declares the fields of a document of its own (`Grouping.Declares`).  Where what
the accumulators have gathered fits them, each of them gives its field (`Accumulator.declares_finish`).

A bucket takes in documents one after the other, of which each may fail (`Grouping.accumulated`).  What it has gathered
fits at any time, so its document has the fields that are declared (`Grouping.accumulated_fits`).
-/

namespace DocFlow

open DocFlow.Except (FailsOnly)
open DocFlow.Error (RaisedComputing)

namespace Accumulator

/-! ## Declared fields -/

mutual

/-- The value has the form that the specification of an accumulator declares: of an object of accumulators it is a
document with just these fields. -/
inductive Declares : Json → Value → Prop
  | operator {members : Entries Json} {v : Value} (h : (singleOperator? members).isSome = true) :
    Declares (.object members) v
  | object {members : Entries Json} {fields : Entries Value} (h : singleOperator? members = none)
    (hfields : DeclaresAll members fields) : Declares (.object members) (.document fields)

/-- The fields are those that the members of a specification declare, in their order. -/
inductive DeclaresAll : Entries Json → Entries Value → Prop
  | nil : DeclaresAll [] []
  | cons {key : String} {j : Json} {v : Value} {members : Entries Json} {fields : Entries Value} (h : Declares j v)
    (hrest : DeclaresAll members fields) : DeclaresAll ((key, j) :: members) ((key, v) :: fields)

end

variable {ctx : Context} {scopeOf : String → Scope} {members : Entries Json} {fields : List (String × Accumulator)}
  {parts : List Accumulation}

/-! ## The value at the end -/

/-- The values of what accumulators have gathered, under the names of their fields. -/
def finished (fields : List (String × Accumulator)) (parts : List Accumulation) : Entries Value :=
  List.zipWith (fun field s => (field.1, field.2.finish s)) fields parts

theorem FitsAll.keys_finished (h : FitsAll fields parts) : (finished fields parts).keys = Entries.keys fields := by
  induction fields generalizing parts with
  | nil => rfl
  | cons field fields ih =>
    cases h with
    | @cons key _ _ _ _ _ hrest => exact congrArg (key :: ·) (ih hrest)

/-- Behind fields of other names, the values stand one by one. -/
theorem finishParts_of_distinct {done : Entries Value} (hd : Entries.Distinct (done ++ finished fields parts)) :
    finishParts done fields parts = done ++ finished fields parts := by
  have hdone : done.Distinct := hd.sublist ((List.sublist_append_left done _).map Prod.fst)
  have hstart : done.foldl (fun acc e => Entries.put e.1 e.2 acc) [] = done := Entries.ofList_of_distinct hdone
  rw [finishParts_eq, ← Entries.ofList_of_distinct hd, Entries.ofList, List.foldl_append, hstart]
  rfl

theorem declaresAll_finished
    (hmember : ∀ m ∈ members, ∀ scope a s, parse scope ctx m.2 = .ok a → Fits a s → Declares m.2 (a.finish s))
    (hread : members.ReadFrom (fun key => parse (scopeOf key) ctx) fields) (h : FitsAll fields parts) :
    DeclaresAll members (finished fields parts) := by
  induction hread generalizing parts with
  | nil => exact .nil
  | cons hparse _ ih =>
    obtain ⟨hm, hmembers⟩ := List.forall_mem_cons.1 hmember
    cases h with
    | cons h hrest => exact .cons (hm _ _ _ hparse h) (ih hmembers hrest)

/-- The value of what fits an accumulator has the form that is declared, at any depth. -/
theorem declares_finish (j : Json) (hj : j.isDistinct = true) :
    ∀ scope a s, parse scope ctx j = .ok a → Fits a s → Declares j (a.finish s) := by
  induction j using Json.inside_induction with
  | step j hinside =>
    intro scope a s ha hs
    obtain ⟨members, rfl, hoperator | ⟨hnone, fields, rfl, hread⟩⟩ := parse_cases ha
    · exact .operator hoperator
    · obtain ⟨hdistinct, hj⟩ := Json.isDistinct_object_iff.1 hj
      cases hs with
      | object h =>
        -- no key stands twice, so no value takes the place of one before it
        have hfields : Entries.Distinct ([] ++ finished fields _) :=
          (congrArg List.Nodup (h.keys_finished.trans hread.keys_eq)).mpr hdistinct
        rw [finish, finishParts_of_distinct hfields]
        exact .object hnone (declaresAll_finished (fun m hm => hinside m.2 (.member hm) (hj m hm)) hread h)

end Accumulator

namespace Grouping

open Accumulator (FitsAll TakesAll DeclaresAll)

variable {ctx : Context} {g : Grouping} {j : Json}

/-- The document has the form that the specification of a group declares: it has the key as `_id` and then just the
fields that the other members declare, in their order. -/
def Declares (j : Json) (id : Value) (d : Document) : Prop :=
  ∃ members fields, j = .object members ∧ d = ⟨("_id", id) :: fields⟩ ∧
    DeclaresAll (Entries.erase "_id" members) fields

/-- Where what a bucket has gathered fits, its document has the form that is declared. -/
theorem declares_finish (hg : parse ctx j = .ok g) (hj : j.isDistinct = true) {b : Bucket}
    (hb : FitsAll g.fields b.parts) : Declares j b.id (g.finish b) := by
  obtain ⟨members, rfl, hread⟩ := readFrom_of_parse hg
  obtain ⟨hdistinct, hj⟩ := Json.isDistinct_object_iff.1 hj
  have hkeys := hb.keys_finished.trans hread.keys_eq
  have hfields : Entries.Distinct ([("_id", b.id)] ++ Accumulator.finished g.fields b.parts) := by
    -- the key of the group is read from the member `_id`, so none of the other fields has this name
    refine List.nodup_cons.2 ⟨?_, (congrArg List.Nodup hkeys).mpr (Entries.distinct_erase hdistinct)⟩
    have hid := Entries.get?_eq_none_iff.1 (Entries.get?_erase_self "_id" members)
    rwa [← hkeys] at hid
  refine ⟨members, _, rfl, congrArg Document.mk (Accumulator.finishParts_of_distinct hfields), ?_⟩
  refine Accumulator.declaresAll_finished (fun m hm => ?_) hread hb
  exact Accumulator.declares_finish m.2 (Entries.forall_mem_erase (P := (·.isDistinct = true)) hj m hm)

/-! ## A bucket over documents -/

/-- What the accumulators of a bucket have gathered from documents one after the other; of one that fails they keep what
they have gathered up to there. -/
def accumulated (g : Grouping) (ds : List Document) : List Accumulation :=
  ds.foldl (fun parts d => (g.step d parts).state) g.initial

theorem accumulated_concat (g : Grouping) (ds : List Document) (d : Document) :
    g.accumulated (ds ++ [d]) = (g.step d (g.accumulated ds)).state := by
  rw [accumulated, List.foldl_append]
  rfl

theorem fitsAll_accumulated (g : Grouping) (ds : List Document) : FitsAll g.fields (g.accumulated ds) := by
  induction ds using List.reverseRecOn with
  | nil => exact Accumulator.fitsAll_initialParts g.fields
  | append_singleton ds d ih =>
    rw [accumulated_concat]
    exact ih.state_stepAll d scopeOf

theorem failsOnly_step_of_fits {d : Document} {parts : List Accumulation} (h : FitsAll g.fields parts) :
    FailsOnly (RaisedComputing .group) (g.step d parts).answer := h.failsOnly_stepAll d scopeOf fun _ => rfl

/-- **What is gathered always fits.**  A bucket of a group that has been read takes in documents one after the other,
also such as fail.  What it has gathered then fits the accumulators one by one, at every depth.  So for one more document
no error says that it does not fit, and the document is taken in without an error if and only if all fields take it in.
The document of the bucket has the key first and then just the declared fields in their order, if no object of the
specification holds a key twice; none does that is read from a text (`Json.isDistinct_of_parse`). -/
theorem accumulated_fits (hg : parse ctx j = .ok g) (ds : List Document) :
    let parts := g.accumulated ds
    FitsAll g.fields parts ∧
    (∀ d, (∀ scope operator, (g.step d parts).answer ≠ .error (.evaluation scope operator .stateMismatch)) ∧
      ∀ parts', g.step d parts = .success parts' () ↔ TakesAll d scopeOf g.fields parts parts') ∧
    (j.isDistinct = true → ∀ id, Declares j id (g.finish ⟨id, parts⟩)) := by
  intro parts
  have hfits : FitsAll g.fields parts := g.fitsAll_accumulated ds
  refine ⟨hfits, fun d => ⟨fun scope operator he => ?_, fun parts' => ?_⟩, fun hj id => declares_finish hg hj hfits⟩
  · exact (failsOnly_step_of_fits hfits _ he).ne_stateMismatch scope operator rfl
  · exact hfits.stepAll_eq_success_iff

/-- The second document fails in the object, behind a field that takes it in. -/
theorem accumulated_fits_nested :
    let spec : Json := .object [("n", .object [("$sum", .number (.int 1))]), ("_id", .string "$k"),
      ("in", .object [
        ("all", .object [("$push", .string "$v")]), ("list", .object [("$concatToList", .string "$v")])]),
      ("end", .object [("$last", .string "$v")])]
    let source : Expr := .operand (.field ⟨"v", []⟩)
    let g : Grouping := ⟨.computed (.operand (.field ⟨"k", []⟩)),
      [("n", .reduce .sum (.operand (.literal (.number 1.0)))),
        ("in", .object [("all", .reduce .push source), ("list", .reduce .concatToList source)]),
        ("end", .reduce .last source)]⟩
    let d : Document := ⟨[("v", .array [.string "x"])]⟩
    let bad : Document := ⟨[("v", .string "y")]⟩
    let parts : List Accumulation := [.sum 2.0,
      .object [.list [.array [.string "x"], .string "y"], .list [.string "x"]], .last (.array [.string "x"])]
    parse .default spec = .ok g ∧ spec.isDistinct = true ∧
      (g.step bad (g.accumulated [d])).answer =
        .error (.evaluation ⟨.group, "in"⟩ "$concatToList" (.sourceNotArray .string)) ∧
      g.accumulated [d, bad] = parts ∧ FitsAll g.fields parts ∧
      (∀ scope operator, (g.step bad parts).answer ≠ .error (.evaluation scope operator .stateMismatch)) ∧
      TakesAll d scopeOf g.fields parts (g.step d parts).state ∧
      Declares spec (.string "a") ⟨[("_id", .string "a"), ("n", .number 2.0),
        ("in", .document [("all", .array [.array [.string "x"], .string "y"]), ("list", .array [.string "x"])]),
        ("end", .array [.string "x"])]⟩ := by
  intro spec source g d bad parts
  have hg : parse .default spec = .ok g := rfl
  have hspec : spec.isDistinct = true := by decide +kernel
  have hparts : g.accumulated [d, bad] = parts := rfl
  obtain ⟨hfits, hstep, hdeclares⟩ := accumulated_fits hg [d, bad]
  rw [hparts] at hfits hstep hdeclares
  exact ⟨hg, hspec, rfl, hparts, hfits, (hstep bad).1, ((hstep d).2 _).1 rfl, hdeclares hspec (.string "a")⟩

end Grouping

end DocFlow
