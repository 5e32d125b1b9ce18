import DocFlow.Group.Basic
import DocFlow.Proofs.Outcome
import Mathlib.Data.List.Induction

/-!
# Accumulators over a list of documents

`Accumulator.gather` folds one accumulator over a list of documents.  The accumulators of fields, which
take in each document one after the other, gather what each of them gathers by itself
(`mapM_gather_concat`), whether they are those of a grouping (`gatherAll_concat`) or of an object
(`gather_object_eq_ok`).  The document of a grouping holds the value of each at the end (`summary_eq`).
-/

namespace DocFlow

/-- What an accumulator has gathered from a list of documents, if it takes them all in. -/
def Accumulator.gather (scope : Scope) (a : Accumulator) (ds : List Document) :
    Except Error Accumulation := ds.foldlM (fun s d => (a.step d scope s).settled) a.initial

theorem Accumulator.gather_concat (scope : Scope) (a : Accumulator) (ds : List Document)
    (d : Document) :
    a.gather scope (ds ++ [d]) = a.gather scope ds >>= fun s => (a.step d scope s).settled := by
  unfold gather
  rw [List.foldlM_append]
  simp only [List.foldlM_cons, List.foldlM_nil, bind_pure]

/-! ## The accumulators of fields -/

namespace Accumulator

variable {scopeOf : String → Scope} {fields : List (String × Accumulator)} {d : Document} {ds : List Document}

theorem mapM_gather_nil (scopeOf : String → Scope) (fields : List (String × Accumulator)) :
    fields.mapM (fun field => field.2.gather (scopeOf field.1) []) = .ok (initialParts fields) := by
  induction fields with
  | nil => rfl
  | cons field fields ih => exact Except.mapM_cons_eq_ok.2 ⟨_, _, rfl, ih, rfl⟩

theorem settled_stepAll_cons {field : String × Accumulator} {s : Accumulation} {parts next : List Accumulation} :
    (stepAll d scopeOf (field :: fields) (s :: parts)).settled = .ok next ↔
      ∃ t rest, (field.2.step d (scopeOf field.1) s).settled = .ok t ∧
        (stepAll d scopeOf fields parts).settled = .ok rest ∧ t :: rest = next := by
  simp only [Outcome.settled_eq_ok]
  cases ho : (field.2.step d (scopeOf field.1) s).answer with
  | error e => simp [stepAll_cons_of_error ho]
  | ok _ => simp [stepAll_cons_of_ok ho, eq_comm]

/-- With one more document, each accumulator takes it in after those before. -/
theorem mapM_gather_concat (scopeOf : String → Scope) {parts : List Accumulation} :
    fields.mapM (fun field => field.2.gather (scopeOf field.1) (ds ++ [d])) = .ok parts ↔
      ∃ before, fields.mapM (fun field => field.2.gather (scopeOf field.1) ds) = .ok before ∧
        (stepAll d scopeOf fields before).settled = .ok parts := by
  induction fields generalizing parts with
  | nil => simp [stepAll, Outcome.settled_eq_ok, Outcome.success]
  | cons field fields ih =>
    constructor
    · intro h
      obtain ⟨t, rest, ht, hrest, rfl⟩ := Except.mapM_cons_eq_ok.1 h
      rw [gather_concat] at ht
      obtain ⟨s, hs, ht⟩ := Except.bind_eq_ok.1 ht
      obtain ⟨before, hbefore, hrest⟩ := ih.1 hrest
      exact ⟨s :: before, Except.mapM_cons_eq_ok.2 ⟨s, before, hs, hbefore, rfl⟩,
        settled_stepAll_cons.2 ⟨t, rest, ht, hrest, rfl⟩⟩
    · rintro ⟨_, h, hstep⟩
      obtain ⟨s, before, hs, hbefore, rfl⟩ := Except.mapM_cons_eq_ok.1 h
      obtain ⟨t, rest, ht, hrest, rfl⟩ := settled_stepAll_cons.1 hstep
      refine Except.mapM_cons_eq_ok.2 ⟨t, rest, ?_, ih.2 ⟨before, hbefore, hrest⟩, rfl⟩
      rw [gather_concat]
      exact Except.bind_eq_ok.2 ⟨s, hs, ht⟩

/-- An object gathers what the accumulators of its fields gather, each by itself. -/
theorem gather_object_eq_ok {scope : Scope} {s : Accumulation} : (object fields).gather scope ds = .ok s ↔
    ∃ parts, fields.mapM (fun field => field.2.gather scope ds) = .ok parts ∧ s = .object parts := by
  induction ds using List.reverseRecOn generalizing s with
  | nil =>
    have hnil : (object fields).gather scope [] = .ok (.object (initialParts fields)) := rfl
    simp [hnil, mapM_gather_nil fun _ => scope, eq_comm]
  | append_singleton ds d ih =>
    rw [gather_concat, Except.bind_eq_ok]
    constructor
    · rintro ⟨before, hbefore, hstep⟩
      obtain ⟨before, hall, rfl⟩ := ih.1 hbefore
      rw [step_object, Outcome.settled_within_eq_ok] at hstep
      obtain ⟨parts, hparts, rfl⟩ := hstep
      exact ⟨parts, (mapM_gather_concat fun _ => scope).2 ⟨before, hall, hparts⟩, rfl⟩
    · rintro ⟨parts, hall, rfl⟩
      obtain ⟨before, hall, hparts⟩ := (mapM_gather_concat fun _ => scope).1 hall
      refine ⟨.object before, ih.2 ⟨before, hall, rfl⟩, ?_⟩
      rw [step_object, Outcome.settled_within_eq_ok]
      exact ⟨parts, hparts, rfl⟩

end Accumulator

namespace Grouping

open Accumulator (mapM_gather_nil mapM_gather_concat)

/-- What the accumulators of a grouping have gathered from a list of documents, each by itself. -/
def gatherAll (g : Grouping) (ds : List Document) : Except Error (List Accumulation) :=
  g.fields.mapM fun field => field.2.gather (scopeOf field.1) ds

theorem gatherAll_nil (g : Grouping) : g.gatherAll [] = .ok g.initial := mapM_gather_nil scopeOf g.fields

theorem gatherAll_concat {g : Grouping} {ds : List Document} {d : Document}
    {parts : List Accumulation} :
    g.gatherAll (ds ++ [d]) = .ok parts ↔
      ∃ before, g.gatherAll ds = .ok before ∧ (g.step d before).settled = .ok parts := mapM_gather_concat scopeOf

/-! ## The document at the end -/

/-- The document of a list of documents: the key of the first, and for each field the value of what
its accumulator gathers from the whole list. -/
def summary (g : Grouping) : List Document → Except Error Document
  | [] => .ok .empty
  | first :: rest => do
    let id ← g.keyOf first
    let fields ← g.fields.mapM fun (key, a) => do
      return (key, a.finish (← a.gather (scopeOf key) (first :: rest)))
    return ⟨Entries.ofList (("_id", id) :: fields)⟩

end Grouping

theorem Accumulator.finishParts_eq (done : Entries Value) (fields : List (String × Accumulator))
    (parts : List Accumulation) : finishParts done fields parts =
      (List.zipWith (fun field s => (field.1, field.2.finish s)) fields parts).foldl
        (fun acc e => Entries.put e.1 e.2 acc) done := by
  induction fields generalizing done parts with
  | nil => cases parts <;> simp [finishParts]
  | cons field fields ih => cases parts <;> simp [finishParts, ih]

theorem Accumulator.mapM_finish_gather {scope : String → Scope} {ds : List Document}
    {fields : List (String × Accumulator)} {parts : List Accumulation}
    (hparts : fields.mapM (fun field => field.2.gather (scope field.1) ds) = .ok parts) :
    fields.mapM (fun (key, a) => do return (key, a.finish (← a.gather (scope key) ds))) =
      .ok (List.zipWith (fun field s => (field.1, field.2.finish s)) fields parts) := by
  induction fields generalizing parts with
  | nil => rfl
  | cons field fields ih =>
    obtain ⟨s, rest, hs, hrest, rfl⟩ := Except.mapM_cons_eq_ok.1 hparts
    exact Except.mapM_cons_eq_ok.2 ⟨(field.1, field.2.finish s), _, by simp [hs], ih hrest, rfl⟩

/-- The document of a bucket that has gathered a list of documents. -/
theorem Grouping.summary_eq {g : Grouping} {b : Bucket} {first : Document} {rest : List Document}
    (hid : g.keyOf first = .ok b.id) (hparts : g.gatherAll (first :: rest) = .ok b.parts) :
    g.summary (first :: rest) = .ok (g.finish b) := by
  simp only [summary, hid, Accumulator.mapM_finish_gather hparts, Except.ok_bind, finish, Accumulator.finishParts_eq]
  rfl

/-! ## Buckets -/

/-- The buckets with documents taken in one after the other, if none fails. -/
def Buckets.addAll (g : Grouping) (cap : Option Nat) (ds : List Document) (bs : Buckets) :
    Except Error Buckets := ds.foldlM (fun bs d => (Buckets.add g cap d bs).settled) bs

end DocFlow
