import DocFlow.Group.Basic
import DocFlow.Proofs.Complete.Expr

/-!
# Groups that leave nothing missing

What an accumulator has gathered is tidy if all values in it are complete, but for a single value that may be missing
as a whole (`Accumulation.Tidy`).  Taking in a complete document keeps it so, whether or not the accumulator fails
(`Accumulator.Tidy`), and in the value at the end what is missing becomes null (`Accumulator.complete_finish`).  So
the documents of the buckets are complete.
-/

namespace DocFlow

open DocFlow.Except (Yields)

/-! ## What has been gathered -/

mutual

/-- The values gathered are complete, but for a single one that may be missing as a whole. -/
def Accumulation.Tidy : Accumulation → Prop
  | .sum _ => True
  | .average _ _ => True
  | .extremum v => v.Tidy
  | .first v => v.Tidy
  | .last v => v.Tidy
  | .set items => ∀ e ∈ items, e.2.Complete
  | .list items => ∀ v ∈ items, v.Complete
  | .call v => v.Tidy
  | .object parts => Accumulation.TidyParts parts

def Accumulation.TidyParts : List Accumulation → Prop
  | [] => True
  | s :: parts => s.Tidy ∧ Accumulation.TidyParts parts

end

namespace Reduction

variable {r : Reduction} {s : Accumulation} {v : Value}

theorem tidy_initial (r : Reduction) : r.initial.Tidy := by
  cases r <;> simp [initial, Accumulation.Tidy, Value.tidy_missing]

theorem tidy_keepBest {keep : Ordering} {best candidate : Value} (hbest : best.Tidy) (hcandidate : candidate.Tidy) :
    (keepBest keep best candidate).Tidy := by
  unfold keepBest
  split
  · exact hbest
  · split
    · exact hcandidate
    · exact hbest

/-- A tidy value that stands for a value is complete. -/
theorem complete_of_not_nullish (hv : v.Tidy) (h : ¬ v.isNullish = true) : v.Complete := by
  refine hv.complete ?_
  rintro rfl
  exact h rfl

theorem complete_itemsOf (hv : v.Tidy) : Yields (fun items => ∀ v ∈ items, v.Complete) (itemsOf v) := by
  unfold itemsOf
  split
  · exact .ok (Value.complete_array_iff.1 (hv.complete nofun))
  · exact .ok nofun
  · exact .ok nofun
  · exact .error _

theorem complete_addToItems {items : Entries Value} (hitems : ∀ e ∈ items, e.2.Complete) (hv : v.Complete) :
    ∀ e ∈ addToItems items v, e.2.Complete := by
  unfold addToItems Entries.addNew
  split
  · exact hitems
  · exact List.forall_mem_append.2 ⟨hitems, List.forall_mem_singleton.2 hv⟩

theorem complete_foldl_addToItems {items : Entries Value} {vs : List Value} (hitems : ∀ e ∈ items, e.2.Complete)
    (hvs : ∀ v ∈ vs, v.Complete) : ∀ e ∈ vs.foldl addToItems items, e.2.Complete := by
  induction vs generalizing items with
  | nil => exact hitems
  | cons v vs ih =>
    obtain ⟨hv, hvs⟩ := List.forall_mem_cons.1 hvs
    exact ih (complete_addToItems hitems hv) hvs

/-- Absorbing a tidy value keeps what has been gathered tidy. -/
theorem tidy_absorb (hs : s.Tidy) (hv : v.Tidy) : Yields Accumulation.Tidy (r.absorb v s) := by
  unfold absorb
  split
  · refine .ok ?_
    split <;> trivial
  · refine .ok ?_
    split <;> trivial
  · exact .ok (tidy_keepBest hs hv)
  · exact .ok (tidy_keepBest hs hv)
  · refine .ok ?_
    split
    · exact hv
    · exact hs
  · refine .ok ?_
    split
    · exact hs
    · exact hv
  · refine .ok ?_
    split
    · exact hs
    · rename_i hthere
      exact complete_addToItems hs (complete_of_not_nullish hv hthere)
  · refine .ok ?_
    split
    · exact hs
    · rename_i hthere
      exact List.forall_mem_append.2 ⟨hs, List.forall_mem_singleton.2 (complete_of_not_nullish hv hthere)⟩
  · exact .bind fun vs hvs => .ok (complete_foldl_addToItems hs (complete_itemsOf hv vs hvs))
  · exact .bind fun vs hvs => .ok (List.forall_mem_append.2 ⟨hs, complete_itemsOf hv vs hvs⟩)
  · exact .error _

end Reduction

/-! ## Accumulators -/

namespace Accumulator

variable {ctx : Context} {scope : Scope} {d : Document}

/-- What the accumulator has gathered stays tidy when it takes in a complete document, also if it fails. -/
def Tidy (a : Accumulator) : Prop :=
  ∀ ⦃d⦄ scope ⦃s⦄, d.Complete → s.Tidy → (a.step d scope s).state.Tidy

mutual

theorem tidy_initial (a : Accumulator) : a.initial.Tidy := by
  cases a with
  | reduce r source => exact r.tidy_initial
  | call f => exact Value.tidy_missing
  | object fields => exact tidy_initialParts fields

theorem tidy_initialParts (fields : List (String × Accumulator)) :
    Accumulation.TidyParts (initialParts fields) := by
  match fields with
  | [] => trivial
  | (_, a) :: fields => exact ⟨tidy_initial a, tidy_initialParts fields⟩

end

theorem tidy_reduce {r : Reduction} {source : Expr} (h : source.Tidy) : (reduce r source).Tidy := by
  intro d scope s hd hs
  change (reduceStep d scope r source s).state.Tidy
  unfold reduceStep
  split
  · exact hs
  · split
    · exact hs
    · split
      · exact hs
      · rename_i v hv
        split
        · exact hs
        · rename_i next hnext
          exact Reduction.tidy_absorb hs (h scope hd v hv) next hnext

theorem tidy_call {f : Named Reducer} (h : ∀ v d w, f.run v d = .ok w → w.Tidy) : (call f).Tidy := by
  intro d scope s _ hs
  cases s with
  | call v =>
    simp only [step]
    split
    · exact hs
    · rename_i w hw
      unfold Scope.call at hw
      split at hw
      · rename_i hrun
        obtain rfl := Except.ok.inj hw
        exact h v d _ hrun
      · cases hw
  | _ => exact hs

theorem tidy_stepAll {scopeOf : String → Scope} {fields : List (String × Accumulator)} {parts : List Accumulation}
    (hd : d.Complete) (hfields : ∀ f ∈ fields, f.2.Tidy) (hparts : Accumulation.TidyParts parts) :
    Accumulation.TidyParts (stepAll d scopeOf fields parts).state := by
  induction fields generalizing parts with
  | nil =>
    cases parts <;> exact hparts
  | cons f fields ih =>
    cases parts with
    | nil => exact hparts
    | cons s parts =>
      obtain ⟨hf, hfields⟩ := List.forall_mem_cons.1 hfields
      obtain ⟨hs, hparts⟩ := hparts
      have hs := hf (scopeOf f.1) hd hs
      unfold stepAll
      dsimp only
      split
      · exact ⟨hs, hparts⟩
      · exact ⟨hs, ih hfields hparts⟩

theorem tidy_object {fields : List (String × Accumulator)} (h : ∀ f ∈ fields, f.2.Tidy) : (object fields).Tidy := by
  intro d scope s hd hs
  cases s with
  | object parts =>
    rw [step_object]
    exact tidy_stepAll hd h hs
  | _ => exact hs

/-! ## Accumulators that are read -/

theorem tidy_parseOperator (hr : ctx.registry.Tidy) {name : String} {arg : Json} :
    Yields Tidy (parseOperator scope ctx name arg) := by
  unfold parseOperator
  split
  · refine .bind fun f hf => .ok (tidy_call ?_)
    exact hr.reducers _ (Argument.exists_of_function hf)
  · refine .bind fun source hsource => ?_
    have hsource := Expr.tidy_parse hr arg scope source hsource
    split
    · exact .error _
    · split
      · split
        · exact .error _
        · exact .ok (tidy_reduce hsource)
      · exact .ok (tidy_reduce hsource)

theorem tidy_parseMembers {scopeOf : String → Scope} {members : List (String × Json)}
    (h : ∀ m ∈ members, ∀ scope, Yields Tidy (parse scope ctx m.2)) :
    Yields (fun fields => ∀ f ∈ fields, f.2.Tidy) (parseMembers scopeOf ctx members) := by
  induction members with
  | nil => exact .ok nofun
  | cons m members ih =>
    obtain ⟨hm, hmembers⟩ := List.forall_mem_cons.1 h
    exact .bind fun a ha => .bind fun fields hfields =>
      .ok (List.forall_mem_cons.2 ⟨hm (scopeOf m.1) a ha, ih hmembers fields hfields⟩)

theorem tidy_parse (hr : ctx.registry.Tidy) (j : Json) : ∀ scope, Yields Tidy (parse scope ctx j) := by
  induction j using Json.inside_induction with
  | step j hpart =>
    intro scope
    unfold parse
    split
    · split
      · exact tidy_parseOperator hr
      · split
        · refine .bind fun fields hfields => .ok (tidy_object ?_)
          exact tidy_parseMembers (fun m hm => hpart m.2 (.member hm)) fields hfields
        · exact .error _
    · exact .error _

/-! ## The value at the end -/

mutual

theorem complete_finish (a : Accumulator) (s : Accumulation) (hs : s.Tidy) : (finish a s).Complete := by
  cases s with
  | sum total =>
    rw [finish]
    rfl
  | average total count =>
    rw [finish]
    split <;> rfl
  | extremum v =>
    rw [finish]
    exact Value.Tidy.orNull hs
  | first v =>
    rw [finish]
    exact Value.Tidy.orNull hs
  | last v =>
    rw [finish]
    exact Value.Tidy.orNull hs
  | call v =>
    rw [finish]
    exact Value.Tidy.orNull hs
  | set items =>
    rw [finish]
    refine Value.complete_array_iff.2 fun v hv => ?_
    obtain ⟨e, he, rfl⟩ := List.mem_map.1 hv
    exact hs e he
  | list items =>
    rw [finish]
    exact Value.complete_array_iff.2 hs
  | object parts =>
    cases a with
    | object fields =>
      exact Value.complete_document_iff.2 (complete_finishParts Fields.complete_nil fields parts hs)
    | _ => rfl

theorem complete_finishParts {done : Entries Value} (hdone : Fields.Complete done)
    (fields : List (String × Accumulator)) (parts : List Accumulation) (hparts : Accumulation.TidyParts parts) :
    Fields.Complete (finishParts done fields parts) := by
  match fields, parts with
  | [], _ => exact hdone
  | _ :: _, [] => exact hdone
  | (key, a) :: fields, s :: parts =>
    obtain ⟨hs, hparts⟩ := hparts
    exact complete_finishParts (hdone.put (complete_finish a s hs)) fields parts hparts

end

end Accumulator

/-! ## Groups -/

/-- The key of the bucket is complete, and what its accumulators have gathered is tidy. -/
structure Bucket.Complete (b : Bucket) : Prop where
  id : b.id.Complete
  parts : Accumulation.TidyParts b.parts

namespace Grouping

variable {ctx : Context} {g : Grouping} {d : Document}

structure Tidy (g : Grouping) : Prop where
  key : g.key.Complete
  fields : ∀ f ∈ g.fields, f.2.Tidy

theorem tidy_parse (hr : ctx.registry.Tidy) {j : Json} : Yields Tidy (parse ctx j) := by
  unfold parse
  split
  · split
    · exact .error _
    · refine .bind fun key hkey => .bind fun fields hfields => .ok ⟨GroupKey.complete_parse hr _ _ key hkey, ?_⟩
      exact Accumulator.tidy_parseMembers (fun m _ => Accumulator.tidy_parse hr m.2) fields hfields
  · exact .error _

theorem tidy_step {parts : List Accumulation} (hg : g.Tidy) (hd : d.Complete) (hparts : Accumulation.TidyParts parts) :
    Accumulation.TidyParts (g.step d parts).state := Accumulator.tidy_stepAll hd hg.fields hparts

/-- The document of a complete bucket is complete. -/
theorem complete_finish {b : Bucket} (hb : b.Complete) : (g.finish b).Complete :=
  Accumulator.complete_finishParts (List.forall_mem_singleton.2 hb.id) g.fields b.parts hb.parts

end Grouping

namespace Buckets

variable {g : Grouping} {cap : Option Nat} {d : Document} {bs : Buckets}

def Complete (bs : Buckets) : Prop := ∀ e ∈ bs, e.2.Complete

theorem complete_addTo {key : String} {b : Bucket} (hg : g.Tidy) (hd : d.Complete) (hb : b.Complete)
    (hbs : bs.Complete) : (addTo g d key b bs).state.Complete :=
  Entries.forall_mem_put (P := Bucket.Complete) ⟨hb.id, Grouping.tidy_step hg hd hb.parts⟩ hbs

/-- Taking in a complete document keeps the buckets complete, also if it fails. -/
theorem complete_add (hg : g.Tidy) (hd : d.Complete) (hbs : bs.Complete) : (add g cap d bs).state.Complete := by
  unfold add
  split
  · exact hbs
  · rename_i id hid
    split
    · rename_i b hb
      exact complete_addTo hg hd (hbs _ (Entries.mem_of_get? hb)) hbs
    · split
      · exact hbs
      · exact complete_addTo hg hd ⟨hg.key _ hd id hid, Accumulator.tidy_initialParts g.fields⟩ hbs

end Buckets

end DocFlow
