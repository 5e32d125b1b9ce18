import DocFlow.Proofs.Chain.Raised
import DocFlow.Proofs.Group.Cap
import DocFlow.Proofs.Group.Declared

/-!
# Accumulations in a pipeline

In every state that a chain reaches, each bucket of a group has gathered what it has from documents one after the other
(`Chain.grown_of_reachable`), and so it fits the accumulators.  Hence no call of a pipeline is answered that what has
been gathered does not fit, in whatever order the calls come and whichever of them fail (`Pipeline.answers_fit`).
-/

namespace DocFlow

open DocFlow.Except (FailsOnly)

/-- The error does not say that what has been gathered does not fit. -/
abbrev Error.OfFitting (e : Error) : Prop := ∀ scope operator, e ≠ .evaluation scope operator .stateMismatch

theorem Error.OfFitting.copy {e : Error} (h : e.OfFitting) : e.copy.OfFitting := by
  cases e with
  | host scope operator failure => exact nofun
  | _ => exact h

/-! ## Buckets -/

/-- The bucket has gathered what it has from some documents one after the other. -/
def Bucket.Grown (g : Grouping) (b : Bucket) : Prop := ∃ ds, b.parts = g.accumulated ds

namespace Buckets

variable {g : Grouping} {cap : Option Nat} {d : Document} {bs : Buckets}

/-- The key of a document fails, there is no room, or the document goes into a bucket that is there or is opened. -/
theorem add_cases (g : Grouping) (cap : Option Nat) (d : Document) (bs : Buckets) :
    (∃ e, g.keyOf d = .error e ∧ add g cap d bs = .failure bs e) ∨ add g cap d bs = .failure bs (overflow cap) ∨
    ∃ key b, (b.parts = g.initial ∨ ∃ k, (k, b) ∈ bs) ∧ add g cap d bs = addTo g d key b bs := by
  unfold add
  split
  · rename_i e he
    exact .inl ⟨e, he, rfl⟩
  · rename_i id hid
    split
    · rename_i b hb
      exact .inr (.inr ⟨id.key, b, .inr ⟨_, Entries.mem_of_get? hb⟩, rfl⟩)
    · split
      · exact .inr (.inl rfl)
      · exact .inr (.inr ⟨id.key, ⟨id, g.initial⟩, .inl rfl, rfl⟩)

theorem grown_of_add_cases {b : Bucket} (hbs : ∀ e ∈ bs, e.2.Grown g) (hb : b.parts = g.initial ∨ ∃ k, (k, b) ∈ bs) :
    b.Grown g := by
  rcases hb with hb | ⟨k, hb⟩
  · exact ⟨[], hb⟩
  · exact hbs _ hb

theorem grown_add (hbs : ∀ e ∈ bs, e.2.Grown g) : ∀ e ∈ (add g cap d bs).state, e.2.Grown g := by
  rcases add_cases g cap d bs with ⟨e, -, h⟩ | h | ⟨key, b, hb, h⟩ <;> rw [h]
  · exact hbs
  · exact hbs
  · obtain ⟨ds, hds⟩ := grown_of_add_cases hbs hb
    refine Entries.forall_mem_put (P := Bucket.Grown g) ⟨ds ++ [d], ?_⟩ hbs
    rw [Grouping.accumulated_concat, ← hds]

theorem failsOnly_add_of_grown (hbs : ∀ e ∈ bs, e.2.Grown g) : FailsOnly Error.OfFitting (add g cap d bs).answer := by
  rcases add_cases g cap d bs with ⟨e, he, h⟩ | h | ⟨key, b, hb, h⟩ <;> rw [h]
  · exact .error (GroupKey.failsOnly_eval d (Grouping.scopeOf "_id") g.key e he).ne_stateMismatch
  · exact .error fun _ _ he => nomatch (Error.evaluation.inj he).2.2
  · obtain ⟨ds, hds⟩ := grown_of_add_cases hbs hb
    have hfits := g.fitsAll_accumulated ds
    rw [← hds] at hfits
    exact (Grouping.failsOnly_step_of_fits hfits).imp fun _ => (·.ne_stateMismatch)

end Buckets

/-! ## Stages and chains -/

namespace Stage

/-- The buckets of a group have gathered what they have from documents one after the other. -/
def Grown : (s : Stage) → s.Memory → Prop
  | group g _, (bs : Buckets) => ∀ e ∈ bs, e.2.Grown g
  | _, _ => True

variable {s : Stage} {m : s.Memory}

theorem grown_initial (s : Stage) : s.Grown s.initial := by
  cases s with
  | group g cap => exact nofun
  | _ => trivial

theorem grown_push (d : Document) (h : s.Grown m) : s.Grown (s.push d m).state := by
  cases s with
  | group g cap => exact Buckets.grown_add h
  | _ => trivial

theorem grown_release (order : HandOut) (behind : Nat) (h : s.Grown m) : s.Grown (s.release order behind m).2 := by
  cases s with
  | group g cap => exact nofun
  | _ => trivial

theorem failsOnly_push_of_grown (d : Document) (h : s.Grown m) : FailsOnly Error.OfFitting (s.push d m).answer := by
  cases s with
  | group g cap => exact .bind (Buckets.failsOnly_add_of_grown h) fun _ _ => .ok _
  | _ =>
    refine (failsOnly_push_of_ne_group ?_ d m).imp fun _ => (·.ne_stateMismatch)
    exact nofun

end Stage

/-- In every state that a chain reaches, the buckets of its groups have gathered what they have from documents one after
the other. -/
theorem Chain.grown_of_reachable {stages : List Stage} {state : State stages} (h : Reachable stages state) :
    All (fun s station => s.Grown station.memory) stages state :=
  .of_reaches (fun _ d _ => Stage.grown_push d) (fun _ order behind _ => Stage.grown_release order behind) h
    (all_initial fun s _ => s.grown_initial)

/-! ## Pipelines -/

namespace Pipeline

open Chain (Reachable)

variable {p : Pipeline}

theorem failsOnly_feed_of_reachable (hp : Reachable p.stages p.state) (d : Document) :
    FailsOnly Error.OfFitting (p.feed d).answer := by
  have hchain : FailsOnly Error.OfFitting (Chain.feed p.stages d p.state).answer :=
    Chain.failsOnly_feed_of_all (fun _ d _ => Stage.grown_push d) (fun _ d _ => Stage.failsOnly_push_of_grown d) d
      (Chain.grown_of_reachable hp)
  refine (failsOnly_feed_of_chain hchain).imp ?_
  rintro e (⟨rfl, -⟩ | he)
  · exact nofun
  · exact he

theorem failsOnly_drain_of_reachable (hp : Reachable p.stages p.state) (order : HandOut) :
    FailsOnly Error.OfFitting (Chain.drain order p.stages p.state).answer :=
  Chain.failsOnly_drain_of_all (fun _ d _ => Stage.grown_push d) (fun _ d _ => Stage.failsOnly_push_of_grown d) order
    (Chain.grown_of_reachable hp)

/-- **What is gathered fits in every pipeline.**  However a pipeline that has been built is used, its buckets have
gathered what they have from documents one after the other, and no answer says that this does not fit. -/
theorem answers_fit {options : Options} {registry : Registry} {spec : Json} (hb : build options registry spec = .ok p)
    (calls : List Call) :
    Chain.All (fun s station => s.Grown station.memory) (p.afterAll calls).stages (p.afterAll calls).state ∧
    (∀ d, FailsOnly Error.OfFitting ((p.afterAll calls).feed d).answer) ∧
    ∀ order, FailsOnly Error.OfFitting ((p.afterAll calls).result order).answer := by
  obtain ⟨stages, rfl, -⟩ := parsed_of_build hb
  have hstart : Reachable (start stages).stages (start stages).state := Relation.ReflTransGen.refl
  have hreach := reachable_afterAll hstart
  refine ⟨Chain.grown_of_reachable (hreach calls), failsOnly_feed_of_reachable (hreach calls), fun order => ?_⟩
  cases ha : ((start stages).afterAll calls).answer with
  | none =>
    rw [result_of_unanswered ha]
    exact failsOnly_drain_of_reachable (hreach calls) order
  | some kept =>
    rw [result_of_answered ha]
    obtain ⟨before, first, rfl⟩ := exists_drain_of_answer rfl ha
    have hdrained := failsOnly_drain_of_reachable (hreach before) first
    exact failsOnly_copyAnswer (fun _ => .copy) (failsOnly_copyAnswer (fun _ => .copy) hdrained)

end Pipeline

end DocFlow
