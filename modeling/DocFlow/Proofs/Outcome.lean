import DocFlow.Outcome
import Mathlib.Data.List.Perm.Basic

/-!
# Computations that may fail

How a computation that may fail goes on after a step, and what is known of its steps if it succeeds.
`Outcome.settled` reads an outcome as such a computation, which forgets the state of a step that
failed.
-/

namespace DocFlow

namespace Except

variable {ε α β : Type}

@[simp] theorem ok_bind (a : α) (f : α → Except ε β) : (Except.ok a >>= f) = f a := rfl

@[simp] theorem error_bind (e : ε) (f : α → Except ε β) : (Except.error e >>= f) = .error e := rfl

@[simp] theorem pure_eq_ok (a : α) : (pure a : Except ε α) = .ok a := rfl

theorem bind_eq_ok {x : Except ε α} {f : α → Except ε β} {b : β} :
    (x >>= f) = .ok b ↔ ∃ a, x = .ok a ∧ f a = .ok b := by
  cases x <;> simp

/-! ## Lists -/

theorem mapM_cons_eq_ok {f : α → Except ε β} {a : α} {as : List α} {bs : List β} :
    (a :: as).mapM f = .ok bs ↔ ∃ b cs, f a = .ok b ∧ as.mapM f = .ok cs ∧ b :: cs = bs := by
  rw [List.mapM_cons, bind_eq_ok]
  constructor
  · rintro ⟨b, hb, h⟩
    obtain ⟨cs, hcs, h⟩ := bind_eq_ok.1 h
    exact ⟨b, cs, hb, hcs, Except.ok.inj h⟩
  · rintro ⟨b, cs, hb, hcs, rfl⟩
    exact ⟨b, hb, bind_eq_ok.2 ⟨cs, hcs, rfl⟩⟩

/-- A computation over a list succeeds with the results of its items. -/
theorem mapM_eq_ok_iff {f : α → Except ε β} {as : List α} {bs : List β} :
    as.mapM f = .ok bs ↔ List.Forall₂ (fun a b => f a = .ok b) as bs := by
  induction as generalizing bs with
  | nil =>
    rw [List.mapM_nil, List.forall₂_nil_left_iff, pure_eq_ok]
    exact ⟨fun h => (Except.ok.inj h).symm, fun h => congrArg _ h.symm⟩
  | cons a as ih =>
    rw [mapM_cons_eq_ok, List.forall₂_cons_left_iff]
    simp only [ih, eq_comm, exists_and_left]

theorem exists_mapM_eq_ok_iff {f : α → Except ε β} {as : List α} :
    (∃ bs, as.mapM f = .ok bs) ↔ ∀ a ∈ as, ∃ b, f a = .ok b := by
  induction as with
  | nil => simp
  | cons a as ih =>
    rw [List.forall_mem_cons, ← ih]
    simp only [mapM_cons_eq_ok]
    constructor
    · rintro ⟨_, b, bs, hb, hbs, rfl⟩
      exact ⟨⟨b, hb⟩, bs, hbs⟩
    · rintro ⟨⟨b, hb⟩, bs, hbs⟩
      exact ⟨_, b, bs, hb, hbs, rfl⟩

/-- Over the items in another order, a computation succeeds with the results in another order. -/
theorem mapM_perm {f : α → Except ε β} {as as' : List α} {bs : List β} (hperm : as.Perm as')
    (hbs : as'.mapM f = .ok bs) : ∃ bs', as.mapM f = .ok bs' ∧ bs'.Perm bs := by
  rw [mapM_eq_ok_iff] at hbs
  obtain ⟨bs', hbs', hperm'⟩ := List.perm_comp_forall₂ hperm hbs
  exact ⟨bs', mapM_eq_ok_iff.2 hbs', hperm'⟩

/-! ## Results -/

section Yields

variable {P : α → Prop} {Q : β → Prop} {x : Except ε α}

/-- If the computation succeeds, then with a result that has a property. -/
def Yields (P : α → Prop) (x : Except ε α) : Prop := ∀ a, x = .ok a → P a

theorem Yields.ok {a : α} (h : P a) : Yields P (.ok a : Except ε α) := by
  rintro _ ⟨⟩
  exact h

theorem Yields.error (e : ε) : Yields P (.error e : Except ε α) := nofun

theorem Yields.bind {f : α → Except ε β} (hf : ∀ a, x = .ok a → Yields Q (f a)) : Yields Q (x >>= f) := by
  cases x with
  | error e => exact .error e
  | ok a => exact hf a rfl

end Yields

/-! ## Errors -/

section FailsOnly

variable {P Q : ε → Prop} {x : Except ε α}

/-- If the computation fails, then with an error that has a property. -/
def FailsOnly (P : ε → Prop) (x : Except ε α) : Prop := ∀ e, x = .error e → P e

theorem FailsOnly.ok (a : α) : FailsOnly P (.ok a : Except ε α) := nofun

theorem FailsOnly.error {e : ε} (h : P e) : FailsOnly P (.error e : Except ε α) := by
  rintro _ ⟨⟩
  exact h

theorem FailsOnly.bind {f : α → Except ε β} (hx : FailsOnly P x)
    (hf : ∀ a, x = .ok a → FailsOnly P (f a)) : FailsOnly P (x >>= f) := by
  cases x with
  | error e => exact .error (hx e rfl)
  | ok a => exact hf a rfl

theorem FailsOnly.imp (h : ∀ e, P e → Q e) (hx : FailsOnly P x) : FailsOnly Q x :=
  fun e he => h e (hx e he)

end FailsOnly

end Except

namespace Outcome

variable {σ τ α : Type}

theorem eq_failure {o : Outcome σ α} {e : Error} (h : o.answer = .error e) : o = .failure o.state e := by
  cases o
  cases h
  rfl

theorem eq_success {o : Outcome σ α} {a : α} (h : o.answer = .ok a) : o = .success o.state a := by
  cases o
  cases h
  rfl

/-- The state after a step, if the step succeeds. -/
def settled (o : Outcome σ α) : Except Error σ := o.answer.map fun _ => o.state

theorem settled_eq_ok {o : Outcome σ α} {state : σ} :
    o.settled = .ok state ↔ (∃ a, o.answer = .ok a) ∧ o.state = state := by
  unfold settled
  cases o.answer <;> simp [Except.map]

theorem settled_within_eq_ok {o : Outcome σ α} {f : σ → τ} {state : τ} :
    (o.within f).settled = .ok state ↔ ∃ inner, o.settled = .ok inner ∧ f inner = state := by
  simp [settled_eq_ok]

end Outcome

end DocFlow
