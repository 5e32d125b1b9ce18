import DocFlow.Proofs.Outcome
import DocFlow.Query.Basic

/-!
# Conjunctions of queries and tests

The answer of a list of queries or tests is the `List.allM` of the answers of its members: the first that does not hold
ends the search, and so does the first that fails.  A list of lists answers as the flat list
(`Except.allM_flatten`), and where no member fails the order does not count (`Except.allM_perm`).
-/

namespace DocFlow

namespace Except

variable {α β ε : Type} {p : α → Except ε Bool} {as as' : List α}

theorem allM_append (as as' : List α) :
    (as ++ as').allM p = do if ← as.allM p then as'.allM p else return false := by
  induction as with
  | nil => simp
  | cons a as ih =>
    rw [List.cons_append, List.allM_cons, List.allM_cons, ih]
    cases p a with
    | error e => rfl
    | ok b => cases b <;> simp

theorem allM_flatten (ass : List (List α)) : ass.flatten.allM p = ass.allM fun as => as.allM p := by
  induction ass with
  | nil => simp
  | cons as ass ih => rw [List.flatten_cons, allM_append, List.allM_cons, ih]

theorem allM_eq_of_forall₂ {q : β → Except ε Bool} {bs : List β} (h : List.Forall₂ (fun a b => q b = p a) as bs) :
    bs.allM q = as.allM p := by
  induction h with
  | nil => simp
  | cons hab _ ih => rw [List.allM_cons, List.allM_cons, hab, ih]

theorem anyM_eq_not_allM_not (as : List α) : as.anyM p = (!·) <$> as.allM fun a => (!·) <$> p a := by
  simp [List.allM_eq_not_anyM_not, Functor.map_map]

theorem allM_map_eq_ok {g : β → α} {f : β → Bool} {bs : List β} (h : ∀ b ∈ bs, p (g b) = .ok (f b)) :
    (bs.map g).allM p = .ok (bs.all f) := by
  induction bs with
  | nil => rfl
  | cons b bs ih =>
    obtain ⟨hb, hbs⟩ := List.forall_mem_cons.1 h
    rw [List.map_cons, List.allM_cons, hb, ih hbs]
    cases hf : f b <;> simp [hf]

theorem anyM_map_eq_ok {g : β → α} {f : β → Bool} {bs : List β} (h : ∀ b ∈ bs, p (g b) = .ok (f b)) :
    (bs.map g).anyM p = .ok (bs.any f) := by
  induction bs with
  | nil => rfl
  | cons b bs ih =>
    obtain ⟨hb, hbs⟩ := List.forall_mem_cons.1 h
    rw [List.map_cons, List.anyM_cons, hb, ih hbs]
    cases hf : f b <;> simp [hf]

/-- Where no check fails, the order of the checks does not count. -/
theorem allM_perm (hp : ∀ a ∈ as, ∃ b, p a = .ok b) (h : as.Perm as') : as'.allM p = as.allM p := by
  induction h with
  | nil => rfl
  | cons a _ ih => rw [List.allM_cons, List.allM_cons, ih fun a ha => hp a (List.mem_cons_of_mem _ ha)]
  | swap a₂ a₁ as =>
    obtain ⟨b₁, h₁⟩ := hp a₁ (by simp)
    obtain ⟨b₂, h₂⟩ := hp a₂ (by simp)
    simp only [List.allM_cons, h₁, h₂, ok_bind]
    cases b₁ <;> cases b₂ <;> rfl
  | trans h _ ih₁ ih₂ => exact (ih₂ fun a ha => hp a (h.mem_iff.2 ha)).trans (ih₁ hp)

end Except

variable {d : Document} {scope : Scope} {v : Value}

namespace Query

theorem allAccept_eq_allM (qs : List Query) : allAccept d qs = qs.allM (accepts d) := by
  induction qs with
  | nil => rfl
  | cons q qs ih => rw [allAccept, List.allM_cons, ih]

theorem someAccepts_eq_anyM (qs : List Query) : someAccepts d qs = qs.anyM (accepts d) := by
  induction qs with
  | nil => rfl
  | cons q qs ih => rw [someAccepts, List.anyM_cons, ih]

theorem accepts_together (qs : List Query) : accepts d (together qs) = allAccept d qs := by
  match qs with
  | [] => rfl
  | [q] =>
    show accepts d q = do if ← accepts d q then return true else return false
    cases accepts d q with
    | error e => rfl
    | ok b => cases b <;> rfl
  | _ :: _ :: _ => rfl

end Query

theorem Test.allHold_singleton (t : Test) : allHold d scope v [t] = holds d scope v t := by
  show (do if ← holds d scope v t then return true else return false) = holds d scope v t
  cases holds d scope v t with
  | error e => rfl
  | ok b => cases b <;> rfl

theorem Test.allHold_eq_allM (ts : List Test) : allHold d scope v ts = ts.allM (holds d scope v) := by
  induction ts with
  | nil => rfl
  | cons t ts ih => rw [allHold, List.allM_cons, ih]

end DocFlow
