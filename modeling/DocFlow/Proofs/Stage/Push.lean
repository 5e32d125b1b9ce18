import DocFlow.Proofs.Outcome
import DocFlow.Stage.Basic

/-!
# What a stage does with one document

A skip and a limit count up to their bound; from then on the one passes all documents on, and the
other none.  A group and a sort pass nothing on, and only they hold documents back (`HoldsBack`); only
a limit that is met answers that it is full (`Met`).
-/

namespace DocFlow.Stage

variable {d : Document} {count n : Nat}

theorem push_skip_of_lt (h : n < count) :
    push d (skip count) n = .success (n + 1 : Nat) (.pass []) := if_pos h

theorem push_skip_of_le (h : count ≤ n) : push d (skip count) n = .success n (.pass [d]) :=
  if_neg (Nat.not_lt.2 h)

theorem push_limit_of_lt (h : n < count) :
    push d (limit count) n = .success (n + 1 : Nat) (.pass [d]) := if_pos h

theorem push_limit_of_le (h : count ≤ n) : push d (limit count) n = .success n .full :=
  if_neg (Nat.not_lt.2 h)

/-- The stages that hold documents back until they are drained. -/
def HoldsBack : Stage → Prop
  | group _ _ | sort _ => True
  | _ => False

/-- The stage is a limit whose count is met. -/
def Met : (s : Stage) → s.Memory → Prop
  | limit count, (passed : Nat) => count ≤ passed
  | _, _ => False

variable {s : Stage} {m : s.Memory}

theorem eq_nil_of_push_pass (hs : s.HoldsBack) {ds : List Document}
    (hp : (s.push d m).answer = .ok (.pass ds)) : ds = [] := by
  cases s with
  | group g cap =>
    obtain ⟨_, _, hp⟩ := Except.bind_eq_ok.1 hp
    cases hp
    rfl
  | sort keys =>
    cases hp
    rfl
  | _ => cases hs

theorem release_of_not_holdsBack (hs : ¬ s.HoldsBack) (h : HandOut) (behind : Nat) :
    (s.release h behind m).1 = [] := by
  cases s with
  | group g cap => exact absurd trivial hs
  | sort keys => exact absurd trivial hs
  | _ => rfl

theorem Met.not_holdsBack (hm : s.Met m) : ¬ s.HoldsBack := by
  cases s with
  | limit count => exact id
  | _ => cases hm

/-- A limit that is met takes in nothing more. -/
theorem push_of_met (hm : s.Met m) : s.push d m = .success m .full := by
  cases s with
  | limit count => exact push_limit_of_le hm
  | _ => cases hm

theorem met_of_push_full (hp : (s.push d m).answer = .ok .full) : s.Met m := by
  cases s with
  | filter q =>
    obtain ⟨_, _, hp⟩ := Except.bind_eq_ok.1 hp
    cases hp
  | project p =>
    obtain ⟨_, _, hp⟩ := Except.bind_eq_ok.1 hp
    cases hp
  | group g cap =>
    obtain ⟨_, _, hp⟩ := Except.bind_eq_ok.1 hp
    cases hp
  | sort keys => cases hp
  | skip count =>
    change Nat at m
    rcases Nat.lt_or_ge m count with hm | hm
    · rw [push_skip_of_lt hm] at hp
      cases hp
    · rw [push_skip_of_le hm] at hp
      cases hp
  | limit count =>
    change Nat at m
    rcases Nat.lt_or_ge m count with hm | hm
    · rw [push_limit_of_lt hm] at hp
      cases hp
    · exact hm
  | unwind path =>
    obtain ⟨_, _, hp⟩ := Except.bind_eq_ok.1 hp
    cases hp

end DocFlow.Stage
