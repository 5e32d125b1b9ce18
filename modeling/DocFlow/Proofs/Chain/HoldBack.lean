import DocFlow.Proofs.Chain.Basic
import DocFlow.Proofs.Stage.Push

/-!
# Chains that begin with a stage that holds back

A group or a sort passes nothing on until it is drained.  Feeding a chain that begins with one is the
same as folding it over the documents (`Stage.takeAll`), and what comes out of the chain is what comes
out of the stages behind for the documents that have been held back (`through_of_takeAll`).
-/

namespace DocFlow

/-- What a stage remembers after documents it has taken in one after the other, if none fails. -/
def Stage.takeAll (s : Stage) (ds : List Document) (m : s.Memory) : Except Error s.Memory :=
  ds.foldlM (fun m d => (s.push d m).settled) m

namespace Chain

/-- What comes out of a new chain that is fed documents up to a limit and is then drained. -/
def through (h : HandOut) (stages : List Stage) (ds : List Document) : Except Error (List Document) := do
  let _ ← (feedEach (feed stages) ds (initial stages)).answer
  (drain h stages (feedEach (feed stages) ds (initial stages)).state).answer

theorem feedEach_end {ds : List Document} {out all : Array Document} (hall : out ++ ds = all) :
    feedEach (feed []) ds out = .success all .more := by
  induction ds generalizing out with
  | nil =>
    obtain rfl : out = all := by simpa using hall
    rfl
  | cons d ds ih =>
    have hnext : out.push d ++ ds = all := by simpa using hall
    exact (feedEach_cons_of_success rfl).trans (ih hnext)

/-- An empty chain gives out the documents that are fed to it. -/
@[simp] theorem through_nil (h : HandOut) (ds : List Document) : through h [] ds = .ok ds := by
  have hout : (#[] : Array Document) ++ ds = ds.toArray := by simp
  have hfed : feedEach (feed []) ds (initial []) = .success ds.toArray .more := feedEach_end hout
  unfold through
  rw [hfed]
  rfl

/-! ## The first stage holds back -/

section HoldBack

variable {h : HandOut} {s : Stage} {rest : List Stage} {station : Station s} {state : State rest}
  {next : s.Memory} {d : Document} {ds : List Document}

theorem feed_of_holdsBack (state : State rest) (hs : s.HoldsBack)
    (hm : (s.push d station.memory).settled = .ok next) :
    feed (s :: rest) d (station, state) = .success ({ station with memory := next }, state) .more := by
  obtain ⟨⟨out, hout⟩, rfl⟩ := Outcome.settled_eq_ok.1 hm
  cases out with
  | full => exact absurd hs (Stage.met_of_push_full hout).not_holdsBack
  | pass es =>
    rw [feed_of_pass hout, Stage.eq_nil_of_push_pass hs hout]
    rfl

theorem feedEach_of_takeAll (hs : s.HoldsBack) (hm : s.takeAll ds station.memory = .ok next) :
    feedEach (feed (s :: rest)) ds (station, state) =
      .success ({ station with memory := next }, state) .more := by
  induction ds generalizing station with
  | nil =>
    obtain rfl : station.memory = next := Except.ok.inj hm
    rfl
  | cons d ds ih =>
    obtain ⟨mid, hmid, hm⟩ := Except.bind_eq_ok.1 hm
    exact (feedEach_cons_of_success (feed_of_holdsBack state hs hmid)).trans (ih hm)

/-- A stage that holds back takes in documents that are fed to it without an error. -/
theorem takeAll_of_feedEach (hs : s.HoldsBack) {flow : Flow}
    (hflow : (feedEach (feed (s :: rest)) ds (station, state)).answer = .ok flow) :
    ∃ next, s.takeAll ds station.memory = .ok next := by
  induction ds generalizing station with
  | nil => exact ⟨station.memory, rfl⟩
  | cons d ds ih =>
    cases ho : (s.push d station.memory).answer with
    | error e =>
      have hfeed : (feed (s :: rest) d (station, state)).answer = .error e := by
        rw [feed_of_error ho]
        rfl
      cases ((congrArg Outcome.answer (feedEach_cons_of_error hfeed)).trans hfeed).symm.trans hflow
    | ok out =>
      have hmid : (s.push d station.memory).settled = .ok (s.push d station.memory).state :=
        Outcome.settled_eq_ok.2 ⟨⟨out, ho⟩, rfl⟩
      have hfed : feedEach (feed (s :: rest)) (d :: ds) (station, state) = _ :=
        feedEach_cons_of_success (feed_of_holdsBack state hs hmid)
      obtain ⟨next, hnext⟩ := ih ((congrArg Outcome.answer hfed).symm.trans hflow)
      exact ⟨next, Except.bind_eq_ok.2 ⟨_, hmid, hnext⟩⟩

/-- What comes out of the chain is what comes out of the stages behind for the documents that the
first stage hands out. -/
theorem through_of_takeAll (hs : s.HoldsBack) (hm : s.takeAll ds s.initial = .ok next) :
    through h (s :: rest) ds = through h rest (s.release h rest.length next).1 := by
  have hfed : feedEach (feed (s :: rest)) ds (initial (s :: rest)) =
      .success (⟨next, false⟩, initial rest) .more := feedEach_of_takeAll hs hm
  have hdrain : through h (s :: rest) ds = (drain h (s :: rest) (⟨next, false⟩, initial rest)).answer := by
    unfold through
    rw [hfed]
    rfl
  rw [hdrain]
  change _ = through h rest ((⟨next, false⟩ : Station s).held h rest.length)
  cases ho : (feedEach (feed rest) ((⟨next, false⟩ : Station s).held h rest.length)
      (initial rest)).answer with
  | error e =>
    rw [through, ho]
    exact congrArg Outcome.answer (drain_of_error rfl ho)
  | ok flow =>
    rw [through, ho]
    exact congrArg Outcome.answer (drain_of_ok rfl ho)

end HoldBack

end Chain

end DocFlow
