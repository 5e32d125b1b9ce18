import DocFlow.Regex.Syntax

/-!
# Programs of patterns

A pattern as a program for threads that run over a text.  A pattern is compiled in front of the
place where the program goes on once it has matched; a fork lists its targets in the order in which
they are preferred, which is what makes a repetition greedy or not.
-/

namespace DocFlow.Regex

open DocFlow.Text

inductive Instr where
  /-- Take a character of the set and go on. -/
  | set (s : CharSet) (next : Nat)
  /-- Go on at each of the targets, the preferred first. -/
  | fork (targets : List Nat)
  /-- Note the place in a slot and go on. -/
  | save (slot next : Nat)
  /-- Go on if the condition holds here. -/
  | look (l : Look) (next : Nat)
  /-- The pattern has matched. -/
  | accept

/-- The places where a thread may go on after the instruction. -/
def Instr.targets : Instr → List Nat
  | set _ next => [next]
  | fork ts => ts
  | save _ next => [next]
  | look _ next => [next]
  | accept => []

structure Program where
  code : Array Instr
  start : Nat

abbrev Emit := StateM (Array Instr)

namespace Emit

/-- Adds an instruction and returns its place. -/
def push (i : Instr) : Emit Nat := modifyGet fun code => (code.size, code.push i)

def patch (place : Nat) (i : Instr) : Emit Unit := modify fun code => code.setIfInBounds place i

def fork (greedy : Bool) (body next : Nat) : Instr :=
  .fork (if greedy then [body, next] else [next, body])

/-- Does the same step `n` times, each in front of what the one before made. -/
def times (step : Nat → Emit Nat) : (n next : Nat) → Emit Nat
  | 0, next => return next
  | n + 1, next => do times step n (← step next)

/-- A pattern once or more; returns the place of the pattern. -/
def onceOrMore (greedy : Bool) (step : Nat → Emit Nat) (next : Nat) : Emit (Nat × Nat) := do
  let back ← push (.fork [])
  let body ← step back
  patch back (fork greedy body next)
  return (body, back)

/-- A pattern any number of times.  If it can match the empty text, the way past it is a fork of its
own, so that an empty first turn is not cut off by the turn that would repeat it. -/
def anyTimes (greedy empties : Bool) (step : Nat → Emit Nat) (next : Nat) : Emit Nat := do
  let (body, back) ← onceOrMore greedy step next
  if empties then push (fork greedy body next) else return back

end Emit

namespace Node

mutual

/-- Compiles the pattern in front of `next`. -/
def emit : Node → (next : Nat) → Emit Nat
  | empty, next => return next
  | set s, next => Emit.push (.set s next)
  | look l, next => Emit.push (.look l next)
  | loop greedy least none body, next =>
    match least with
    | 0 => Emit.anyTimes greedy body.matchesEmpty (fun k => emit body k) next
    | least + 1 => do
      let (entry, _) ← Emit.onceOrMore greedy (fun k => emit body k) next
      Emit.times (fun k => emit body k) least entry
  | loop greedy least (some most) body, next => do
    let entry ← Emit.times
      (fun k => do
        let inner ← emit body k
        Emit.push (Emit.fork greedy inner next))
      (most - least) next
    Emit.times (fun k => emit body k) least entry
  | group index _ body, next => do
    let close ← Emit.push (.save (2 * index + 1) next)
    let inner ← emit body close
    Emit.push (.save (2 * index) inner)
  | concat items, next => emitAll items next
  | alternate items, next => do
    let entries ← emitEach items next
    Emit.push (.fork entries)

def emitAll : List Node → (next : Nat) → Emit Nat
  | [], next => return next
  | n :: ns, next => do emit n (← emitAll ns next)

/-- Compiles each of the patterns in front of the same place. -/
def emitEach : List Node → (next : Nat) → Emit (List Nat)
  | [], _ => return []
  | n :: ns, next => do
    let entry ← emit n next
    return entry :: (← emitEach ns next)

end

/-- The program of a pattern; the whole match is kept as group zero. -/
def compile (n : Node) : Program :=
  let ((start : Nat), code) := (do
    let final ← Emit.push .accept
    emit (.group 0 none n) final : Emit Nat).run #[]
  ⟨code, start⟩

end Node

end DocFlow.Regex
