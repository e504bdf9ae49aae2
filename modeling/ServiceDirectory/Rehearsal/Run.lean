import ServiceDirectory.Rehearsal.Doubles

/-!
# Running a rehearsal

The steps are performed one after the other.  At the end of each the pool is emptied,
oldest work first, before the step's entry is written.
-/

namespace ServiceDirectory.Rehearsal

/-- Does the work of the pool, including what is added meanwhile; `fuel` bounds it. -/
def emptyPool (host : Host Stage) : Nat → Play Unit
  | 0 => noteOverrun
  | fuel + 1 => do
    match (← get).client.pool with
    | [] => return
    | work :: rest =>
      onStage fun s => { s with pool := rest }
      doWork host work
      emptyPool host fuel

/-- Performs a step and writes its entry. -/
def performEntry (host : Host Stage) (fuel : Nat) (step : Step) : Play Entry := do
  modify fun w => { w with journal := [] }
  onStage fun s => { s with records := [] }
  let answer ← perform host step
  emptyPool host fuel
  let w ← get
  return ⟨answer, w.client.records.reverse, w.journal.reverse⟩

mutual

/-- A bound on what a step can set off by itself: the calls of its script, with the steps
they take, and the services that a value it publishes names. -/
def Step.weight : Step → Nat
  | .newListener _ _ _ _ actions times _ => 4 + times * (4 + Step.weightOfAll actions)
  | .newSink _ actions times _ => 4 + times * (4 + Step.weightOfAll actions)
  | .newBackend _ _ onWatch _ => 4 + Step.weightOfAll onWatch
  | .publish _ _ _ value => 4 + value.length
  | _ => 4

def Step.weightOfAll : List Step → Nat
  | [] => 0
  | step :: rest => step.weight + Step.weightOfAll rest

end

/-- The entries of a rehearsal.  A call is nested only within the call of a script that has
lost a turn by it, or within a request for a watch, one per source; so the weight bounds the
depth, and its power by the number of steps the work of the pool. -/
def run (steps : List Step) : List Entry :=
  let weight := Step.weightOfAll steps
  let host := layered (4 * weight + 4)
  let fuel := Nat.pow (weight + 4) (steps.length + 2)
  ((steps.mapM (performEntry host fuel)).run (.initial .bare)).1

end ServiceDirectory.Rehearsal
