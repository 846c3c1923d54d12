import Mathlib.Algebra.Group.Nat.Defs
import Mathlib.Logic.Function.Basic
import Peraviz.Transition.Machine

/-!
This module contains the native worker pool: the ranges that the workers of a run take, and the pool
as a machine whose steps are the sections of the coordinator and of the workers, in any order.
-/

namespace Peraviz.Runtime.NativeWorkerPool

/-- Where the range of a worker begins: `size_t` arithmetic, one product and one division. -/
def rangeFirst (count participants index : Nat) : Nat :=
  count * index % 2 ^ 64 / participants

def rangeLast (count participants index : Nat) : Nat :=
  count * (index + 1) % 2 ^ 64 / participants

/-- One call of the function, by a worker or, with no index, by the coordinator. -/
structure FunctionCall where
  caller : Option Nat
  first : Nat
  last : Nat
  threw : Bool
  deriving DecidableEq

/-- Where a worker is in its loop. -/
inductive Phase where
  | waiting
  | working (count participants : Nat)
  | joining
  deriving DecidableEq

structure Worker where
  observed : Nat := 0
  phase : Phase := .waiting
  failure : Bool := false
  deriving DecidableEq

/-- `calls` is what the workers have called in this epoch. The source has no such field. -/
structure Pool where
  threads : Nat
  force : Bool
  workers : Nat → Worker := fun _ => {}
  epoch : Nat := 0
  count : Nat := 0
  participants : Nat := 0
  completed : Nat := 0
  decisions : Nat := 0
  running : Bool := false
  calls : List FunctionCall := []

namespace Pool

/-- `gain` is what the measured costs say, it is only asked for batches that are large enough. -/
def worthwhile (pool : Pool) (count minimum : Nat) (gain : Bool) : Pool × Bool :=
  if pool.threads < 2 ∨ count < 2 then
    (pool, false)
  else if pool.force then
    (pool, true)
  else if minimum ≤ count then
    ({ pool with decisions := pool.decisions + 1 }, (pool.decisions + 1) % 32 == 0 || gain)
  else
    (pool, false)

def participantsOf (pool : Pool) (count minimum : Nat) : Nat :=
  min pool.threads (if pool.force then count else max 2 (count / max 1 minimum))

def setWorker (pool : Pool) (index : Nat) (worker : Worker) : Pool :=
  { pool with workers := Function.update pool.workers index worker }

end Pool

inductive Event where
  | run (count minimum : Nat) (gain serialThrows : Bool)
  | wake (index : Nat)
  | callback (index : Nat) (throws : Bool)
  | join (index : Nat)
  | finish (serialThrows : Bool)
  deriving DecidableEq

/-- What a call of `run` ends with; `pass` is what the pass called whose results it commits. -/
inductive Answer where
  | none
  | returned (count : Nat) (pass : List FunctionCall)
  | threw
  deriving DecidableEq

/-- The function on all items, by the coordinator itself. -/
def serialPass (count : Nat) (throws : Bool) : Answer :=
  if throws then .threw else .returned count [⟨Option.none, 0, count, false⟩]

namespace Pool

/-- `run` up to the wait, or all of it if the batch is not handed out. -/
def run (pool : Pool) (count minimum : Nat) (gain serialThrows : Bool) : Pool × Answer :=
  if pool.running then
    (pool, .none)
  else
    let (pool, parallel) := pool.worthwhile count minimum gain
    if parallel then
      ({ pool with
         count
         participants := pool.participantsOf count minimum
         completed := 0
         epoch := pool.epoch + 1
         running := true
         calls := [] }, .none)
    else
      (pool, serialPass count serialThrows)

/-- A worker sees an epoch that it has not seen and takes its copy of the batch. -/
def wake (pool : Pool) (index : Nat) : Pool :=
  let worker := pool.workers index
  if index < pool.threads ∧ worker.phase = .waiting ∧ worker.observed ≠ pool.epoch then
    pool.setWorker index
      { observed := pool.epoch, phase := .working pool.count pool.participants, failure := false }
  else
    pool

/-- A worker with a range calls the function on it, outside of the lock. -/
def callback (pool : Pool) (index : Nat) (throws : Bool) : Pool :=
  let worker := pool.workers index
  match worker.phase with
  | .working count participants =>
    if index < participants then
      { pool.setWorker index { worker with phase := .joining, failure := throws } with
        calls := pool.calls ++ [⟨some index, rangeFirst count participants index,
          rangeLast count participants index, throws⟩] }
    else
      pool.setWorker index { worker with phase := .joining }
  | _ => pool

def join (pool : Pool) (index : Nat) : Pool :=
  let worker := pool.workers index
  if worker.phase = .joining then
    { pool.setWorker index { worker with phase := .waiting } with completed := pool.completed + 1 }
  else
    pool

/-- `run` from the end of its wait on, with the serial retry if a worker failed. -/
def finish (pool : Pool) (serialThrows : Bool) : Pool × Answer :=
  if pool.running = true ∧ pool.completed = pool.threads then
    let failures := (List.range pool.participants).any (fun index => (pool.workers index).failure)
    ({ pool with running := false },
      if failures then serialPass pool.count serialThrows else .returned pool.count pool.calls)
  else
    (pool, .none)

def step (pool : Pool) : Event → Pool × Answer
  | .run count minimum gain serialThrows => pool.run count minimum gain serialThrows
  | .wake index => (pool.wake index, .none)
  | .callback index throws => (pool.callback index throws, .none)
  | .join index => (pool.join index, .none)
  | .finish serialThrows => pool.finish serialThrows

end Pool

def machine (threads : Nat) (force : Bool) : Machine Pool Event Answer where
  init := { threads, force }
  step := Pool.step

end Peraviz.Runtime.NativeWorkerPool
