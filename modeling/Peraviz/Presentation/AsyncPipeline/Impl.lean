import Mathlib.Algebra.Group.Nat.Defs
import Mathlib.Logic.Function.Basic
import Peraviz.Custody.Basic
import Peraviz.Transition.Machine

/-!
This module contains the pipeline that evaluates a scene on a thread of its own. Both threads are
program counters, and a step of one of them is private work around one access to what they share.
-/

namespace Peraviz.Presentation

/-- What the pipeline asks of a runtime core and the presentation state behind it. -/
structure Core (γ σ : Type) where
  heldUniverses : γ → List (Int × List UInt8)
  submitUniverseFrame : γ → Int → List UInt8 → γ
  /-- One transaction and its completed content, nothing where the generation is rejected. -/
  consume : γ → Option (γ × σ)
  schemaGeneration : γ → Int32
  nodup_heldUniverses : ∀ c, ((heldUniverses c).map Prod.fst).Nodup

namespace AsyncPipeline

inductive Status where
  | free
  | writing
  | queued
  | reading
  deriving DecidableEq

structure InputValue where
  id : Int := 0
  sequence : UInt64 := 0
  data : List UInt8 := []
  deriving DecidableEq

structure InputBank where
  status : Status := .free
  frames : List InputValue := []
  generation : UInt64 := 0

structure Snapshot (σ : Type) where
  inputGeneration : UInt64
  content : σ
  deriving DecidableEq

structure OutputBank (σ : Type) where
  status : Status := .free
  snapshot : Option (Snapshot σ) := none

/-- Where the main thread stands in a call into the pipeline. -/
inductive Main where
  | idle
  | scanning (bank : Fin 3)
  | filling (bank : Fin 3)
  | exchanging (bank : Fin 3)
  | freeing (bank old : Fin 3)
  | acquiring
  | acquired (bank : Fin 2)
  | joining
  | restoring (index : Nat)
  deriving DecidableEq

/-- Where the coordinator stands in its loop. -/
inductive Coordinator where
  | loop
  | waiting
  | woken
  | exchanging
  | taken (bank : Fin 3)
  | delivering (bank : Fin 3) (index : Nat)
  | outputs
  | claiming (bank : Fin 2)
  | claimed (bank : Fin 2)
  | completing (bank : Fin 2)
  | publishing (bank : Fin 2)
  | handing (bank : Fin 2)
  | exited
  deriving DecidableEq

structure State (γ σ : Type) where
  core : γ
  schema : Int32
  inputs : Fin 3 → InputBank := fun _ => {}
  outputs : Fin 2 → OutputBank σ := fun _ => {}
  latest : List InputValue
  consumedSequences : List UInt64
  queuedInput : Option (Fin 3) := none
  readyOutput : Option (Fin 2) := none
  stopping : Bool := false
  failed : Bool := false
  producerSequence : UInt64 := 1
  producerGeneration : UInt64 := 1
  producerDirty : Bool := false
  retired : Bool := false
  main : Main := .idle
  coordinator : Coordinator := .loop
  initialBatch : Bool := true
  generation : UInt64 := 1
  /-- The snapshots that the consumer was given and has not released. -/
  leases : List (Fin 2 × Option (Snapshot σ)) := []

/-- A call of the main thread, or a step of either thread in what it is doing. -/
inductive Event where
  | submit (universeId : Int) (data : Option (List UInt8))
  | flushInput
  | tryAcquire
  | release (bank : Fin 2)
  | stop
  | main
  | coordinator

inductive Output (σ : Type) where
  | quiet
  | submitted (frame : Option (Int × List UInt8))
  | flushed (bank : Option (Fin 3))
  | acquired (snapshot : Option (Snapshot σ))
  | handed (universeId : Int) (data : List UInt8)
  | produced (snapshot : Snapshot σ)

variable {γ σ : Type}

def initialValue (held : Int × List UInt8) : InputValue where
  id := held.1
  sequence := 1
  data := held.2

def init (core : Core γ σ) (c : γ) : State γ σ where
  core := c
  schema := core.schemaGeneration c
  latest := (core.heldUniverses c).map initialValue
  consumedSequences := List.replicate (core.heldUniverses c).length 1

namespace State

def active (s : State γ σ) : Bool := !s.stopping && !s.failed

def setInput (s : State γ σ) (bank : Fin 3) (status : Status) : State γ σ :=
  { s with inputs := Function.update s.inputs bank { s.inputs bank with status := status } }

def setOutput (s : State γ σ) (bank : Fin 2) (status : Status) : State γ σ :=
  { s with outputs := Function.update s.outputs bank { s.outputs bank with status := status } }

/-- The newest frame of a known universe, and a new sequence for it. -/
def accept (s : State γ σ) (index : Nat) (universeId : Int) (data : List UInt8) : State γ σ :=
  { s with
    latest := s.latest.set index ⟨universeId, s.producerSequence + 1, data⟩
    producerSequence := s.producerSequence + 1
    producerDirty := true
  }

def submit (s : State γ σ) (universeId : Int) (data : Option (List UInt8)) : State γ σ × Output σ :=
  match data with
  | none => (s, .submitted none)
  | some bytes =>
    if !s.active || bytes.isEmpty then
      (s, .submitted none)
    else
      match s.latest.findIdx? (·.id == universeId) with
      | none => (s, .submitted none)
      | some index =>
        (s.accept index universeId (bytes.take 512), .submitted (some (universeId, bytes.take 512)))

def flushInput (s : State γ σ) : State γ σ × Output σ :=
  if !s.producerDirty || !s.active then (s, .quiet) else ({ s with main := .scanning 0 }, .quiet)

/-- `compare_exchange_strong` from `Free` to `Writing` on one input bank. -/
def scan (s : State γ σ) (bank : Fin 3) : State γ σ × Output σ :=
  if (s.inputs bank).status = .free then
    ({ s.setInput bank .writing with main := .filling bank }, .quiet)
  else if h : bank.val + 1 < 3 then
    ({ s with main := .scanning ⟨bank.val + 1, h⟩ }, .quiet)
  else
    ({ s with main := .idle }, .flushed none)

def fill (s : State γ σ) (bank : Fin 3) : State γ σ :=
  { s with
    inputs := Function.update s.inputs bank ⟨.queued, s.latest, s.producerGeneration + 1⟩
    producerGeneration := s.producerGeneration + 1
    main := .exchanging bank
  }

def exchangeInput (s : State γ σ) (bank : Fin 3) : State γ σ × Output σ :=
  match s.queuedInput with
  | none =>
    ({ s with queuedInput := some bank, producerDirty := false, main := .idle },
      .flushed (some bank))
  | some old => ({ s with queuedInput := some bank, main := .freeing bank old }, .quiet)

def freeInput (s : State γ σ) (bank old : Fin 3) : State γ σ × Output σ :=
  ({ s.setInput old .free with producerDirty := false, main := .idle }, .flushed (some bank))

def tryAcquire (s : State γ σ) : State γ σ × Output σ :=
  if !s.active then (s, .acquired none) else ({ s with main := .acquiring }, .quiet)

def exchangeReady (s : State γ σ) : State γ σ × Output σ :=
  match s.readyOutput with
  | none => ({ s with main := .idle }, .acquired none)
  | some bank => ({ s with readyOutput := none, main := .acquired bank }, .quiet)

def lease (s : State γ σ) (bank : Fin 2) : State γ σ × Output σ :=
  ({ s.setOutput bank .reading with
    leases := s.leases ++ [(bank, (s.outputs bank).snapshot)]
    main := .idle
  }, .acquired (s.outputs bank).snapshot)

/-- The consumer releases only what it was given, and only once. -/
def release (s : State γ σ) (bank : Fin 2) : State γ σ :=
  if bank ∈ s.leases.map Prod.fst then
    { s.setOutput bank .free with leases := s.leases.filter (·.1 != bank) }
  else
    s

def stop (s : State γ σ) : State γ σ :=
  if s.retired then s else { s with stopping := true, main := .joining }

def retire (s : State γ σ) : State γ σ :=
  { s with readyOutput := none, retired := true, main := .idle }

/-- The frame of one universe goes to the core unless the core has it already. -/
def hand (core : Core γ σ) (s : State γ σ) (frame : InputValue) (index : Nat)
    : Option (State γ σ) :=
  if 0 < frame.data.length ∧ frame.sequence ≠ s.consumedSequences.getD index 1 then
    some { s with core := core.submitUniverseFrame s.core frame.id frame.data }
  else
    none

def join (core : Core γ σ) (s : State γ σ) : State γ σ :=
  if s.coordinator = .exited then
    if core.schemaGeneration s.core = s.schema then { s with main := .restoring 0 } else s.retire
  else
    s

def restore (core : Core γ σ) (s : State γ σ) (index : Nat) : State γ σ × Output σ :=
  match s.latest[index]? with
  | none => (s.retire, .quiet)
  | some frame =>
    match hand core s frame index with
    | none => ({ s with main := .restoring (index + 1) }, .quiet)
    | some s => ({ s with main := .restoring (index + 1) }, .handed frame.id frame.data)

def stepMain (core : Core γ σ) (s : State γ σ) : State γ σ × Output σ :=
  match s.main with
  | .idle => (s, .quiet)
  | .scanning bank => s.scan bank
  | .filling bank => (s.fill bank, .quiet)
  | .exchanging bank => s.exchangeInput bank
  | .freeing bank old => s.freeInput bank old
  | .acquiring => s.exchangeReady
  | .acquired bank => s.lease bank
  | .joining => (s.join core, .quiet)
  | .restoring index => s.restore core index

def moveTo (s : State γ σ) (coordinator : Coordinator) : State γ σ :=
  { s with coordinator := coordinator }

def exchangeQueued (s : State γ σ) : State γ σ :=
  match s.queuedInput with
  | none => { s.moveTo .outputs with initialBatch := false }
  | some bank => { s.moveTo (.taken bank) with queuedInput := none }

def beginReading (s : State γ σ) (bank : Fin 3) : State γ σ :=
  { (s.setInput bank .reading).moveTo (.delivering bank 0) with
    generation := (s.inputs bank).generation
  }

def deliver (core : Core γ σ) (s : State γ σ) (bank : Fin 3) (index : Nat)
    : State γ σ × Output σ :=
  match (s.inputs bank).frames[index]? with
  | none => ({ (s.setInput bank .free).moveTo .outputs with initialBatch := false }, .quiet)
  | some frame =>
    match hand core s frame index with
    | none => (s.moveTo (.delivering bank (index + 1)), .quiet)
    | some s =>
      ({ s.moveTo (.delivering bank (index + 1)) with
        consumedSequences := s.consumedSequences.set index frame.sequence
      }, .handed frame.id frame.data)

def claim (s : State γ σ) (bank : Fin 2) : State γ σ :=
  if (s.outputs bank).status = .free then
    (s.setOutput bank .writing).moveTo (.claimed bank)
  else if h : bank.val + 1 < 2 then
    s.moveTo (.claiming ⟨bank.val + 1, h⟩)
  else
    s.moveTo .outputs

def complete (core : Core γ σ) (s : State γ σ) (bank : Fin 2) : State γ σ × Output σ :=
  match core.consume s.core with
  | none => ({ s.moveTo .exited with failed := true }, .quiet)
  | some (c, content) =>
    ({ s.moveTo (.publishing bank) with
      core := c
      outputs := Function.update s.outputs bank ⟨.queued, some ⟨s.generation, content⟩⟩
    }, .produced ⟨s.generation, content⟩)

def publish (s : State γ σ) (bank : Fin 2) : State γ σ :=
  match s.readyOutput with
  | none => { s.moveTo .loop with readyOutput := some bank }
  | some _ => s.moveTo (.publishing bank)

def stepCoordinator (core : Core γ σ) (s : State γ σ) : State γ σ × Output σ :=
  match s.coordinator with
  | .loop => (s.moveTo (if s.stopping then .exited else .waiting), .quiet)
  | .waiting =>
    (s.moveTo (if s.initialBatch || s.queuedInput.isSome || s.stopping then .woken else .loop),
      .quiet)
  | .woken => (s.moveTo (if s.stopping then .exited else .exchanging), .quiet)
  | .exchanging => (s.exchangeQueued, .quiet)
  | .taken bank => (s.beginReading bank, .quiet)
  | .delivering bank index => s.deliver core bank index
  | .outputs => (s.moveTo (if s.stopping then .exited else .claiming ⟨0, Nat.zero_lt_two⟩), .quiet)
  | .claiming bank => (s.claim bank, .quiet)
  | .claimed bank => (s.moveTo (if s.stopping then .exited else .completing bank), .quiet)
  | .completing bank => s.complete core bank
  | .publishing bank => (s.moveTo (if s.stopping then .loop else .handing bank), .quiet)
  | .handing bank => (s.publish bank, .quiet)
  | .exited => (s, .quiet)

/-- The main thread makes its calls one after another. -/
def call (s : State γ σ) (f : State γ σ → State γ σ × Output σ) : State γ σ × Output σ :=
  if s.main = .idle then f s else (s, .quiet)

def step (core : Core γ σ) (s : State γ σ) (event : Event) : State γ σ × Output σ :=
  match event with
  | .submit universeId data => s.call (fun s => s.submit universeId data)
  | .flushInput => s.call flushInput
  | .tryAcquire => s.call tryAcquire
  | .release bank => s.call (fun s => (s.release bank, .quiet))
  | .stop => s.call (fun s => (s.stop, .quiet))
  | .main => s.stepMain core
  | .coordinator => s.stepCoordinator core

end State

def machine (core : Core γ σ) (c : γ) : Machine (State γ σ) Event (Output σ) where
  init := init core c
  step := State.step core

end AsyncPipeline
end Peraviz.Presentation
