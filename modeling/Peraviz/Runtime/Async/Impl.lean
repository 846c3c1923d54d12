import Peraviz.Dmx.Mailbox.Impl
import Peraviz.Presentation.AsyncPipeline.Impl

/-!
This module contains the runtime between the mailbox of the receiver and a core that a session may
own: the frames that are pumped out of the mailbox go to the session while there is one, and to the
core otherwise. The receiver, the main thread and the coordinator of the session take turns.
-/

namespace Peraviz.Runtime.Async

open Dmx (DmxFrame RealtimeSubscription RealtimeUniverseMailbox)
open Presentation (AsyncPipeline.State AsyncPipeline.init)

/-- Where the main thread stands in `pump_mailbox`. -/
inductive Pump where
  | idle
  | holding
  | collecting (left : Nat) (frames : List DmxFrame)
  | submitting (frames : List DmxFrame)

structure VisualRuntime (γ σ : Type) where
  mailbox : RealtimeUniverseMailbox
  /-- Stale while a session owns the core. -/
  core : γ
  session : Option (AsyncPipeline.State γ σ) := none
  pump : Pump := .idle

/-- The steps of the receiver, the calls of the main thread, and the steps of either thread. -/
inductive Event (γ : Type) where
  | publish (universeId : Nat) (data : Option (List UInt8)) (length : Nat) (sequence : UInt8)
      (nowUs : UInt64)
  | resetSession
  | pumpMailbox (install : Option RealtimeSubscription)
  | attachAsync
  | flushInput
  | tryAcquire
  | release (bank : Fin 2)
  | retireAsync
  | consume
  | main
  | coordinator
  /-- The coordinator leaves with an exception, and leaves this core behind. -/
  | fail (core : γ)

inductive Output (σ : Type) where
  | quiet
  | took (frames : List DmxFrame)
  | session (out : Presentation.AsyncPipeline.Output σ)
  | consumed (content : σ)

variable {γ σ : Type}

/-- The bytes in use of the 512 of a frame, as a call of `submit_native_frame` passes them on. -/
def payload (frame : DmxFrame) : List UInt8 := (frame.data.take 512).take frame.length

/-- The handler around the loop of the coordinator. -/
def abandon (s : AsyncPipeline.State γ σ) (core : γ) : AsyncPipeline.State γ σ :=
  { s.moveTo .exited with
    core := core
    failed := true
  }

namespace VisualRuntime

variable (core : Presentation.Core γ σ) (r : VisualRuntime γ σ)

def Idle : Prop :=
  match r.pump with
  | .idle => ∀ s ∈ r.session, s.main = .idle
  | _ => False

instance : Decidable r.Idle :=
  match r with
  | { session, pump := .idle, .. } => inferInstanceAs (Decidable (∀ s ∈ session, s.main = .idle))
  | { pump := .holding, .. } => isFalse id
  | { pump := .collecting _ _, .. } => isFalse id
  | { pump := .submitting _, .. } => isFalse id

def inSession (event : Presentation.AsyncPipeline.Event) : VisualRuntime γ σ × Output σ :=
  match r.session with
  | none => (r, .quiet)
  | some s =>
    let (s, out) := s.step core event
    ({ r with session := some s }, .session out)

def call (event : Presentation.AsyncPipeline.Event) : VisualRuntime γ σ × Output σ :=
  if r.Idle then r.inSession core event else (r, .quiet)

def submitNativeFrame (universeId : Nat) (data : List UInt8) : VisualRuntime γ σ :=
  match r.session with
  | some s => { r with session := some (s.submit universeId (some data)).1 }
  | none => { r with core := core.submitUniverseFrame r.core universeId data }

def pumpMailbox (install : Option RealtimeSubscription) : VisualRuntime γ σ :=
  match install with
  | some subscription =>
    { r with
      mailbox := r.mailbox.setSubscription (some subscription)
      pump := .holding
    }
  | none => { r with pump := .collecting r.mailbox.pendingDirtyCount [] }

def attachAsync : VisualRuntime γ σ :=
  match r.session with
  | some _ => r
  | none => { r with session := some (AsyncPipeline.init core r.core) }

/-- One round of `consume_dirty_frames`, which ends early where the ring is empty. -/
def collect (left : Nat) (frames : List DmxFrame) : VisualRuntime γ σ × Output σ :=
  match left with
  | 0 => ({ r with pump := .submitting frames }, .quiet)
  | left + 1 =>
    if r.mailbox.pendingDirtyCount = 0 then
      ({ r with pump := .submitting frames }, .quiet)
    else
      let (mailbox, frame) := r.mailbox.consumeNext
      ({ r with
          mailbox := mailbox
          pump := .collecting left (frames ++ frame.toList)
        }, .took frame.toList)

/-- A session that is retired by this step gives its core back. -/
def stepSession : VisualRuntime γ σ × Output σ :=
  match r.session with
  | none => (r, .quiet)
  | some s =>
    let (s, out) := s.stepMain core
    if s.retired then
      ({ r with
          core := s.core
          session := none
        }, .session out)
    else
      ({ r with session := some s }, .session out)

def stepMain : VisualRuntime γ σ × Output σ :=
  match r.pump with
  | .idle => r.stepSession core
  | .holding =>
    ({ r with pump := .submitting r.mailbox.heldStates }, .took r.mailbox.heldStates)
  | .collecting left frames => r.collect left frames
  | .submitting [] => ({ r with pump := .idle }, .quiet)
  | .submitting (frame :: frames) =>
    ({ r.submitNativeFrame core frame.universeId (payload frame) with
        pump := .submitting frames }, .quiet)

/-- The transaction of a runtime without a session. -/
def consume : VisualRuntime γ σ × Output σ :=
  match r.session with
  | some _ => (r, .quiet)
  | none =>
    match core.consume r.core with
    | none => (r, .quiet)
    | some (c, content) => ({ r with core := c }, .consumed content)

/-- What an exception leaves of the core has the same input and the same scene. -/
def fail (c : γ) : VisualRuntime γ σ :=
  match r.session with
  | none => r
  | some s =>
    if s.coordinator ≠ .exited ∧ core.heldUniverses c = core.heldUniverses s.core
        ∧ core.schemaGeneration c = core.schemaGeneration s.core then
      { r with session := some (abandon s c) }
    else
      r

def step (event : Event γ) : VisualRuntime γ σ × Output σ :=
  match event with
  | .publish universeId data length sequence nowUs =>
    ({ r with mailbox := (r.mailbox.publish universeId data length sequence nowUs).1 }, .quiet)
  | .resetSession => ({ r with mailbox := r.mailbox.resetSession }, .quiet)
  | .pumpMailbox install => (if r.Idle then r.pumpMailbox install else r, .quiet)
  | .attachAsync => (if r.Idle then r.attachAsync core else r, .quiet)
  | .flushInput => r.call core .flushInput
  | .tryAcquire => r.call core .tryAcquire
  | .release bank => r.call core (.release bank)
  | .retireAsync => r.call core .stop
  | .consume => if r.Idle then r.consume core else (r, .quiet)
  | .main => r.stepMain core
  | .coordinator => r.inSession core .coordinator
  | .fail c => (r.fail core c, .quiet)

def current : γ := r.session.elim r.core AsyncPipeline.State.core

end VisualRuntime

def machine (core : Presentation.Core γ σ) (mailbox : RealtimeUniverseMailbox) (c : γ)
    : Machine (VisualRuntime γ σ) (Event γ) (Output σ) where
  init := { mailbox := mailbox, core := c }
  step := VisualRuntime.step core

def stateOf (frame : DmxFrame) : Int × List UInt8 := (frame.universeId, payload frame)

def tookBy : Output σ → List (Int × List UInt8)
  | .took frames => frames.map stateOf
  | _ => []

/-- The states that the pump took from the mailbox, in their order. -/
def taken (trace : List (Event γ × Output σ)) : List (Int × List UInt8) :=
  trace.flatMap (fun entry => tookBy entry.2)

end Peraviz.Runtime.Async
