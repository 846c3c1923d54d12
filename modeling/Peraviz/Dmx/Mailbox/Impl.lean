import Peraviz.Dmx.RealtimeSubscription
import Peraviz.RingQueue.Basic
import Peraviz.Transition.Machine

/-!
This module contains the latest-state mailbox between the Art-Net receiver and the visual runtime.
Every function is one section under `state_mutex_`, so a run of `RealtimeUniverseMailbox.machine` is
one interleaving of the threads that share the mailbox.
-/

namespace Peraviz.Dmx

structure Slot where
  held : DmxFrame := {}
  generation : UInt64 := 0
  initialized : Bool := false
  dirty : Bool := false
  queued : Bool := false
  tokenId : UInt64 := 0
  deriving DecidableEq, Repr

structure DirtyToken where
  universeIndex : UniverseIndex := ⟨0, by decide⟩
  generation : UInt64 := 0
  tokenId : UInt64 := 0
  deriving DecidableEq, Repr

structure RealtimeUniverseMailbox where
  subscription : Option RealtimeSubscription
  slots : UniverseIndex → Option Slot
  dirtyTokens : RingQueue kArtNetUniverseCount DirtyToken
  subscriptionGeneration : UInt64
  nextTokenId : UInt64

namespace Slot

/-- A slot of a new generation, with nothing queued. -/
def retire (slot : Slot) (generation : UInt64) : Slot :=
  { slot with dirty := false, queued := false, generation := generation }

/-- Whether a byte at a subscribed offset differs from what the slot holds. -/
def relevantChange (slot : Slot) (mask : Nat → Bool) (data : List UInt8) (safeLength : Nat) : Bool :=
  (List.range kDmxSlotCount).any
    (fun offset => mask offset && byteAt data safeLength offset != slot.held.byteAt offset)

/-- Every relevant packet leaves its time and its sequence, changed or not. -/
def touch (slot : Slot) (sequence : UInt8) (nowUs : UInt64) : Slot :=
  { slot with held := { slot.held with lastRxUs := nowUs, sequence := sequence } }

/-- The payload of a changed packet replaces the held one. -/
def store (slot : Slot) (universeId : Nat) (data : List UInt8) (safeLength : Nat) : Slot :=
  { slot with
    held := { slot.held with
      universeId := universeId
      length := safeLength
      data := copyPayload data safeLength
      counter := slot.held.counter + 1
    }
    initialized := true
  }

end Slot

namespace RealtimeUniverseMailbox

def init : RealtimeUniverseMailbox where
  subscription := none
  slots := fun _ => none
  dirtyTokens := .empty (by decide) {}
  subscriptionGeneration := 0
  nextTokenId := 0

def hasNewOffsets (previous : Option RealtimeSubscription) (subscription : RealtimeSubscription)
    (index : UniverseIndex) : Bool :=
  match previous with
  | none => true
  | some previous =>
    !previous.used index ||
      (List.range kDmxSlotCount).any
        (fun o => subscription.offsets index o && !previous.offsets index o)

/-- The round of the loop of `setSubscription` for one slot. -/
def resubscribeSlot (previous subscription : Option RealtimeSubscription) (generation : UInt64)
    (index : UniverseIndex) (slot : Option Slot) : Option Slot :=
  match subscription with
  | none => slot.map (·.retire generation)
  | some subscription =>
    if subscription.used index then
      let slot := slot.getD {}
      let initialized :=
        if hasNewOffsets previous subscription index then false else slot.initialized
      some ({ slot with initialized := initialized }.retire generation)
    else
      slot.map (·.retire generation)

def setSubscription (m : RealtimeUniverseMailbox) (subscription : Option RealtimeSubscription)
    : RealtimeUniverseMailbox :=
  let generation := m.subscriptionGeneration + 1
  { m with
    subscription := subscription
    slots := fun u => resubscribeSlot m.subscription subscription generation u (m.slots u)
    dirtyTokens := m.dirtyTokens.clear
    subscriptionGeneration := generation
  }

def resetSession (m : RealtimeUniverseMailbox) : RealtimeUniverseMailbox :=
  let generation := m.subscriptionGeneration + 1
  { m with
    slots := fun u => (m.slots u).map (fun slot => { slot with initialized := false }.retire generation)
    dirtyTokens := m.dirtyTokens.clear
    subscriptionGeneration := generation
  }

def enqueueDirtyLocked (m : RealtimeUniverseMailbox) (index : UniverseIndex) (slot : Slot)
    : RealtimeUniverseMailbox × Slot :=
  if slot.queued || decide (kArtNetUniverseCount ≤ m.dirtyTokens.count) then
    (m, slot)
  else
    let tokenId := m.nextTokenId + 1
    ({ m with
        nextTokenId := tokenId
        dirtyTokens := m.dirtyTokens.push ⟨index, slot.generation, tokenId⟩
      },
      { slot with tokenId := tokenId, queued := true })

def setSlot (m : RealtimeUniverseMailbox) (index : UniverseIndex) (slot : Slot)
    : RealtimeUniverseMailbox :=
  { m with slots := Function.update m.slots index (some slot) }

/-- The part of `publish` after the subscription and the slot are known. -/
def publishSlot (m : RealtimeUniverseMailbox) (subscription : RealtimeSubscription)
    (index : UniverseIndex) (slot : Slot) (data : List UInt8) (length : Nat) (sequence : UInt8)
    (nowUs : UInt64) : RealtimeUniverseMailbox × Bool :=
  let safeLength := min length kDmxSlotCount
  let changed :=
    !slot.initialized || slot.relevantChange (subscription.offsets index) data safeLength
  let slot := slot.touch sequence nowUs
  if changed then
    let slot := slot.store index data safeLength
    if slot.dirty then
      (m.setSlot index slot, true)
    else
      let (m, slot) := m.enqueueDirtyLocked index { slot with dirty := true }
      (m.setSlot index slot, true)
  else
    (m.setSlot index slot, false)

def publish (m : RealtimeUniverseMailbox) (universeId : Nat) (data : Option (List UInt8))
    (length : Nat) (sequence : UInt8) (nowUs : UInt64) : RealtimeUniverseMailbox × Bool :=
  match data, m.subscription with
  | some data, some subscription =>
    if hused : subscription.contains universeId = true then
      let index := ⟨universeId, RealtimeSubscription.lt_of_contains hused⟩
      match m.slots index with
      | none => (m, false)
      | some slot =>
        if slot.generation ≠ m.subscriptionGeneration then
          (m, false)
        else
          m.publishSlot subscription index slot data length sequence nowUs
    else
      (m, false)
  | _, _ => (m, false)

def consumeTokenLocked (m : RealtimeUniverseMailbox) (token : DirtyToken)
    : RealtimeUniverseMailbox × Option DmxFrame :=
  match m.slots token.universeIndex with
  | none => (m, none)
  | some slot =>
    if slot.generation ≠ token.generation || slot.tokenId ≠ token.tokenId || !slot.dirty
        || !slot.queued then
      (m, none)
    else
      (m.setSlot token.universeIndex { slot with dirty := false, queued := false }, some slot.held)

/-- One round of the loop of `consumeDirtyFrames`: pop a token and consume it in one section. -/
def consumeNext (m : RealtimeUniverseMailbox) : RealtimeUniverseMailbox × Option DmxFrame :=
  match m.dirtyTokens.pop with
  | none => (m, none)
  | some (token, dirtyTokens) => { m with dirtyTokens := dirtyTokens }.consumeTokenLocked token

def pendingDirtyCount (m : RealtimeUniverseMailbox) : Nat := m.dirtyTokens.count

/-- `consume_dirty_frames` without another thread in between. -/
def consumeDirtyFrames (m : RealtimeUniverseMailbox) : RealtimeUniverseMailbox × List DmxFrame :=
  go m.pendingDirtyCount m
where
  go : Nat → RealtimeUniverseMailbox → RealtimeUniverseMailbox × List DmxFrame
  | 0, m => (m, [])
  | n + 1, m =>
    let (m, frame) := m.consumeNext
    let (m, frames) := go n m
    (m, frame.toList ++ frames)

/-- The held frame of a slot that a reader may see. -/
def heldOf (m : RealtimeUniverseMailbox) (index : UniverseIndex) : Option DmxFrame :=
  match m.slots index with
  | none => none
  | some slot =>
    if slot.initialized && slot.generation == m.subscriptionGeneration then
      some slot.held
    else
      none

def held (m : RealtimeUniverseMailbox) (universeId : Nat) : Option DmxFrame :=
  match m.subscription with
  | none => none
  | some subscription =>
    if hused : subscription.contains universeId = true then
      m.heldOf ⟨universeId, RealtimeSubscription.lt_of_contains hused⟩
    else
      none

def heldStates (m : RealtimeUniverseMailbox) : List DmxFrame :=
  match m.subscription with
  | none => []
  | some subscription => subscription.universes.filterMap m.heldOf

/-- The sections of the threads that share a mailbox. -/
inductive Event where
  | setSubscription (subscription : Option RealtimeSubscription)
  | resetSession
  | publish (universeId : Nat) (data : Option (List UInt8)) (length : Nat) (sequence : UInt8)
      (nowUs : UInt64)
  | consumeNext
  | held (universeId : Nat)
  | heldStates
  | pendingDirtyCount

inductive Output where
  | done
  | published (accepted : Bool)
  | consumed (frame : Option DmxFrame)
  | held (frame : Option DmxFrame)
  | heldStates (frames : List DmxFrame)
  | pendingDirtyCount (count : Nat)
  deriving DecidableEq

def step (m : RealtimeUniverseMailbox) (event : Event) : RealtimeUniverseMailbox × Output :=
  match event with
  | .setSubscription subscription => (m.setSubscription subscription, .done)
  | .resetSession => (m.resetSession, .done)
  | .publish universeId data length sequence nowUs =>
    let res := m.publish universeId data length sequence nowUs
    (res.1, .published res.2)
  | .consumeNext =>
    let res := m.consumeNext
    (res.1, .consumed res.2)
  | .held universeId => (m, .held (m.held universeId))
  | .heldStates => (m, .heldStates m.heldStates)
  | .pendingDirtyCount => (m, .pendingDirtyCount m.pendingDirtyCount)

def machine : Machine RealtimeUniverseMailbox Event Output := ⟨init, step⟩

end RealtimeUniverseMailbox
end Peraviz.Dmx
