import Peraviz.Dmx.ArtNetDmxParser
import Peraviz.Dmx.RealtimeSubscription

/-!
This module contains the caches of the receiver: the status record of every universe on the network
and, behind the technical monitor, the payload of every captured universe, double buffered. An
operation that would index outside of the slots has no result.
-/

namespace Peraviz.Dmx

structure DmxUniverseMetadata where
  universeId : Nat := 0
  length : Nat := 0
  lastRxUs : UInt64 := 0
  counter : UInt32 := 0
  sequence : UInt8 := 0
  contentHash : UInt32 := 0
  sourceIpv4 : UInt32 := 0
  sourcePort : UInt16 := 0
  deriving DecidableEq, Repr

structure MetadataSlot where
  length : Nat := 0
  lastRxUs : UInt64 := 0
  packets : UInt32 := 0
  sequence : UInt8 := 0
  sourceIpv4 : UInt32 := 0
  sourcePort : UInt16 := 0
  deriving DecidableEq, Repr

/-- Where `slots_[universeId]` is, if it is inside of an array with a slot for every universe. -/
def slotIndex? (universeId : Nat) : Option UniverseIndex :=
  if h : universeId < kArtNetUniverseCount then some ⟨universeId, h⟩ else none

theorem slotIndex?_isSome (universeId : Nat)
    : (slotIndex? universeId).isSome = true ↔ universeId < kArtNetUniverseCount := by
  unfold slotIndex?
  split <;> simp_all

structure DmxNetworkMetadataCache where
  slots : UniverseIndex → Option MetadataSlot := fun _ => none
  activeIds : List UniverseIndex := []

namespace DmxNetworkMetadataCache

/-- The section of `observe` under the exclusive lock. -/
def allocate (cache : DmxNetworkMetadataCache) (index : UniverseIndex) : DmxNetworkMetadataCache :=
  match cache.slots index with
  | some _ => cache
  | none =>
    { slots := Function.update cache.slots index (some {})
      activeIds := cache.activeIds ++ [index]
    }

def observe (cache : DmxNetworkMetadataCache) (universeId length : Nat) (sequence : UInt8)
    (nowUs : UInt64) (source : UInt32 × UInt16) : Option DmxNetworkMetadataCache := do
  let index ← slotIndex? universeId
  let cache := cache.allocate index
  let slot := (cache.slots index).getD {}
  return { cache with
    slots := Function.update cache.slots index (some {
      length := length
      lastRxUs := nowUs
      packets := slot.packets + 1
      sequence := sequence
      sourceIpv4 := source.1
      sourcePort := source.2
    })
  }

def get (cache : DmxNetworkMetadataCache) (universeId : Nat)
    : Option (Option DmxUniverseMetadata) := do
  let index ← slotIndex? universeId
  return (cache.slots index).map fun slot => {
    universeId := universeId
    length := slot.length
    lastRxUs := slot.lastRxUs
    counter := slot.packets
    sequence := slot.sequence
    contentHash := 0
    sourceIpv4 := slot.sourceIpv4
    sourcePort := slot.sourcePort
  }

theorem observe_isSome (cache : DmxNetworkMetadataCache) (universeId length : Nat)
    (sequence : UInt8) (nowUs : UInt64) (source : UInt32 × UInt16)
    : (cache.observe universeId length sequence nowUs source).isSome = true
        ↔ universeId < kArtNetUniverseCount := by
  unfold observe
  rw [← slotIndex?_isSome]
  cases slotIndex? universeId <;> simp

theorem get_isSome (cache : DmxNetworkMetadataCache) (universeId : Nat)
    : (cache.get universeId).isSome = true ↔ universeId < kArtNetUniverseCount := by
  unfold get
  rw [← slotIndex?_isSome]
  cases slotIndex? universeId <;> simp

end DmxNetworkMetadataCache
end Peraviz.Dmx

namespace Peraviz.Dmx

def computeDmxContentHash (data : List UInt8) (length : Nat) : UInt32 :=
  let hash := (data.take length).foldl
    (fun hash byte => (hash ^^^ byte.toUInt32) * 16777619) (2166136261 : UInt32)
  (hash ^^^ UInt32.ofNat length) * 16777619

/-- `memcpy` of the first `length` bytes of `source`. -/
def memcpy (target source : List UInt8) (length : Nat) : List UInt8 :=
  source.take length ++ target.drop length

structure UniverseSlot where
  buffers : Fin 2 → List UInt8 := fun _ => List.replicate kDmxSlotCount 0
  frontIndex : Fin 2 := 0
  length : Nat := 0
  lastRxUs : UInt64 := 0
  counter : UInt32 := 0
  sequence : UInt8 := 0
  contentHash : UInt32 := 0
  dirty : Bool := false
  captureGeneration : UInt64 := 0

structure DmxUniverseCache where
  slots : UniverseIndex → Option UniverseSlot := fun _ => none
  activeUniverseIds : List UniverseIndex := []
  activeCaptureGeneration : UInt64 := 0

namespace UniverseSlot

def unwritten : UniverseSlot :=
  {}

/-- The part of `write_frame` under the lock of the slot. -/
def write (slot : UniverseSlot) (data : List UInt8) (length : Nat) (sequence : UInt8)
    (nowUs captureGeneration : UInt64) : UniverseSlot :=
  let safeLength := min length kDmxSlotCount
  let front := slot.buffers slot.frontIndex
  let nextFront := 1 - slot.frontIndex
  let sameGeneration := slot.captureGeneration == captureGeneration
  let currentLength := if sameGeneration then slot.length else 0
  let effectiveLength := max currentLength safeLength
  let payloadChanged :=
    !sameGeneration || (decide (0 < safeLength) && front.take safeLength != data.take safeLength)
  let next := memcpy (memcpy (slot.buffers nextFront) front currentLength) data safeLength
  {
    buffers := Function.update slot.buffers nextFront next
    frontIndex := nextFront
    length := effectiveLength
    lastRxUs := nowUs
    counter := if payloadChanged then slot.counter + 1 else slot.counter
    sequence := sequence
    contentHash := computeDmxContentHash next effectiveLength
    dirty := payloadChanged || slot.dirty
    captureGeneration := captureGeneration
  }

def toFrame (slot : UniverseSlot) (universeId : Nat) : DmxFrame where
  universeId := universeId
  length := slot.length
  data := memcpy (List.replicate kDmxSlotCount 0) (slot.buffers slot.frontIndex) slot.length
  lastRxUs := slot.lastRxUs
  counter := slot.counter
  sequence := slot.sequence
  contentHash := slot.contentHash

end UniverseSlot

namespace DmxUniverseCache

/-- `slots_[universeId]` is created where it does not exist, the caller has checked the bound. -/
def getOrCreateSlot (cache : DmxUniverseCache) (universeId : Nat)
    : Option (DmxUniverseCache × UniverseIndex × UniverseSlot) := do
  let index ← slotIndex? universeId
  match cache.slots index with
  | some slot => return (cache, index, slot)
  | none =>
    return ({ cache with
      slots := Function.update cache.slots index (some {})
      activeUniverseIds := cache.activeUniverseIds ++ [index]
    }, index, {})

def writeFrame (cache : DmxUniverseCache) (universeId : Nat) (data : Option (List UInt8))
    (length : Nat) (sequence : UInt8) (nowUs captureGeneration : UInt64)
    : Option DmxUniverseCache :=
  match data with
  | none => some cache
  | some data =>
    if kArtNetUniverseCount ≤ universeId then
      some cache
    else do
      let (cache, index, slot) ← cache.getOrCreateSlot universeId
      let slot := slot.write data length sequence nowUs captureGeneration
      return { cache with slots := Function.update cache.slots index (some slot) }

def beginCaptureSession (cache : DmxUniverseCache) : DmxUniverseCache × UInt64 :=
  ({ cache with activeCaptureGeneration := cache.activeCaptureGeneration + 1 },
    cache.activeCaptureGeneration + 1)

def getSlot (cache : DmxUniverseCache) (universeId : Nat) : Option UniverseSlot :=
  if h : universeId < kArtNetUniverseCount then cache.slots ⟨universeId, h⟩ else none

def tryGetFrame (cache : DmxUniverseCache) (universeId : Nat) : Option DmxFrame := do
  let slot ← cache.getSlot universeId
  if slot.captureGeneration = cache.activeCaptureGeneration then
    return slot.toFrame universeId
  else
    none

def getDirtyUniverses (cache : DmxUniverseCache) : List UniverseIndex :=
  cache.activeUniverseIds.filter (fun index =>
    match cache.slots index with
    | some slot => slot.captureGeneration = cache.activeCaptureGeneration && slot.dirty
    | none => false)

/-- The exchange of the dirty flag, which `consume_frame` makes before it takes the lock of the
slot. -/
def claimDirty (cache : DmxUniverseCache) (universeId : Nat) : Option DmxUniverseCache := do
  let index ← slotIndex? universeId
  let slot ← cache.slots index
  if slot.captureGeneration ≠ cache.activeCaptureGeneration ∨ slot.dirty = false then
    none
  else
    return { cache with slots := Function.update cache.slots index (some { slot with
      dirty := false }) }

/-- The copy under the lock, for a caller that has claimed the dirty flag. -/
def readFrame (cache : DmxUniverseCache) (universeId : Nat) : Option DmxFrame :=
  (cache.getSlot universeId).map (fun slot => slot.toFrame universeId)

def consumeFrame (cache : DmxUniverseCache) (universeId : Nat)
    : DmxUniverseCache × Option DmxFrame :=
  match cache.claimDirty universeId with
  | none => (cache, none)
  | some claimed => (claimed, claimed.readFrame universeId)

theorem writeFrame_isSome (cache : DmxUniverseCache) (universeId : Nat)
    (data : Option (List UInt8)) (length : Nat) (sequence : UInt8)
    (nowUs captureGeneration : UInt64)
    : (cache.writeFrame universeId data length sequence nowUs captureGeneration).isSome = true := by
  unfold writeFrame
  split
  . rfl
  . next data =>
    split
    . rfl
    . next hlt =>
      unfold getOrCreateSlot slotIndex?
      rw [dif_pos (by omega)]
      simp only [Option.bind_eq_bind, Option.bind_some]
      split <;> rfl

end DmxUniverseCache
end Peraviz.Dmx
