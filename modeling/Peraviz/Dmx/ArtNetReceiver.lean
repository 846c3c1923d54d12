import Peraviz.Dmx.ArtNetDmxParser
import Peraviz.Dmx.ArtNetSequenceTracker
import Peraviz.Dmx.DmxUniverseCache
import Peraviz.Dmx.Mailbox.Impl

/-!
This module contains the way of a datagram through the receiver: parser, sequence tracker, metadata
cache, mailbox and, while the monitor captures, the universe cache.
-/

namespace Peraviz.Dmx

structure MonitorCaptureBudget where
  limit : UInt32 := 4
  remaining : UInt32 := 4
  minimumIntervalUs : UInt64 := 1000
  nextCaptureUs : UInt64 := 0
  deriving DecidableEq, Repr

namespace MonitorCaptureBudget

def beginDrain (budget : MonitorCaptureBudget) : MonitorCaptureBudget :=
  { budget with remaining := budget.limit }

def tryAcquire (budget : MonitorCaptureBudget) (nowUs : UInt64) : MonitorCaptureBudget × Bool :=
  if budget.remaining = 0 ∨ nowUs < budget.nextCaptureUs then
    (budget, false)
  else
    ({ budget with
      remaining := budget.remaining - 1
      nextCaptureUs := nowUs + budget.minimumIntervalUs
    }, true)

end MonitorCaptureBudget

structure ArtNetReceiver where
  cache : DmxUniverseCache := {}
  metadataCache : DmxNetworkMetadataCache := {}
  realtimeMailbox : RealtimeUniverseMailbox := .init
  monitorCaptureBudget : MonitorCaptureBudget := {}
  monitorCaptureSession : UInt64 := 0
  sequenceTracker : ArtNetSequenceTracker := {}

namespace ArtNetReceiver

def shouldAcceptFrame (r : ArtNetReceiver) (frameView : ArtNetDmxFrameView)
    (endpoint : ArtNetEndpoint) : ArtNetReceiver × Bool :=
  let res := r.sequenceTracker.accept frameView.universeId frameView.sequence endpoint
  ({ r with sequenceTracker := res.1 }, res.2.accepted)

/-- The optional capture for the monitor, nothing if it indexes outside of the slots. -/
def capture (r : ArtNetReceiver) (frameView : ArtNetDmxFrameView) (packetTimeUs : UInt64)
    : Option ArtNetReceiver :=
  if r.monitorCaptureSession = 0 then
    some r
  else
    let res := r.monitorCaptureBudget.tryAcquire packetTimeUs
    let r := { r with monitorCaptureBudget := res.1 }
    if res.2 then do
      let cache ← r.cache.writeFrame frameView.universeId (some frameView.data) frameView.length
        frameView.sequence packetTimeUs r.monitorCaptureSession
      return { r with cache := cache }
    else
      some r

def dispatch (r : ArtNetReceiver) (frameView : ArtNetDmxFrameView) (sender : ArtNetEndpoint)
    (packetTimeUs : UInt64) : Option ArtNetReceiver := do
  let metadataCache ← r.metadataCache.observe frameView.universeId frameView.length
    frameView.sequence packetTimeUs (sender.ipv4, sender.port)
  let res := r.realtimeMailbox.publish frameView.universeId (some frameView.data) frameView.length
    frameView.sequence packetTimeUs
  { r with metadataCache := metadataCache, realtimeMailbox := res.1 }.capture frameView packetTimeUs

/-- One round of the receive loop, nothing if it indexes outside of the slots of a table. -/
def receive (r : ArtNetReceiver) (datagram : List UInt8) (sender : ArtNetEndpoint)
    (packetTimeUs : UInt64) : Option ArtNetReceiver :=
  match ArtNetDmxParser.parse (some datagram) with
  | none => some r
  | some frameView =>
    let res := r.shouldAcceptFrame frameView sender
    if res.2 then
      res.1.dispatch frameView sender packetTimeUs
    else
      some res.1

def tryGetMetadata (r : ArtNetReceiver) (universeId : Nat) : Option (Option DmxUniverseMetadata) :=
  r.metadataCache.get universeId

theorem capture_isSome (r : ArtNetReceiver) (frameView : ArtNetDmxFrameView)
    (packetTimeUs : UInt64)
    : (r.capture frameView packetTimeUs).isSome = true := by
  unfold capture
  split
  . rfl
  . dsimp only
    split
    . have h := r.cache.writeFrame_isSome frameView.universeId (some frameView.data)
        frameView.length frameView.sequence packetTimeUs r.monitorCaptureSession
      obtain ⟨cache, hcache⟩ := Option.isSome_iff_exists.mp h
      simp [hcache]
    . rfl

-- Of all the tables, only the metadata cache depends on the range of the universe.
theorem dispatch_isSome (r : ArtNetReceiver) (frameView : ArtNetDmxFrameView)
    (sender : ArtNetEndpoint) (packetTimeUs : UInt64)
    : (r.dispatch frameView sender packetTimeUs).isSome = true
        ↔ frameView.universeId < kArtNetUniverseCount := by
  rw [← r.metadataCache.observe_isSome frameView.universeId frameView.length frameView.sequence
    packetTimeUs (sender.ipv4, sender.port)]
  unfold dispatch
  cases r.metadataCache.observe frameView.universeId frameView.length frameView.sequence
    packetTimeUs (sender.ipv4, sender.port) with
  | none => simp
  | some metadataCache => simp [capture_isSome]

theorem universeId_lt_iff {datagram : List UInt8} {frameView : ArtNetDmxFrameView}
    (h : ArtNetDmxParser.parse (some datagram) = some frameView)
    : frameView.universeId < kArtNetUniverseCount ↔ ArtNetDmxParser.byte datagram 15 < 128 := by
  obtain ⟨packet, hpacket, huniverse, _⟩ := ArtNetDmxParser.parse_eq_some h
  cases hpacket
  have := ArtNetDmxParser.byte_lt datagram 14
  rw [huniverse, kArtNetUniverseCount]
  omega

theorem receive_isSome_of_lt {datagram : List UInt8} {frameView : ArtNetDmxFrameView}
    (h : ArtNetDmxParser.parse (some datagram) = some frameView)
    (hlt : frameView.universeId < kArtNetUniverseCount) (r : ArtNetReceiver)
    (sender : ArtNetEndpoint) (packetTimeUs : UInt64)
    : (r.receive datagram sender packetTimeUs).isSome = true := by
  unfold receive
  simp only [h]
  split
  . rw [dispatch_isSome]
    exact hlt
  . rfl

/-- Everything the receiver may do with the universe of an accepted packet stays in its table. -/
def IndexesInside (datagram : List UInt8) (universeId : Nat) : Prop :=
  universeId < kArtNetUniverseCount
    ∧ (∀ (r : ArtNetReceiver) sender packetTimeUs,
        (r.receive datagram sender packetTimeUs).isSome = true)
    ∧ ∀ r : ArtNetReceiver, (r.tryGetMetadata universeId).isSome = true

theorem indexesInside_iff {datagram : List UInt8} {frameView : ArtNetDmxFrameView}
    (h : ArtNetDmxParser.parse (some datagram) = some frameView)
    : IndexesInside datagram frameView.universeId ↔ ArtNetDmxParser.byte datagram 15 < 128 := by
  rw [← universeId_lt_iff h]
  constructor
  . intro hinside
    exact hinside.1
  . intro hlt
    refine ⟨hlt, receive_isSome_of_lt h hlt, ?_⟩
    intro r
    rw [tryGetMetadata, DmxNetworkMetadataCache.get_isSome]
    exact hlt

def emptyPacket (subUni net : UInt8) : List UInt8 :=
  ArtNetDmxParser.kArtNetHeader ++ [0x00, 0x50, 0, 14, 1, 0, subUni, net, 0, 0]

theorem indexesInside_emptyPacket : IndexesInside (emptyPacket 3 127) 32515 := by
  have h : ArtNetDmxParser.parse (some (emptyPacket 3 127)) = some ⟨32515, 1, 0, []⟩ := by decide
  exact (indexesInside_iff h).mpr (by decide)

/-- The first packet with the top bit of the Net byte set leaves the slots. -/
theorem exists_receive_outside
    : ∃ frameView, ArtNetDmxParser.parse (some (emptyPacket 0 128)) = some frameView
        ∧ ¬IndexesInside (emptyPacket 0 128) frameView.universeId
        ∧ ({} : ArtNetReceiver).receive (emptyPacket 0 128) {} 0 = none := by
  refine ⟨⟨32768, 1, 0, []⟩, by decide, ?_, by rfl⟩
  intro hinside
  exact absurd hinside.1 (by decide)

end ArtNetReceiver
end Peraviz.Dmx
