import Mathlib.Data.List.Basic
import Mathlib.Logic.Function.Basic

namespace Peraviz.Dmx

def kArtNetUniverseCount : Nat := 32768

def kDmxSlotCount : Nat := 512

/-- The byte a reader sees at `offset` of a buffer of which the first `length` bytes are in use. -/
def byteAt (data : List UInt8) (length offset : Nat) : UInt8 :=
  if offset < length then data.getD offset 0 else 0

structure DmxFrame where
  universeId : Nat := 0
  length : Nat := 0
  data : List UInt8 := List.replicate kDmxSlotCount 0
  lastRxUs : UInt64 := 0
  counter : UInt32 := 0
  sequence : UInt8 := 0
  contentHash : UInt32 := 0
  deriving DecidableEq, Repr

/-- The byte of a frame at `offset`, `0` beyond the length. -/
def DmxFrame.byteAt (frame : DmxFrame) (offset : Nat) : UInt8 :=
  Dmx.byteAt frame.data frame.length offset

/-- `std::fill` with zeros followed by `memcpy` of the first `length` bytes of `data`. -/
def copyPayload (data : List UInt8) (length : Nat) : List UInt8 :=
  data.take length ++ List.replicate (kDmxSlotCount - (data.take length).length) 0

theorem getD_append_replicate (l : List UInt8) (n i : Nat)
    : (l ++ List.replicate n 0).getD i 0 = l.getD i 0 := by
  simp only [List.getD_eq_getElem?_getD]
  by_cases h : i < l.length
  . rw [List.getElem?_append_left h]
  . rw [List.getElem?_append_right (by omega), List.getElem?_eq_none (by omega : l.length ≤ i)]
    rw [List.getElem?_replicate]
    split <;> rfl

theorem getD_take_of_lt (l : List UInt8) {n i : Nat} (h : i < n)
    : (l.take n).getD i 0 = l.getD i 0 := by
  simp [List.getD_eq_getElem?_getD, h]

theorem byteAt_min {data : List UInt8} {length bound offset : Nat} (h : offset < bound)
    : byteAt data (min length bound) offset = byteAt data length offset := by
  unfold byteAt
  simp only [Nat.lt_min, h, and_true]

@[simp]
theorem byteAt_copyPayload (data : List UInt8) (length offset : Nat)
    : byteAt (copyPayload data length) length offset = byteAt data length offset := by
  unfold byteAt copyPayload
  split
  . next h => rw [getD_append_replicate, getD_take_of_lt _ h]
  . rfl

@[simp]
theorem byteAt_take (data : List UInt8) (length offset : Nat)
    : byteAt (data.take length) length offset = byteAt data length offset := by
  unfold byteAt
  split
  . next h => rw [getD_take_of_lt _ h]
  . rfl

end Peraviz.Dmx

namespace Peraviz.Dmx

structure ArtNetDmxFrameView where
  universeId : Nat := 0
  sequence : UInt8 := 0
  length : Nat := 0
  data : List UInt8 := []
  deriving DecidableEq, Repr

namespace ArtNetDmxParser

def kMinimumArtDmxPacketSize : Nat := 18

def kOpCodeArtDmx : Nat := 0x5000

def kMinimumProtocolVersion : Nat := 14

def kArtNetHeader : List UInt8 := [0x41, 0x72, 0x74, 0x2D, 0x4E, 0x65, 0x74, 0x00]

/-- The bytes of a buffer that is not empty at the positions read, as a number. -/
def byte (packet : List UInt8) (position : Nat) : Nat := (packet.getD position 0).toNat

def readU16Le (packet : List UInt8) (position : Nat) : Nat :=
  byte packet position ||| byte packet (position + 1) <<< 8

def readU16Be (packet : List UInt8) (position : Nat) : Nat :=
  byte packet position <<< 8 ||| byte packet (position + 1)

def parse (packetData : Option (List UInt8)) : Option ArtNetDmxFrameView :=
  match packetData with
  | none => none
  | some packet =>
    if packet.length < kMinimumArtDmxPacketSize then
      none
    else if packet.take 8 ≠ kArtNetHeader then
      none
    else if readU16Le packet 8 ≠ kOpCodeArtDmx then
      none
    else if readU16Be packet 10 < kMinimumProtocolVersion then
      none
    else
      let subuni := byte packet 14
      let net := byte packet 15
      let clampedLength := min (readU16Be packet 16) kDmxSlotCount
      if packet.length < kMinimumArtDmxPacketSize + clampedLength then
        none
      else
        some {
          -- all eight bits of the Net byte end up in the universe
          universeId := net <<< 8 ||| subuni
          sequence := packet.getD 12 0
          length := clampedLength
          data := packet.drop kMinimumArtDmxPacketSize
        }

theorem byte_lt (packet : List UInt8) (position : Nat) : byte packet position < 256 :=
  UInt8.toNat_lt _

theorem parse_eq_some {packetData : Option (List UInt8)} {view : ArtNetDmxFrameView}
    (h : parse packetData = some view)
    : ∃ packet, packetData = some packet
        ∧ view.universeId = byte packet 15 * 256 + byte packet 14
        ∧ view.length = min (readU16Be packet 16) kDmxSlotCount
        ∧ view.data = packet.drop kMinimumArtDmxPacketSize
        ∧ kMinimumArtDmxPacketSize + view.length ≤ packet.length := by
  unfold parse at h
  split at h
  . contradiction
  . next packet =>
    have hor : byte packet 15 <<< 8 ||| byte packet 14 = byte packet 15 * 256 + byte packet 14 := by
      rw [← Nat.shiftLeft_add_eq_or_of_lt (byte_lt packet 14), Nat.shiftLeft_eq]
    iterate 4
      split at h
      . contradiction
    dsimp only at h
    split at h
    . contradiction
    . next hlen =>
      injection h with h
      subst h
      exact ⟨packet, rfl, hor, rfl, rfl, Nat.le_of_not_lt hlen⟩

theorem length_le_of_parse {packetData : Option (List UInt8)} {view : ArtNetDmxFrameView}
    (h : parse packetData = some view) : view.length ≤ kDmxSlotCount := by
  obtain ⟨packet, _, _, hlen, _⟩ := parse_eq_some h
  rw [hlen]
  apply Nat.min_le_right

theorem length_le_data_of_parse {packetData : Option (List UInt8)} {view : ArtNetDmxFrameView}
    (h : parse packetData = some view) : view.length ≤ view.data.length := by
  obtain ⟨packet, _, _, _, hdata, hlen⟩ := parse_eq_some h
  rw [hdata, List.length_drop]
  omega

end ArtNetDmxParser
end Peraviz.Dmx
