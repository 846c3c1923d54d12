import Peraviz.BigEndian.Basic

/-!
This module contains the packages of an MVR-xchange stream: a header of 28 bytes with the length of
the payload, and the parser of all packages that a buffer holds.
-/

namespace Peraviz.Mvrxchange

def kMvrPackageHeader : UInt32 := 778682
def kMvrPackageVersion : UInt32 := 1
def kMvrPackageTypeJson : UInt32 := 0
def kMvrPackageTypeMvr : UInt32 := 1

/-- A `std::string`, whose `max_size` is what a pointer difference can hold. -/
structure ByteString where
  bytes : List UInt8
  length_lt : bytes.length < 2 ^ 63

def ByteString.size (data : ByteString) : UInt64 := UInt64.ofNat data.bytes.length

structure MvrXchangePacket where
  packageNumber : UInt32 := 0
  packageCount : UInt32 := 1
  packageType : UInt32 := kMvrPackageTypeJson
  payload : List UInt8
  deriving DecidableEq

def appendU32 (value : UInt32) : List UInt8 :=
  [(value >>> 24 &&& 0xff).toUInt8, (value >>> 16 &&& 0xff).toUInt8,
    (value >>> 8 &&& 0xff).toUInt8, (value &&& 0xff).toUInt8]

def appendU64 (value : UInt64) : List UInt8 :=
  ([56, 48, 40, 32, 24, 16, 8, 0] : List UInt64).map (fun shift => (value >>> shift &&& 0xff).toUInt8)

def buildMvrPackage (packageType : UInt32) (payload : List UInt8) : List UInt8 :=
  appendU32 kMvrPackageHeader ++ appendU32 kMvrPackageVersion ++ appendU32 0 ++ appendU32 1
    ++ appendU32 packageType ++ appendU64 (UInt64.ofNat payload.length) ++ payload

/-! ### Parsing

An access to the buffer answers nothing where it is outside of it. -/

def byteAt (data : ByteString) (offset : UInt64) : Option UInt8 :=
  data.bytes[offset.toNat]?

def readU32 (data : ByteString) (offset : UInt64) : Option UInt32 := do
  let a ← byteAt data offset
  let b ← byteAt data (offset + 1)
  let c ← byteAt data (offset + 2)
  let d ← byteAt data (offset + 3)
  return (a.toUInt32 <<< 24) ||| (b.toUInt32 <<< 16) ||| (c.toUInt32 <<< 8) ||| d.toUInt32

def readU64 (data : ByteString) (offset : UInt64) : Option UInt64 :=
  ([0, 1, 2, 3, 4, 5, 6, 7] : List UInt64).foldlM (fun value i => do
    let byte ← byteAt data (offset + i)
    return (value <<< 8) ||| byte.toUInt64) 0

/-- `payload.assign(data.data() + offset, length)` -/
def assign (data : ByteString) (offset length : UInt64) : Option (List UInt8) :=
  if offset.toNat + length.toNat ≤ data.bytes.length then
    some ((data.bytes.drop offset.toNat).take length.toNat)
  else
    none

/-- The version is read only after a header that matches. -/
def matchesHeader (data : ByteString) (offset : UInt64) : Option Bool := do
  let header ← readU32 data offset
  if header = kMvrPackageHeader then
    let version ← readU32 data (offset + 4)
    return version = kMvrPackageVersion
  else
    return false

/-- The package behind a header that matches, if its payload is complete, and where it ends. -/
def readPacket (data : ByteString) (offset : UInt64)
    : Option (Option (MvrXchangePacket × UInt64)) := do
  let packageNumber ← readU32 data (offset + 8)
  let packageCount ← readU32 data (offset + 12)
  let packageType ← readU32 data (offset + 16)
  let length ← readU64 data (offset + 20)
  if data.size - (offset + 28) < length then
    return none
  else
    let payload ← assign data (offset + 28) length
    return some (⟨packageNumber, packageCount, packageType, payload⟩, offset + 28 + length)

/-- The loop of the parser, which is given more rounds than there are bytes. -/
def parseFrom (data : ByteString) : Nat → UInt64 → Option (List MvrXchangePacket)
  | 0, _ => none
  | rounds + 1, offset =>
    if offset + 28 ≤ data.size then do
      let known ← matchesHeader data offset
      if known then
        match ← readPacket data offset with
        | none => return []
        | some (packet, offset) =>
          let packets ← parseFrom data rounds offset
          return packet :: packets
      else
        return []
    else
      some []

def parseMvrPackages (data : ByteString) : Option (List MvrXchangePacket) :=
  parseFrom data (data.bytes.length + 1) 0

end Peraviz.Mvrxchange
