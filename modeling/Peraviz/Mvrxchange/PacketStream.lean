import Peraviz.Framing.Basic
import Peraviz.Mvrxchange.Packet

/-!
This module contains the round trip of an MVR-xchange stream: the parser reads what `splitPacket`
takes from the front of the buffer, and a package is what `splitPacket` takes back.
-/

namespace Peraviz.Mvrxchange

def headerField (input : List UInt8) (start width : Nat) : Nat :=
  BigEndian.read ((input.drop start).take width)

/-- The package in front of the bytes that are left of a buffer. -/
def splitPacket (input : List UInt8) : Option (MvrXchangePacket × List UInt8) :=
  let length := headerField input 20 8
  if input.length < 28 then none
  else if !(headerField input 0 4 = kMvrPackageHeader.toNat &&
      headerField input 4 4 = kMvrPackageVersion.toNat) then none
  else if input.length - 28 < length then none
  else
    some ({
      packageNumber := UInt32.ofNat (headerField input 8 4)
      packageCount := UInt32.ofNat (headerField input 12 4)
      packageType := UInt32.ofNat (headerField input 16 4)
      payload := (input.drop 28).take length
    }, input.drop (28 + length))

/-! ### The parser reads the front of the buffer -/

section

variable {data : ByteString} {offset k : UInt64}

theorem byteAt_add (h : offset.toNat + k.toNat < 2 ^ 64)
    : byteAt data (offset + k) = (data.bytes.drop offset.toNat)[k.toNat]? := by
  rw [byteAt, UInt64.toNat_add, Nat.mod_eq_of_lt h, List.getElem?_drop]

theorem headerField_drop (start width : Nat)
    : headerField (data.bytes.drop offset.toNat) start width
        = BigEndian.read ((data.bytes.drop (offset.toNat + start)).take width) := by
  rw [headerField, List.drop_drop]

theorem exists_four {bytes : List UInt8} (h : bytes.length = 4)
    : ∃ a b c d, bytes = [a, b, c, d] := by
  match bytes, h with
  | [a, b, c, d], _ => exact ⟨a, b, c, d, rfl⟩

theorem readU32_eq (h : offset.toNat + k.toNat + 4 ≤ data.bytes.length)
    : readU32 data (offset + k)
        = some (UInt32.ofNat (headerField (data.bytes.drop offset.toNat) k.toNat 4)) := by
  have hlt := data.length_lt
  have hadd : (offset + k).toNat = offset.toNat + k.toNat := by
    rw [UInt64.toNat_add, Nat.mod_eq_of_lt (by omega)]
  have hlength : ((data.bytes.drop (offset + k).toNat).take 4).length = 4 := by
    rw [List.length_take, List.length_drop]
    omega
  have hfour := exists_four hlength
  cases hfour with
  | intro a hfour =>
    obtain ⟨b, c, d, hfour⟩ := hfour
    have hbyte (i : UInt64) (hi : i.toNat < 4)
        : byteAt data (offset + k + i) = [a, b, c, d][i.toNat]? := by
      rw [byteAt_add (by omega), ← hfour, List.getElem?_take_of_lt hi]
    have hfirst := hbyte 0 (by decide)
    rw [UInt64.add_zero] at hfirst
    simp only [readU32, hfirst, hbyte 1 (by decide), hbyte 2 (by decide), hbyte 3 (by decide)]
    rw [headerField_drop, ← hadd, hfour, ← BigEndian.or_toUInt32]
    rfl

theorem map_getElem_eight {bytes : List UInt8} (h : bytes.length = 8)
    : [bytes[0]?, bytes[1]?, bytes[2]?, bytes[3]?, bytes[4]?, bytes[5]?, bytes[6]?, bytes[7]?]
        = bytes.map some := by
  match bytes, h with
  | [_, _, _, _, _, _, _, _], _ => rfl

theorem foldlM_shiftIn {bytes : List UInt8} (indices : List UInt64) (value : Nat)
    (h : indices.map (fun i => byteAt data (offset + i)) = bytes.map some)
    : indices.foldlM (fun value i => do
        let byte ← byteAt data (offset + i)
        return (value <<< 8) ||| byte.toUInt64) (UInt64.ofNat value)
        = some (UInt64.ofNat (BigEndian.readFrom value bytes)) := by
  induction indices generalizing bytes value with
  | nil =>
    cases bytes with
    | nil => rfl
    | cons byte bytes => simp at h
  | cons i indices ih =>
    cases bytes with
    | nil => simp at h
    | cons byte bytes =>
      simp only [List.map_cons, List.cons.injEq] at h
      simp only [List.foldlM_cons, h.1, Option.bind_eq_bind, Option.bind_some, Option.pure_def,
        BigEndian.shiftIn]
      exact ih _ h.2

theorem readU64_eq (h : offset.toNat + k.toNat + 8 ≤ data.bytes.length)
    : readU64 data (offset + k)
        = some (UInt64.ofNat (headerField (data.bytes.drop offset.toNat) k.toNat 8)) := by
  have hlt := data.length_lt
  have hadd : (offset + k).toNat = offset.toNat + k.toNat := by
    rw [UInt64.toNat_add, Nat.mod_eq_of_lt (by omega)]
  have hlength : ((data.bytes.drop (offset + k).toNat).take 8).length = 8 := by
    rw [List.length_take, List.length_drop]
    omega
  have hbyte (i : UInt64) (hi : i.toNat < 8)
      : byteAt data (offset + k + i)
          = ((data.bytes.drop (offset + k).toNat).take 8)[i.toNat]? := by
    rw [byteAt_add (by omega), List.getElem?_take_of_lt hi]
  rw [headerField_drop, ← hadd, BigEndian.read, readU64]
  apply foldlM_shiftIn
  simp only [List.map_cons, List.map_nil, hbyte 0 (by decide), hbyte 1 (by decide),
    hbyte 2 (by decide), hbyte 3 (by decide), hbyte 4 (by decide), hbyte 5 (by decide),
    hbyte 6 (by decide), hbyte 7 (by decide)]
  exact map_getElem_eight hlength

theorem headerField_lt (input : List UInt8) (start width : Nat)
    : headerField input start width < 256 ^ width := by
  apply Nat.lt_of_lt_of_le (BigEndian.read_lt _)
  apply Nat.pow_le_pow_right (by omega)
  rw [List.length_take]
  omega

theorem ofNat_headerField_eq {input : List UInt8} {start : Nat} {value : UInt32}
    : UInt32.ofNat (headerField input start 4) = value
        ↔ headerField input start 4 = value.toNat := by
  have hlt : headerField input start 4 < 2 ^ 32 := headerField_lt input start 4
  rw [← UInt32.toNat_inj, UInt32.toNat_ofNat', Nat.mod_eq_of_lt hlt]

theorem matchesHeader_eq (h : offset.toNat + 28 ≤ data.bytes.length)
    : matchesHeader data offset
        = some (headerField (data.bytes.drop offset.toNat) 0 4 = kMvrPackageHeader.toNat
          && headerField (data.bytes.drop offset.toNat) 4 4 = kMvrPackageVersion.toNat) := by
  have hheader : readU32 data offset
      = some (UInt32.ofNat (headerField (data.bytes.drop offset.toNat) 0 4)) := by
    have := @readU32_eq data offset 0 (by change offset.toNat + 0 + 4 ≤ _; omega)
    rwa [UInt64.add_zero] at this
  have hversion : readU32 data (offset + 4)
      = some (UInt32.ofNat (headerField (data.bytes.drop offset.toNat) 4 4)) :=
    readU32_eq (by change offset.toNat + 4 + 4 ≤ _; omega)
  simp only [matchesHeader, hheader, hversion, Option.bind_eq_bind, Option.bind_some,
    ofNat_headerField_eq, Option.pure_def]
  split
  next heq => simp [heq]
  next hne => simp [hne]

theorem toNat_size : data.size.toNat = data.bytes.length := by
  have hlt := data.length_lt
  rw [ByteString.size, UInt64.toNat_ofNat', Nat.mod_eq_of_lt (by omega)]

theorem toNat_payloadOffset (h : offset.toNat + 28 ≤ data.bytes.length)
    : (offset + 28).toNat = offset.toNat + 28 := by
  have hlt := data.length_lt
  have h28 : (28 : UInt64).toNat = 28 := rfl
  rw [UInt64.toNat_add, h28, Nat.mod_eq_of_lt (by omega)]

/-- Where a package ends that begins at an offset. -/
def packetEnd (offset : UInt64) (input : List UInt8) : UInt64 :=
  offset + 28 + UInt64.ofNat (headerField input 20 8)

theorem toNat_length (input : List UInt8)
    : (UInt64.ofNat (headerField input 20 8)).toNat = headerField input 20 8 := by
  have hlt : headerField input 20 8 < 2 ^ 64 := headerField_lt input 20 8
  rw [UInt64.toNat_ofNat', Nat.mod_eq_of_lt hlt]

theorem toNat_packetEnd {input : List UInt8} (h : offset.toNat + 28 ≤ data.bytes.length)
    (hfits : headerField input 20 8 ≤ data.bytes.length - offset.toNat - 28)
    : (packetEnd offset input).toNat = offset.toNat + (28 + headerField input 20 8) := by
  have hlt := data.length_lt
  rw [packetEnd, UInt64.toNat_add, toNat_payloadOffset h, toNat_length,
    Nat.mod_eq_of_lt (by omega)]
  omega

theorem readPacket_eq {input : List UInt8} (hinput : data.bytes.drop offset.toNat = input)
    (h : offset.toNat + 28 ≤ data.bytes.length)
    : readPacket data offset
        = some (if data.bytes.length - offset.toNat - 28 < headerField input 20 8 then none
          else some ({
            packageNumber := UInt32.ofNat (headerField input 8 4)
            packageCount := UInt32.ofNat (headerField input 12 4)
            packageType := UInt32.ofNat (headerField input 16 4)
            payload := (input.drop 28).take (headerField input 20 8)
          }, packetEnd offset input)) := by
  have hnumber : readU32 data (offset + 8) = some (UInt32.ofNat (headerField input 8 4)) :=
    hinput ▸ readU32_eq (by change offset.toNat + 8 + 4 ≤ _; omega)
  have hcount : readU32 data (offset + 12) = some (UInt32.ofNat (headerField input 12 4)) :=
    hinput ▸ readU32_eq (by change offset.toNat + 12 + 4 ≤ _; omega)
  have htype : readU32 data (offset + 16) = some (UInt32.ofNat (headerField input 16 4)) :=
    hinput ▸ readU32_eq (by change offset.toNat + 16 + 4 ≤ _; omega)
  have hlength : readU64 data (offset + 20) = some (UInt64.ofNat (headerField input 20 8)) :=
    hinput ▸ readU64_eq (by change offset.toNat + 20 + 8 ≤ _; omega)
  have hpayload := toNat_payloadOffset h
  have hleft : (data.size - (offset + 28)).toNat = data.bytes.length - offset.toNat - 28 := by
    rw [UInt64.toNat_sub_of_le, toNat_size, hpayload]
    . omega
    . rw [UInt64.le_iff_toNat_le, toNat_size, hpayload]
      exact h
  simp only [readPacket, hnumber, hcount, htype, hlength, Option.bind_eq_bind, Option.bind_some,
    Option.pure_def, UInt64.lt_iff_toNat_lt, hleft, toNat_length]
  split
  next => rfl
  next hfits =>
    rw [assign, hpayload, toNat_length, if_pos (by omega), ← List.drop_drop, hinput]
    rfl

-- The parser reads inside of the buffer, and what `splitPacket` takes from its front.
theorem parseFrom_eq {rounds : Nat} (hoffset : offset.toNat ≤ data.bytes.length)
    (hrounds : data.bytes.length - offset.toNat < rounds)
    : parseFrom data rounds offset
        = some (Framing.readAll splitPacket rounds (data.bytes.drop offset.toNat)) := by
  induction rounds generalizing offset with
  | zero => omega
  | succ rounds ih =>
    have hlt := data.length_lt
    have hinput : (data.bytes.drop offset.toNat).length = data.bytes.length - offset.toNat :=
      List.length_drop
    have hheader : (offset + 28 ≤ data.size) ↔ offset.toNat + 28 ≤ data.bytes.length := by
      have h28 : (28 : UInt64).toNat = 28 := rfl
      rw [UInt64.le_iff_toNat_le, toNat_size, UInt64.toNat_add, h28, Nat.mod_eq_of_lt (by omega)]
    rw [parseFrom, Framing.readAll]
    simp only [hheader]
    rw [splitPacket]
    by_cases hshort : offset.toNat + 28 ≤ data.bytes.length
    . rw [if_pos hshort, matchesHeader_eq hshort, readPacket_eq rfl hshort]
      have hlong : ¬(data.bytes.drop offset.toNat).length < 28 := by omega
      generalize hdrop : data.bytes.drop offset.toNat = input at *
      simp only [Option.bind_eq_bind, Option.bind_some, if_neg hlong]
      generalize hknown : (decide (headerField input 0 4 = kMvrPackageHeader.toNat)
        && decide (headerField input 4 4 = kMvrPackageVersion.toNat)) = known
      cases known with
      | false => rfl
      | true =>
        simp only [Bool.not_true, Bool.false_eq_true, if_false, if_true]
        by_cases hcut : data.bytes.length - offset.toNat - 28 < headerField input 20 8
        . have hcut' : input.length - 28 < headerField input 20 8 := by omega
          rw [if_pos hcut, if_pos hcut']
          rfl
        . have hcut' : ¬input.length - 28 < headerField input 20 8 := by omega
          have hend : (packetEnd offset input).toNat
              = offset.toNat + (28 + headerField input 20 8) :=
            toNat_packetEnd hshort (by omega)
          rw [if_neg hcut, if_neg hcut']
          dsimp only
          rw [ih (by omega) (by omega), hend, ← List.drop_drop, hdrop]
          rfl
    . have hlong : (data.bytes.drop offset.toNat).length < 28 := by omega
      rw [if_neg hshort, if_pos hlong]

end

/-! ### A package is split off -/

theorem appendU32_eq (value : UInt32) : appendU32 value = BigEndian.write 4 value.toNat := by
  have hlast : (value &&& 0xff).toUInt8 = UInt8.ofNat value.toNat := by
    have := BigEndian.toUInt8_of_uint32 value 0 (by decide)
    simpa using this
  simp only [appendU32, BigEndian.toUInt8_of_uint32 value 24 (by decide),
    BigEndian.toUInt8_of_uint32 value 16 (by decide),
    BigEndian.toUInt8_of_uint32 value 8 (by decide), hlast]
  simp [BigEndian.write]

theorem appendU64_eq (value : UInt64) : appendU64 value = BigEndian.write 8 value.toNat := by
  have hshift (shift : UInt64) (h : shift ∈ ([56, 48, 40, 32, 24, 16, 8, 0] : List UInt64))
      : (value >>> shift &&& 0xff).toUInt8 = UInt8.ofNat (value.toNat / 2 ^ shift.toNat) := by
    apply BigEndian.toUInt8_of_uint64
    simp only [List.mem_cons, List.not_mem_nil, or_false] at h
    rcases h with rfl | rfl | rfl | rfl | rfl | rfl | rfl | rfl <;> decide
  rw [appendU64, List.map_congr_left hshift]
  simp [BigEndian.write]

theorem headerField_skip {width' n start width : Nat} {input : List UInt8} (h : width' ≤ start)
    : headerField (BigEndian.write width' n ++ input) start width
        = headerField input (start - width') width := by
  rw [headerField, headerField, List.drop_append, BigEndian.length_write,
    List.drop_eq_nil_of_le (by simpa using h), List.nil_append]

theorem headerField_front {width n : Nat} {input : List UInt8} (h : n < 256 ^ width)
    : headerField (BigEndian.write width n ++ input) 0 width = n := by
  rw [headerField, List.drop_zero, List.take_left' (BigEndian.length_write width n),
    BigEndian.read_write h]

theorem headerField_take {input : List UInt8} {start width n : Nat} (h : start + width ≤ n)
    : headerField (input.take n) start width = headerField input start width := by
  rw [headerField, headerField, List.drop_take, List.take_take, Nat.min_eq_left (by omega)]

def encodePacket (packet : MvrXchangePacket) : List UInt8 :=
  buildMvrPackage packet.packageType packet.payload

/-- A packet as `build_mvr_package` numbers it, with a payload that has a length. -/
structure MvrXchangePacket.Sent (packet : MvrXchangePacket) : Prop where
  packageNumber : packet.packageNumber = 0
  packageCount : packet.packageCount = 1
  length_lt : packet.payload.length < 2 ^ 64

section

variable {packet : MvrXchangePacket}

theorem encodePacket_eq (h : packet.Sent) (rest : List UInt8)
    : encodePacket packet ++ rest
        = BigEndian.write 4 kMvrPackageHeader.toNat ++ (BigEndian.write 4 kMvrPackageVersion.toNat
          ++ (BigEndian.write 4 0 ++ (BigEndian.write 4 1
          ++ (BigEndian.write 4 packet.packageType.toNat
          ++ (BigEndian.write 8 packet.payload.length ++ (packet.payload ++ rest)))))) := by
  have hlength : (UInt64.ofNat packet.payload.length).toNat = packet.payload.length := by
    rw [UInt64.toNat_ofNat', Nat.mod_eq_of_lt h.length_lt]
  simp only [encodePacket, buildMvrPackage, appendU32_eq, appendU64_eq, hlength,
    List.append_assoc]
  rfl

/-- The fields that `splitPacket` finds in front of a package. -/
structure HeaderOf (packet : MvrXchangePacket) (input : List UInt8) : Prop where
  header : headerField input 0 4 = kMvrPackageHeader.toNat
  version : headerField input 4 4 = kMvrPackageVersion.toNat
  packageNumber : headerField input 8 4 = 0
  packageCount : headerField input 12 4 = 1
  packageType : headerField input 16 4 = packet.packageType.toNat
  length : headerField input 20 8 = packet.payload.length

theorem headerOf_encodePacket (h : packet.Sent) (rest : List UInt8)
    : HeaderOf packet (encodePacket packet ++ rest) := by
  rw [encodePacket_eq h]
  constructor
  . apply headerField_front
    decide
  . rw [headerField_skip (by omega)]
    apply headerField_front
    decide
  . rw [headerField_skip (by omega), headerField_skip (by omega)]
    apply headerField_front
    omega
  . rw [headerField_skip (by omega), headerField_skip (by omega), headerField_skip (by omega)]
    apply headerField_front
    omega
  . rw [headerField_skip (by omega), headerField_skip (by omega), headerField_skip (by omega),
      headerField_skip (by omega)]
    apply headerField_front
    apply packet.packageType.toNat_lt
  . rw [headerField_skip (by omega), headerField_skip (by omega), headerField_skip (by omega),
      headerField_skip (by omega), headerField_skip (by omega)]
    apply headerField_front
    apply h.length_lt

theorem length_encodePacket (packet : MvrXchangePacket)
    : (encodePacket packet).length = 28 + packet.payload.length := by
  simp [encodePacket, buildMvrPackage, appendU32_eq, appendU64_eq]
  omega

theorem drop_encodePacket (packet : MvrXchangePacket) (rest : List UInt8)
    : (encodePacket packet ++ rest).drop 28 = packet.payload ++ rest := by
  rw [encodePacket, buildMvrPackage, List.append_assoc, List.drop_left']
  simp [appendU32_eq, appendU64_eq]

theorem delimits_encodePacket (h : packet.Sent)
    : Framing.Delimits encodePacket splitPacket packet where
  read_append rest := by
    have hheader := headerOf_encodePacket h rest
    have hlength : ¬(encodePacket packet ++ rest).length < 28 := by
      rw [List.length_append, length_encodePacket]
      omega
    have hcut : ¬(encodePacket packet ++ rest).length - 28 < packet.payload.length := by
      rw [List.length_append, length_encodePacket]
      omega
    simp only [splitPacket, if_neg hlength, hheader.header, hheader.version, decide_true,
      Bool.and_true, Bool.not_true, Bool.false_eq_true, if_false, hheader.length, if_neg hcut,
      hheader.packageNumber, hheader.packageCount, hheader.packageType, ← List.drop_drop,
      drop_encodePacket, List.take_left, List.drop_left, UInt32.ofNat_toNat]
    have hnumber := h.packageNumber
    have hcount := h.packageCount
    cases packet
    simp only at hnumber hcount
    subst hnumber
    subst hcount
    rfl
  read_take n hn := by
    have hheader := headerOf_encodePacket h []
    rw [List.append_nil] at hheader
    have hlength : ((encodePacket packet).take n).length = n := by
      rw [List.length_take, Nat.min_eq_left (by omega)]
    rw [length_encodePacket] at hn
    simp only [splitPacket, hlength]
    split
    next => rfl
    next hlong =>
      rw [headerField_take (by omega), headerField_take (by omega), headerField_take (by omega),
        hheader.header, hheader.version, hheader.length]
      simp
      omega

end

/-! ### Streams -/

theorem parseMvrPackages_eq (data : ByteString)
    : parseMvrPackages data
        = some (Framing.readAll splitPacket (data.bytes.length + 1) data.bytes) := by
  have hzero : (0 : UInt64).toNat = 0 := rfl
  rw [parseMvrPackages, parseFrom_eq (by omega) (by omega), hzero, List.drop_zero]

theorem splitPacket_nil : splitPacket [] = none := rfl

def sentPackets (packages : List (UInt32 × List UInt8)) : List MvrXchangePacket :=
  packages.map (fun package => { packageType := package.1, payload := package.2 })

def sentStream (packages : List (UInt32 × List UInt8)) : List UInt8 :=
  packages.flatMap (fun package => buildMvrPackage package.1 package.2)

theorem sentStream_eq (packages : List (UInt32 × List UInt8))
    : sentStream packages = (sentPackets packages).flatMap encodePacket := by
  rw [sentStream, sentPackets, List.flatMap_map]
  rfl

theorem length_payload_le {packages : List (UInt32 × List UInt8)} {package : UInt32 × List UInt8}
    (h : package ∈ packages)
    : package.2.length ≤ (sentStream packages).length := by
  have hlength := length_encodePacket { packageType := package.1, payload := package.2 }
  simp only [encodePacket] at hlength
  cases List.append_of_mem h with
  | intro front hsplit =>
    obtain ⟨back, hsplit⟩ := hsplit
    rw [hsplit, sentStream]
    simp only [List.flatMap_append, List.flatMap_cons, List.length_append]
    omega

theorem sent_sentPackets {packages : List (UInt32 × List UInt8)} {stream : ByteString}
    (hstream : stream.bytes = sentStream packages)
    : ∀ packet ∈ sentPackets packages, Framing.Delimits encodePacket splitPacket packet := by
  intro packet hpacket
  rw [sentPackets, List.mem_map] at hpacket
  cases hpacket with
  | intro package hpackage =>
    have hlength := length_payload_le hpackage.1
    have hlt := stream.length_lt
    rw [hstream] at hlt
    rw [← hpackage.2]
    apply delimits_encodePacket
    constructor
    . rfl
    . rfl
    . dsimp only
      omega

/-- The parser stays inside of any buffer, reads all packages of a stream, and reads the front of
them from a stream that is cut off. -/
theorem parseMvrPackages_sentStream (data : ByteString)
    : (∃ packets, parseMvrPackages data = some packets)
        ∧ ∀ (packages : List (UInt32 × List UInt8)) (stream : ByteString),
          stream.bytes = sentStream packages
            → (data.bytes = stream.bytes → parseMvrPackages data = some (sentPackets packages))
              ∧ (data.bytes <+: stream.bytes
                → ∃ packets, parseMvrPackages data = some packets
                  ∧ packets <+: sentPackets packages) := by
  refine ⟨⟨_, parseMvrPackages_eq data⟩, ?_⟩
  intro packages stream hstream
  have hsent := sent_sentPackets hstream
  rw [parseMvrPackages_eq, hstream, sentStream_eq]
  constructor
  . intro hdata
    have hcount := Framing.length_le_flatMap hsent splitPacket_nil
    rw [hdata, Framing.readAll_flatMap hsent splitPacket_nil (by omega)]
  . intro hdata
    have htake := List.prefix_iff_eq_take.mp hdata
    refine ⟨_, rfl, ?_⟩
    nth_rewrite 2 [htake]
    apply Framing.readAll_take hsent splitPacket_nil

def twoPackages : List (UInt32 × List UInt8) :=
  [(kMvrPackageTypeJson, [1, 2, 3]), (kMvrPackageTypeMvr, [])]

def cutStream : ByteString where
  bytes := (sentStream twoPackages).take 58
  length_lt := by decide

theorem parseMvrPackages_cutStream
    : (∃ packets, parseMvrPackages cutStream = some packets)
        ∧ ∃ packets, parseMvrPackages cutStream = some packets
          ∧ packets <+: sentPackets twoPackages :=
  ⟨(parseMvrPackages_sentStream cutStream).1,
    ((parseMvrPackages_sentStream cutStream).2 twoPackages ⟨sentStream twoPackages, by decide⟩
      rfl).2 (List.take_prefix _ _)⟩

end Peraviz.Mvrxchange
