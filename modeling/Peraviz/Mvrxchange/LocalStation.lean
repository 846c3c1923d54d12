import Mathlib.Algebra.Order.BigOperators.Group.List
import Peraviz.Labels.Basic
import Peraviz.Mvrxchange.PacketStream
import Peraviz.Mvrxchange.ServiceName
import Peraviz.Splitting.Basic

/-!
This module contains the mDNS response of the local station, a reader of such responses, and when
the reader finds the names and the records again that the response was built from.
-/

namespace Peraviz.Mvrxchange

/-- The four bytes that `inet_pton` leaves behind, in their order in memory. -/
structure InAddr where
  first : UInt8 := 0
  second : UInt8 := 0
  third : UInt8 := 0
  fourth : UInt8 := 0

def InAddr.bytes (addr : InAddr) : List UInt8 :=
  [addr.first, addr.second, addr.third, addr.fourth]

/-- The loop cuts the name at its dots and skips what is empty between them. -/
def encodeDnsName (name : List UInt8) : List UInt8 :=
  (name.splitOn 46).flatMap (fun label =>
    if label = [] then [] else UInt8.ofNat label.length :: label) ++ [0]

def appendU16 (value : UInt16) : List UInt8 :=
  [(value >>> 8 &&& 0xff).toUInt8, (value &&& 0xff).toUInt8]

def appendRecord (name : List UInt8) (type : UInt16) (rdata : List UInt8) : List UInt8 :=
  encodeDnsName name ++ appendU16 type ++ appendU16 1 ++ appendU32 120
    ++ appendU16 (UInt16.ofNat rdata.length) ++ rdata

def srvData (hostName : List UInt8) (port : UInt16) : List UInt8 :=
  appendU16 0 ++ appendU16 0 ++ appendU16 port ++ encodeDnsName hostName

def txtData (stationUuid : List UInt8) : List UInt8 :=
  let stationTxt := ascii "StationName=Peraviz"
  let uuidTxt := ascii "StationUUID=" ++ stationUuid
  UInt8.ofNat stationTxt.length :: stationTxt ++ UInt8.ofNat uuidTxt.length :: uuidTxt

def buildMdnsResponse (serviceName hostName stationUuid : List UInt8) (port : UInt16)
    (addr : InAddr) : List UInt8 :=
  appendU16 0 ++ appendU16 0x8400 ++ appendU16 0 ++ appendU16 4 ++ appendU16 0 ++ appendU16 0
    ++ appendRecord kMvrXchangeServiceType 12 (encodeDnsName serviceName)
    ++ appendRecord serviceName 33 (srvData hostName port)
    ++ appendRecord serviceName 16 (txtData stationUuid)
    ++ appendRecord hostName 1 addr.bytes

/-- The name that `MvrXchangeLocalStation::mdns_loop` gives the host. -/
def localHostName (stationUuid : List UInt8) : List UInt8 :=
  ascii "Peraviz-" ++ stationUuid.take 8 ++ ascii ".local."

/-- The response of `MvrXchangeLocalStation::mdns_loop` after a start with a group. -/
def localResponse (stationName group stationUuid : List UInt8) (port : UInt16) (addr : InAddr)
    : List UInt8 :=
  buildMdnsResponse (localServiceName stationName group) (localHostName stationUuid) stationUuid
    port addr

/-! ### A reader of responses -/

inductive RecordData where
  | name (labels : List (List UInt8))
  | service (priority weight port : Nat) (target : List (List UInt8))
  | raw (bytes : List UInt8)
  deriving DecidableEq

structure ResourceRecord where
  owner : List (List UInt8)
  type : Nat
  recordClass : Nat
  ttl : Nat
  data : RecordData
  deriving DecidableEq

/-- A name that takes all of the bytes. -/
def decodeWhole (bytes : List UInt8) : Option (List (List UInt8)) :=
  (Labels.decode bytes).bind (fun name => if name.2 = [] then some name.1 else none)

def decodeData (type : Nat) (rdata : List UInt8) : Option RecordData :=
  if type = 12 then
    (decodeWhole rdata).map RecordData.name
  else if type = 33 then
    if rdata.length < 6 then
      none
    else
      (decodeWhole (rdata.drop 6)).map (RecordData.service (BigEndian.read (rdata.take 2))
        (BigEndian.read ((rdata.drop 2).take 2)) (BigEndian.read ((rdata.drop 4).take 2)))
  else
    some (.raw rdata)

def decodeRecord (bytes : List UInt8) : Option (ResourceRecord × List UInt8) :=
  (Labels.decode bytes).bind (fun name =>
    let fixed := name.2
    let body := fixed.drop 10
    let length := BigEndian.read ((fixed.drop 8).take 2)
    if fixed.length < 10 ∨ body.length < length then
      none
    else
      (decodeData (BigEndian.read (fixed.take 2)) (body.take length)).map (fun data =>
        ({ owner := name.1
           type := BigEndian.read (fixed.take 2)
           recordClass := BigEndian.read ((fixed.drop 2).take 2)
           ttl := BigEndian.read ((fixed.drop 4).take 4)
           data }, body.drop length)))

def decodeRecords : Nat → List UInt8 → Option (List ResourceRecord × List UInt8)
  | 0, bytes => some ([], bytes)
  | count + 1, bytes =>
    (decodeRecord bytes).bind (fun record =>
      (decodeRecords count record.2).map (fun others => (record.1 :: others.1, others.2)))

/-- The answers of a response that asks nothing and has nothing behind its answers. -/
def decodeResponse (bytes : List UInt8) : Option (List ResourceRecord) :=
  if bytes.length < 12 ∨ BigEndian.read ((bytes.drop 4).take 2) ≠ 0
      ∨ BigEndian.read ((bytes.drop 8).take 4) ≠ 0 then
    none
  else
    (decodeRecords (BigEndian.read ((bytes.drop 6).take 2)) (bytes.drop 12)).bind (fun answers =>
      if answers.2 = [] then some answers.1 else none)

/-! ### What a response is built from -/

/-- The labels of a name: what stands between its dots, where it is not empty. -/
def dnsLabels (name : List UInt8) : List (List UInt8) :=
  (name.splitOn 46).filter (fun label => label ≠ [])

def advertisedRecords (serviceName hostName stationUuid : List UInt8) (port : UInt16)
    (addr : InAddr) : List ResourceRecord :=
  [⟨dnsLabels kMvrXchangeServiceType, 12, 1, 120, .name (dnsLabels serviceName)⟩,
    ⟨dnsLabels serviceName, 33, 1, 120, .service 0 0 port.toNat (dnsLabels hostName)⟩,
    ⟨dnsLabels serviceName, 16, 1, 120, .raw (txtData stationUuid)⟩,
    ⟨dnsLabels hostName, 1, 1, 120, .raw addr.bytes⟩]

/-! ### Numbers and names that are written -/

theorem appendU16_eq (value : UInt16) : appendU16 value = BigEndian.write 2 value.toNat := by
  have hlast : (value &&& 0xff).toUInt8 = UInt8.ofNat value.toNat := by
    have := BigEndian.toUInt8_of_uint16 value 0 (by decide)
    simpa using this
  simp only [appendU16, BigEndian.toUInt8_of_uint16 value 8 (by decide), hlast]
  simp [BigEndian.write]

theorem read_appendU16 (value : UInt16) : BigEndian.read (appendU16 value) = value.toNat := by
  rw [appendU16_eq]
  exact BigEndian.read_write value.toNat_lt

@[simp]
theorem length_appendU16 (value : UInt16) : (appendU16 value).length = 2 := rfl

theorem read_appendU32 (value : UInt32) : BigEndian.read (appendU32 value) = value.toNat := by
  rw [appendU32_eq]
  exact BigEndian.read_write value.toNat_lt

@[simp]
theorem length_appendU32 (value : UInt32) : (appendU32 value).length = 4 := rfl

theorem encodeDnsName_eq (name : List UInt8)
    : encodeDnsName name = Labels.encode (dnsLabels name) := by
  unfold encodeDnsName Labels.encode dnsLabels
  congr 1
  induction name.splitOn 46 with
  | nil => rfl
  | cons label labels ih =>
    rw [List.flatMap_cons, ih, List.filter_cons]
    by_cases h : label = []
    . simp [h]
    . simp [h]

/-- The labels that are not taken for something else: the other ones are longer than 63 bytes. -/
def LabelsFit (name : List UInt8) : Prop :=
  ∀ label ∈ dnsLabels name, label.length ≤ Labels.maxLength

theorem isLabel_of_labelsFit {name : List UInt8} (h : LabelsFit name)
    : ∀ label ∈ dnsLabels name, Labels.IsLabel label := by
  intro label hlabel
  refine ⟨?_, h label hlabel⟩
  have hne := (List.mem_filter.mp hlabel).2
  rw [decide_eq_true_eq] at hne
  exact List.length_pos_iff.mpr hne

theorem decode_encodeDnsName {name : List UInt8} (h : LabelsFit name) (rest : List UInt8)
    : Labels.decode (encodeDnsName name ++ rest) = some (dnsLabels name, rest) := by
  rw [encodeDnsName_eq]
  exact Labels.decode_encode_append (isLabel_of_labelsFit h) rest

/-- The bytes that a name takes, with a length in front of each label and a zero byte. -/
def nameLength (name : List UInt8) : Nat :=
  ((dnsLabels name).map (fun label => label.length + 1)).sum + 1

theorem length_encodeDnsName (name : List UInt8)
    : (encodeDnsName name).length = nameLength name := by
  rw [encodeDnsName_eq, Labels.length_encode]
  rfl

theorem decodeWhole_eq_some_iff {bytes : List UInt8} {name : List UInt8}
    : decodeWhole bytes = some (dnsLabels name)
        ↔ LabelsFit name ∧ bytes = encodeDnsName name := by
  unfold decodeWhole
  rw [Option.bind_eq_some_iff]
  constructor
  . rintro ⟨decoded, hdecoded, hwhole⟩
    split at hwhole
    . next hrest =>
      have hboth := Labels.decode_eq_some_iff.mp hdecoded
      rw [Option.some.inj hwhole] at hboth
      refine ⟨fun label hlabel => (hboth.1 label hlabel).2, ?_⟩
      rw [hboth.2, hrest, List.append_nil, encodeDnsName_eq]
    . contradiction
  . rintro ⟨hfit, heq⟩
    refine ⟨(dnsLabels name, []), ?_, if_pos rfl⟩
    rw [heq]
    have hdecode := decode_encodeDnsName hfit []
    rwa [List.append_nil] at hdecode

/-! ### Records that are read again -/

/-- What the length of some record data is written as. -/
def writtenLength (rdata : List UInt8) : Nat :=
  rdata.length % 65536

theorem decodeRecord_appendRecord {name : List UInt8} (h : LabelsFit name) (type : UInt16)
    (rdata rest : List UInt8)
    : decodeRecord (appendRecord name type rdata ++ rest)
        = (decodeData type.toNat (rdata.take (writtenLength rdata))).map (fun data =>
            ({ owner := dnsLabels name, type := type.toNat, recordClass := 1, ttl := 120, data },
              (rdata ++ rest).drop (writtenLength rdata))) := by
  have hlength : (UInt16.ofNat rdata.length).toNat = writtenLength rdata := UInt16.toNat_ofNat'
  have hle : writtenLength rdata ≤ rdata.length := Nat.mod_le _ _
  have hbytes : appendRecord name type rdata ++ rest
      = encodeDnsName name ++ (appendU16 type ++ appendU16 1 ++ appendU32 120
        ++ appendU16 (UInt16.ofNat rdata.length) ++ (rdata ++ rest)) := by
    simp [appendRecord]
  rw [hbytes, decodeRecord, decode_encodeDnsName h, Option.bind_some]
  dsimp only
  generalize hfixed : appendU16 type ++ appendU16 1 ++ appendU32 120
    ++ appendU16 (UInt16.ofNat rdata.length) ++ (rdata ++ rest) = fixed
  have htype : fixed.take 2 = appendU16 type := by
    rw [← hfixed]
    rfl
  have hclass : (fixed.drop 2).take 2 = appendU16 1 := by
    rw [← hfixed]
    rfl
  have httl : (fixed.drop 4).take 4 = appendU32 120 := by
    rw [← hfixed]
    rfl
  have hwritten : (fixed.drop 8).take 2 = appendU16 (UInt16.ofNat rdata.length) := by
    rw [← hfixed]
    rfl
  have hbody : fixed.drop 10 = rdata ++ rest := by
    rw [← hfixed]
    rfl
  have hlong : ¬ (fixed.length < 10 ∨ (rdata ++ rest).length < writtenLength rdata) := by
    rw [← hfixed]
    simp only [List.length_append, length_appendU16, length_appendU32]
    omega
  rw [htype, hclass, httl, hwritten, hbody, read_appendU16, read_appendU16, read_appendU16,
    read_appendU32, hlength, if_neg hlong, List.take_append_of_le_length hle]
  rfl

-- The data of a record says how long it is, so a length that wraps is not read as this data.
theorem decodeRecord_eq_some_iff {name : List UInt8} (h : LabelsFit name) {type : UInt16}
    {rdata rest mid : List UInt8} {data : RecordData}
    (hdata : ∀ bytes, decodeData type.toNat bytes = some data → bytes.length = rdata.length)
    : decodeRecord (appendRecord name type rdata ++ rest)
          = some (
              { owner := dnsLabels name, type := type.toNat, recordClass := 1, ttl := 120, data },
              mid)
        ↔ rdata.length < 65536 ∧ decodeData type.toNat rdata = some data ∧ mid = rest := by
  rw [decodeRecord_appendRecord h, Option.map_eq_some_iff]
  constructor
  . rintro ⟨decoded, hdecoded, heq⟩
    rw [Prod.mk.injEq, ResourceRecord.mk.injEq] at heq
    rw [heq.1.2.2.2.2] at hdecoded
    have hlength := hdata _ hdecoded
    have hmod := Nat.mod_lt rdata.length (show 0 < 65536 by decide)
    rw [List.length_take] at hlength
    unfold writtenLength at hlength hdecoded heq
    have hsmall : rdata.length % 65536 = rdata.length := by omega
    rw [hsmall, List.take_length] at hdecoded
    rw [hsmall, List.drop_left] at heq
    exact ⟨by omega, hdecoded, heq.2.symm⟩
  . rintro ⟨hsmall, hdecoded, hmid⟩
    have hwritten : writtenLength rdata = rdata.length := Nat.mod_eq_of_lt hsmall
    refine ⟨data, ?_, ?_⟩
    . rw [hwritten, List.take_length]
      exact hdecoded
    . rw [hwritten, List.drop_left, hmid]

theorem decodeName_eq_some_iff {bytes name : List UInt8}
    : decodeData (12 : UInt16).toNat bytes = some (.name (dnsLabels name))
        ↔ LabelsFit name ∧ bytes = encodeDnsName name := by
  rw [← decodeWhole_eq_some_iff]
  change (decodeWhole bytes).map RecordData.name = some (.name (dnsLabels name)) ↔ _
  simp

theorem decodeData_service (bytes : List UInt8)
    : decodeData (33 : UInt16).toNat bytes
        = if bytes.length < 6 then none
          else (decodeWhole (bytes.drop 6)).map
            (RecordData.service (BigEndian.read (bytes.take 2))
              (BigEndian.read ((bytes.drop 2).take 2))
              (BigEndian.read ((bytes.drop 4).take 2))) := rfl

theorem decodeService_length {bytes hostName : List UInt8} {port : UInt16}
    (h : decodeData (33 : UInt16).toNat bytes
      = some (.service 0 0 port.toNat (dnsLabels hostName)))
    : LabelsFit hostName ∧ bytes.length = (srvData hostName port).length := by
  rw [decodeData_service] at h
  split at h
  . contradiction
  . next hlong =>
    rw [Option.map_eq_some_iff] at h
    obtain ⟨target, htarget, heq⟩ := h
    rw [(RecordData.service.inj heq).2.2.2, decodeWhole_eq_some_iff] at htarget
    refine ⟨htarget.1, ?_⟩
    have hlength := congrArg List.length htarget.2
    rw [List.length_drop] at hlength
    simp only [srvData, List.length_append, length_appendU16]
    omega

theorem decodeService_srvData {hostName : List UInt8} (h : LabelsFit hostName) (port : UInt16)
    : decodeData (33 : UInt16).toNat (srvData hostName port)
        = some (.service 0 0 port.toNat (dnsLabels hostName)) := by
  have hlong : ¬ (srvData hostName port).length < 6 := by
    simp only [srvData, List.length_append, length_appendU16]
    omega
  have hpriority : BigEndian.read ((srvData hostName port).take 2) = 0 := read_appendU16 0
  have hweight : BigEndian.read (((srvData hostName port).drop 2).take 2) = 0 := read_appendU16 0
  have hport : BigEndian.read (((srvData hostName port).drop 4).take 2) = port.toNat :=
    read_appendU16 port
  have htarget : decodeWhole ((srvData hostName port).drop 6) = some (dnsLabels hostName) :=
    decodeWhole_eq_some_iff.mpr ⟨h, rfl⟩
  rw [decodeData_service, if_neg hlong, hpriority, hweight, hport, htarget]
  rfl

theorem decodeRaw_eq_some_iff {type : UInt16} (hname : type.toNat ≠ 12)
    (hservice : type.toNat ≠ 33) {bytes rdata : List UInt8}
    : decodeData type.toNat bytes = some (.raw rdata) ↔ bytes = rdata := by
  unfold decodeData
  rw [if_neg hname, if_neg hservice]
  simp

theorem decodeRecords_succ_eq_some_iff {count : Nat} {bytes rest : List UInt8}
    {record : ResourceRecord} {others : List ResourceRecord}
    : decodeRecords (count + 1) bytes = some (record :: others, rest)
        ↔ ∃ mid, decodeRecord bytes = some (record, mid)
            ∧ decodeRecords count mid = some (others, rest) := by
  rw [decodeRecords, Option.bind_eq_some_iff]
  constructor
  . rintro ⟨decoded, hdecoded, hothers⟩
    rw [Option.map_eq_some_iff] at hothers
    obtain ⟨remaining, hremaining, heq⟩ := hothers
    rw [Prod.mk.injEq, List.cons.injEq] at heq
    refine ⟨decoded.2, ?_, ?_⟩
    . rw [hdecoded, ← heq.1.1]
    . rw [hremaining, ← heq.1.2, ← heq.2]
  . rintro ⟨mid, hrecord, hothers⟩
    refine ⟨(record, mid), hrecord, ?_⟩
    dsimp only
    rw [hothers]
    rfl

theorem labelsFit_serviceType : LabelsFit kMvrXchangeServiceType := by
  unfold LabelsFit
  decide +kernel

/-- The names and the data of a response fit into the lengths that are written for them. -/
structure ResponseFits (serviceName hostName stationUuid : List UInt8) : Prop where
  service : LabelsFit serviceName
  host : LabelsFit hostName
  serviceLength : nameLength serviceName < 65536
  hostLength : 6 + nameLength hostName < 65536
  uuidLength : 33 + stationUuid.length < 65536

theorem length_srvData (hostName : List UInt8) (port : UInt16)
    : (srvData hostName port).length = 6 + nameLength hostName := by
  simp only [srvData, List.length_append, length_appendU16, length_encodeDnsName]

theorem length_txtData (stationUuid : List UInt8)
    : (txtData stationUuid).length = 33 + stationUuid.length := by
  have hstation : (ascii "StationName=Peraviz").length = 19 := rfl
  have huuid : (ascii "StationUUID=").length = 12 := rfl
  simp only [txtData, List.length_append, List.length_cons, hstation, huuid]
  omega

theorem decodeRecords_iff (serviceName hostName stationUuid : List UInt8) (port : UInt16)
    (addr : InAddr)
    : decodeRecords 4 (appendRecord kMvrXchangeServiceType 12 (encodeDnsName serviceName)
          ++ (appendRecord serviceName 33 (srvData hostName port)
          ++ (appendRecord serviceName 16 (txtData stationUuid)
          ++ (appendRecord hostName 1 addr.bytes ++ []))))
          = some (advertisedRecords serviceName hostName stationUuid port addr, [])
        ↔ ResponseFits serviceName hostName stationUuid := by
  have hname : ∀ bytes,
      decodeData (12 : UInt16).toNat bytes = some (.name (dnsLabels serviceName))
      → bytes.length = (encodeDnsName serviceName).length := by
    intro bytes h
    rw [(decodeName_eq_some_iff.mp h).2]
  have hservice : ∀ bytes, decodeData (33 : UInt16).toNat bytes
      = some (.service 0 0 port.toNat (dnsLabels hostName))
      → bytes.length = (srvData hostName port).length :=
    fun bytes h => (decodeService_length h).2
  have htxt : ∀ bytes, decodeData (16 : UInt16).toNat bytes = some (.raw (txtData stationUuid))
      → bytes.length = (txtData stationUuid).length := by
    intro bytes h
    rw [(decodeRaw_eq_some_iff (by decide) (by decide)).mp h]
  have haddr : ∀ bytes, decodeData (1 : UInt16).toNat bytes = some (.raw addr.bytes)
      → bytes.length = addr.bytes.length := by
    intro bytes h
    rw [(decodeRaw_eq_some_iff (by decide) (by decide)).mp h]
  unfold advertisedRecords
  simp only [decodeRecords_succ_eq_some_iff]
  constructor
  . rintro ⟨_, hfirst, _, hsecond, _, hthird, _, hfourth, _⟩
    rw [show (12 : Nat) = (12 : UInt16).toNat from rfl,
      decodeRecord_eq_some_iff labelsFit_serviceType hname, length_encodeDnsName,
      decodeName_eq_some_iff] at hfirst
    have hfit := hfirst.2.1.1
    rw [hfirst.2.2, show (33 : Nat) = (33 : UInt16).toNat from rfl,
      decodeRecord_eq_some_iff hfit hservice, length_srvData] at hsecond
    have hhost := (decodeService_length hsecond.2.1).1
    rw [hsecond.2.2, show (16 : Nat) = (16 : UInt16).toNat from rfl,
      decodeRecord_eq_some_iff hfit htxt, length_txtData] at hthird
    exact ⟨hfit, hhost, hfirst.1, hsecond.1, hthird.1⟩
  . intro h
    refine ⟨_, (decodeRecord_eq_some_iff labelsFit_serviceType hname).mpr ⟨?_, ?_, rfl⟩,
      _, (decodeRecord_eq_some_iff h.service hservice).mpr ⟨?_, ?_, rfl⟩,
      _, (decodeRecord_eq_some_iff h.service htxt).mpr ⟨?_, ?_, rfl⟩,
      _, (decodeRecord_eq_some_iff h.host haddr).mpr ⟨?_, ?_, rfl⟩, rfl⟩
    . rw [length_encodeDnsName]
      exact h.serviceLength
    . exact decodeName_eq_some_iff.mpr ⟨h.service, rfl⟩
    . rw [length_srvData]
      exact h.hostLength
    . exact decodeService_srvData h.host port
    . rw [length_txtData]
      exact h.uuidLength
    . exact (decodeRaw_eq_some_iff (by decide) (by decide)).mpr rfl
    . exact show 4 < 65536 by decide
    . exact (decodeRaw_eq_some_iff (by decide) (by decide)).mpr rfl

theorem decodeResponse_iff (serviceName hostName stationUuid : List UInt8) (port : UInt16)
    (addr : InAddr)
    : decodeResponse (buildMdnsResponse serviceName hostName stationUuid port addr)
          = some (advertisedRecords serviceName hostName stationUuid port addr)
        ↔ ResponseFits serviceName hostName stationUuid := by
  rw [← decodeRecords_iff serviceName hostName stationUuid port addr]
  generalize hresponse : buildMdnsResponse serviceName hostName stationUuid port addr = response
  have hquestions : BigEndian.read ((response.drop 4).take 2) = 0 := by
    rw [← hresponse]
    exact read_appendU16 0
  have hanswers : BigEndian.read ((response.drop 6).take 2) = 4 := by
    rw [← hresponse]
    exact read_appendU16 4
  have hothers : BigEndian.read ((response.drop 8).take 4) = 0 := by
    rw [← hresponse]
    rfl
  have hlong : ¬ response.length < 12 := by
    rw [← hresponse]
    simp only [buildMdnsResponse, List.length_append, length_appendU16]
    omega
  have hbody : response.drop 12
      = appendRecord kMvrXchangeServiceType 12 (encodeDnsName serviceName)
          ++ (appendRecord serviceName 33 (srvData hostName port)
          ++ (appendRecord serviceName 16 (txtData stationUuid)
          ++ (appendRecord hostName 1 addr.bytes ++ []))) := by
    rw [← hresponse, buildMdnsResponse]
    simp only [List.append_assoc, List.append_nil]
    rfl
  unfold decodeResponse
  rw [hquestions, hanswers, hothers, hbody, if_neg (by simp [hlong]), Option.bind_eq_some_iff]
  constructor
  . rintro ⟨answers, hdecoded, hwhole⟩
    split at hwhole
    . next hrest =>
      rw [hdecoded, ← Option.some.inj hwhole, ← hrest]
    . contradiction
  . intro h
    exact ⟨_, h, if_pos rfl⟩

/-! ### The local station -/

theorem length_localHostName (stationUuid : List UInt8)
    : (localHostName stationUuid).length ≤ 23 := by
  have hfront : (ascii "Peraviz-").length = 8 := rfl
  have hback : (ascii ".local.").length = 7 := rfl
  simp only [localHostName, List.length_append, List.length_take, hfront, hback]
  omega

theorem nameLength_le (name : List UInt8) : nameLength name ≤ name.length + 2 := by
  have hsum := List.sum_length_splitOn (46 : UInt8) name
  have hsublist : ((dnsLabels name).map (fun label => label.length + 1)).sum
      ≤ ((name.splitOn 46).map (fun label => label.length + 1)).sum := by
    apply List.Sublist.sum_le_sum
    . exact List.filter_sublist.map _
    . exact fun _ _ => Nat.zero_le _
  unfold nameLength
  omega

theorem length_le_nameLength {name label : List UInt8} (h : label ∈ dnsLabels name)
    : label.length + 2 ≤ nameLength name := by
  have hsublist : ([label].map (fun label : List UInt8 => label.length + 1)).sum
      ≤ ((dnsLabels name).map (fun label => label.length + 1)).sum := by
    apply List.Sublist.sum_le_sum
    . exact (List.singleton_sublist.mpr h).map _
    . exact fun _ _ => Nat.zero_le _
  rw [List.map_singleton, List.sum_singleton] at hsublist
  unfold nameLength
  omega

theorem labelsFit_localHostName (stationUuid : List UInt8)
    : LabelsFit (localHostName stationUuid) := by
  intro label hlabel
  have hlength := length_le_nameLength hlabel
  have hname := nameLength_le (localHostName stationUuid)
  have hhost := length_localHostName stationUuid
  unfold Labels.maxLength
  omega

theorem localResponse_decodes_iff (stationName group stationUuid : List UInt8) (port : UInt16)
    (addr : InAddr)
    : decodeResponse (localResponse stationName group stationUuid port addr)
          = some (advertisedRecords (localServiceName stationName group) (localHostName stationUuid)
              stationUuid port addr)
        ↔ LabelsFit (localServiceName stationName group)
            ∧ nameLength (localServiceName stationName group) < 65536
            ∧ 33 + stationUuid.length < 65536 := by
  unfold localResponse
  rw [decodeResponse_iff]
  constructor
  . intro h
    exact ⟨h.service, h.serviceLength, h.uuidLength⟩
  . rintro ⟨hservice, hlength, huuid⟩
    have hname := nameLength_le (localHostName stationUuid)
    have hhost := length_localHostName stationUuid
    exact ⟨hservice, labelsFit_localHostName stationUuid, hlength, by omega, huuid⟩

-- The length of the first label is written as the byte 72, which no label may start with.
theorem longGroup_not_decoded
    : let group := List.replicate 64 (103 : UInt8)
      let uuid := ascii "00000000-0000-4000-8000-0123456789ab"
      decodeResponse (localResponse (ascii "Peraviz") group uuid 50000 {})
        ≠ some (advertisedRecords (localServiceName (ascii "Peraviz") group) (localHostName uuid)
            uuid 50000 {}) := by
  decide +kernel

end Peraviz.Mvrxchange
