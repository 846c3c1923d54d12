import Peraviz.Mvrxchange.Json
import Peraviz.Mvrxchange.Packet
import Peraviz.Mvrxchange.ReceivedFile
import Peraviz.Transition.Machine

/-!
This module contains the transfer client of MVR-xchange: the tables of stations and commits, and the
two threads that write them beside the calls of the program: the local station, which receives
pushed messages, and the worker of a join or a request.
-/

namespace Peraviz.Mvrxchange

structure StationInfo where
  stationName : List UInt8
  group : List UInt8 := []
  serviceName : List UInt8
  host : List UInt8 := []
  address : List UInt8 := []
  port : UInt16 := 0
  lastSeenUs : UInt64 := 0
  txt : List (List UInt8 × List UInt8) := []
  deriving DecidableEq

structure MvrXchangeCommitInfo where
  serviceName : List UInt8
  stationName : List UInt8
  fileUuid : List UInt8
  timestamp : List UInt8
  message : List UInt8
  seenUs : UInt64
  deriving DecidableEq

structure MvrXchangeEvent where
  type : List UInt8
  serviceName : List UInt8
  stationName : List UInt8
  fileUuid : List UInt8
  path : List UInt8
  message : List UInt8
  sizeBytes : UInt64

/-- What the threads share under the mutex, and the flag `busy_`. -/
structure TransferShared where
  busy : Bool := false
  stations : List UInt8 → Option StationInfo := fun _ => none
  commits : List UInt8 → Option MvrXchangeCommitInfo := fun _ => none
  events : List MvrXchangeEvent := []
  eventCount : UInt64 := 0
  lastError : List UInt8 := []
  currentStationUuid : List UInt8 := []
  currentFileUuid : List UInt8 := []
  lastReceivedFilePath : List UInt8 := []
  receivedByteCount : UInt64 := 0

def parseCommitMessage (message serviceName stationName : List UInt8) (now : UInt64)
    : MvrXchangeCommitInfo where
  serviceName := serviceName
  stationName := stationName
  fileUuid := canonicalizeUuid (jsonStringValue message
    [ascii "FileUUID", ascii "FileUuid", ascii "file_uuid", ascii "uuid"])
  timestamp := jsonStringValue message
    [ascii "Timestamp", ascii "CommitTime", ascii "timestamp"]
  message := jsonStringValue message
    [ascii "Message", ascii "Comment", ascii "CommitMessage", ascii "Name", ascii "message"]
  seenUs := now

/-! ### Atomic sections -/

/-- What a thread does in one go. -/
inductive TransferOp where
  | storeCommit (key : List UInt8) (commit : MvrXchangeCommitInfo)
  | pushEvent (event : MvrXchangeEvent)
  | setLastError (message : List UInt8)
  | storeReceived (path : List UInt8) (byteCount : UInt64)
  | release

namespace TransferShared

def pushEvent (shared : TransferShared) (event : MvrXchangeEvent) : TransferShared :=
  { shared with events := shared.events ++ [event], eventCount := shared.eventCount + 1 }

def setLastError (shared : TransferShared) (message : List UInt8) : TransferShared :=
  { shared with lastError := message }

def storeCommit (shared : TransferShared) (key : List UInt8) (commit : MvrXchangeCommitInfo)
    : TransferShared :=
  { shared with commits := Function.update shared.commits key (some commit) }

def run (shared : TransferShared) : TransferOp → TransferShared
  | .storeCommit key commit => shared.storeCommit key commit
  | .pushEvent event => shared.pushEvent event
  | .setLastError message => shared.setLastError message
  | .storeReceived path byteCount =>
    { shared with lastReceivedFilePath := path, receivedByteCount := byteCount }
  | .release => { shared with busy := false }

end TransferShared

def commitAvailable (serviceName stationName fileUuid message : List UInt8) : MvrXchangeEvent where
  type := ascii "commit_available"
  serviceName := serviceName
  stationName := stationName
  fileUuid := fileUuid
  path := []
  message := message
  sizeBytes := 0

/-! ### Pushed messages -/

def missingFileUuid : List UInt8 := ascii "Received MVR_COMMIT without a valid FileUUID"

/-- The callback of the local station. A pushed commit is kept under the text of its StationUUID. -/
def receivedMessage (type payload : List UInt8) (now : UInt64) : List TransferOp :=
  if type = ascii "MVR_COMMIT" then
    let stationUuid := jsonStringValue payload [ascii "StationUUID"]
    let parsed := parseCommitMessage payload stationUuid stationUuid now
    if parsed.fileUuid = [] then
      [.setLastError missingFileUuid,
        .pushEvent {
          type := ascii "protocol_error", serviceName := parsed.serviceName
          stationName := parsed.stationName, fileUuid := [], path := []
          message := missingFileUuid, sizeBytes := 0 }]
    else
      let commit :=
        if parsed.serviceName = [] then { parsed with serviceName := parsed.stationName }
        else parsed
      [.storeCommit commit.serviceName commit,
        .pushEvent (commitAvailable commit.serviceName commit.stationName commit.fileUuid
          commit.message)]
  else []

/-! ### Worker -/

inductive ConnectOutcome where
  | connected | unresolved | refused
  deriving DecidableEq

/-- What a worker meets: the network, the clock at each message, and the file system. -/
structure WorkerOutcome where
  connect : ConnectOutcome := .connected
  sends : Bool := true
  received : ByteString
  clock : Nat → UInt64 := fun _ => 0
  writeFaults : WriteFaults := {}
  files : Files (List UInt8) (List UInt8) := fun _ => none

def connectTcp (station : StationInfo) (outcome : ConnectOutcome) : Option (List UInt8) :=
  let host := if station.address ≠ [] then station.address else station.host
  if host = [] ∨ station.port = 0 then some (ascii "Station has no TCP endpoint")
  else
    match outcome with
    | .connected => none
    | .unresolved => some (ascii "Unable to resolve station address")
    | .refused => some (ascii "Unable to connect to station")

/-- A started worker. -/
structure TransferTask where
  station : StationInfo
  fileUuid : List UInt8
  targetPath : List UInt8
  requestFile : Bool

namespace TransferTask

variable (task : TransferTask)

def event (type fileUuid path message : List UInt8) (sizeBytes : UInt64) : MvrXchangeEvent where
  type := type
  serviceName := task.station.serviceName
  stationName := task.station.stationName
  fileUuid := fileUuid
  path := path
  message := message
  sizeBytes := sizeBytes

def startedEvent : MvrXchangeEvent :=
  task.event (if task.requestFile then ascii "transfer_started" else ascii "join_started")
    task.fileUuid task.targetPath [] 0

/-- The end of a worker that fails. -/
def fail (error : List UInt8) : List TransferOp :=
  [.setLastError error,
    .pushEvent (task.event
      (if task.requestFile then ascii "transfer_failed" else ascii "join_failed")
      task.fileUuid task.targetPath error 0),
    .release]

/-- A packet of a reply to a join that is taken for a commit. -/
def isCommitPacket (packet : MvrXchangePacket) (commit : MvrXchangeCommitInfo) : Bool :=
  commit.fileUuid ≠ [] || containsText (ascii "MVR_COMMIT") packet.payload
    || containsText (ascii "Commits") packet.payload

def joinPacket (packet : MvrXchangePacket) (now : UInt64) : List TransferOp :=
  if packet.packageType ≠ kMvrPackageTypeJson then []
  else
    let commit := parseCommitMessage packet.payload task.station.serviceName
      task.station.stationName now
    if isCommitPacket packet commit then
      [.storeCommit task.station.serviceName commit,
        .pushEvent (commitAvailable task.station.serviceName task.station.stationName
          commit.fileUuid commit.message)]
    else []

def joinReply (packets : List MvrXchangePacket) (clock : Nat → UInt64) : List TransferOp :=
  .pushEvent (task.event (ascii "join_succeeded") task.fileUuid [] (ascii "Joined") 0)
    :: packets.zipIdx.flatMap (fun packet => task.joinPacket packet.1 (clock packet.2))
    ++ [.release]

/-- The payload of the MVR packets, or the whole reply where that is a file. -/
def receivedPayload (packets : List MvrXchangePacket) (received : List UInt8) : List UInt8 :=
  let payload := (packets.filter (fun packet => packet.packageType = kMvrPackageTypeMvr)).flatMap
    MvrXchangePacket.payload
  if payload = [] ∧ looksLikeZip received = true then received else payload

/-- A failed write replaces the error of the peer. An exception in the worker ends the process. -/
def fileReply (packets : List MvrXchangePacket) (outcome : WorkerOutcome) : List TransferOp :=
  let payload := receivedPayload packets outcome.received.bytes
  let written := writeCompletedMvrFile outcome.writeFaults outcome.files task.targetPath payload
  match written.returned with
  | none => []
  | some false => task.fail (written.error.getD [])
  | some true =>
    [.storeReceived task.targetPath (UInt64.ofNat payload.length),
      .pushEvent (task.event (ascii "transfer_finished") task.fileUuid task.targetPath
        (ascii "MVR received") (UInt64.ofNat payload.length)),
      .release]

/-- The sections of the thread of a worker. -/
def workerMain (outcome : WorkerOutcome) : List TransferOp :=
  .pushEvent task.startedEvent ::
    match connectTcp task.station outcome.connect with
    | some error => task.fail error
    | none =>
      if outcome.sends = false then task.fail (ascii "Unable to send MVR-xchange message")
      else
        let packets := (parseMvrPackages outcome.received).getD []
        if outcome.received.bytes ≠ [] ∧ packets = [] then
          task.fail (ascii "Received malformed MVR-xchange package")
        else if task.requestFile then task.fileReply packets outcome
        else task.joinReply packets outcome.clock

end TransferTask

/-! ### Client -/

inductive TransferThread where
  | receiver | worker
  deriving DecidableEq

/-- `task` is the worker that was started last. -/
structure MvrXchangeTransferClient extends Threads TransferThread TransferShared TransferOp where
  listening : Bool := false
  task : Option TransferTask := none

def lookupTxt (station : StationInfo) (name : List UInt8) : Option (List UInt8) :=
  station.txt.lookup name

/-- The UUID that a station advertises. -/
def stationUuidOf (station : StationInfo) : List UInt8 :=
  let uuid := canonicalizeUuid (jsonStringValue
    ((lookupTxt station (ascii "StationUUID")).getD []) [ascii "StationUUID"])
  if uuid = [] then canonicalizeUuid ((lookupTxt station (ascii "StationUUID")).getD []) else uuid

namespace MvrXchangeTransferClient

def create : MvrXchangeTransferClient where
  shared := {}
  pending := fun _ => []

def setShared (client : MvrXchangeTransferClient) (shared : TransferShared)
    : MvrXchangeTransferClient :=
  { client with shared := shared }

/-- A worker of the client starts. -/
def started (client : MvrXchangeTransferClient) (task : TransferTask) (outcome : WorkerOutcome)
    : MvrXchangeTransferClient where
  toThreads :=
    { client.toThreads with
      shared :=
        { client.shared with
          busy := true
          currentStationUuid := stationUuidOf task.station
          currentFileUuid := task.fileUuid } }.spawn .worker (task.workerMain outcome)
  listening := client.listening
  task := some task

/-- A client that is not busy has no section of a worker left, so that joining it takes no time. -/
def startWorker (client : MvrXchangeTransferClient)
    (serviceName fileUuid targetPath : List UInt8) (requestFile : Bool) (outcome : WorkerOutcome)
    : Bool × MvrXchangeTransferClient :=
  if client.shared.busy then
    (false, client.setShared
      (client.shared.setLastError (ascii "MVR-xchange transfer is already busy")))
  else
    match client.shared.stations serviceName with
    | none =>
      (false, client.setShared (client.shared.setLastError (ascii "Unknown MVR-xchange station")))
    | some station =>
      (true, client.started { station, fileUuid, targetPath, requestFile } outcome)

def joinStation (client : MvrXchangeTransferClient) (serviceName : List UInt8)
    (outcome : WorkerOutcome) : Bool × MvrXchangeTransferClient :=
  client.startWorker serviceName [] [] false outcome

def requestMvr (client : MvrXchangeTransferClient) (serviceName fileUuid targetPath : List UInt8)
    (outcome : WorkerOutcome) : Bool × MvrXchangeTransferClient :=
  let canonicalFileUuid := canonicalizeUuid fileUuid
  if canonicalFileUuid = [] then
    (false, client.setShared
      (client.shared.setLastError (ascii "MVR request requires a valid FileUUID")))
  else client.startWorker serviceName canonicalFileUuid targetPath true outcome

def requestLatestMvr (client : MvrXchangeTransferClient) (serviceName targetPath : List UInt8)
    (outcome : WorkerOutcome) : Bool × MvrXchangeTransferClient :=
  match client.shared.commits serviceName with
  | none =>
    (false, client.setShared (client.shared.setLastError
      (ascii "No MVR revision is available for the selected station")))
  | some commit =>
    if isValidUuid commit.fileUuid = false then
      (false, client.setShared (client.shared.setLastError
        (ascii "Selected MVR revision has an invalid FileUUID")))
    else client.requestMvr serviceName commit.fileUuid targetPath outcome

def setStations (client : MvrXchangeTransferClient) (stations : List StationInfo)
    : MvrXchangeTransferClient :=
  client.setShared { client.shared with
    stations := stations.foldl (fun known station name =>
      if name = station.serviceName then some station else known name) client.shared.stations }

def pollEvents (client : MvrXchangeTransferClient) : MvrXchangeTransferClient :=
  client.setShared { client.shared with events := [] }

/-- The call waits until both threads have ended. -/
def stop (client : MvrXchangeTransferClient) : MvrXchangeTransferClient :=
  if client.pending .receiver = [] ∧ client.pending .worker = [] then
    { client.setShared { client.shared with busy := false } with listening := false }
  else client

end MvrXchangeTransferClient

/-- A call of the program, which makes its calls one after the other, a message for the local
station, or the next section of a thread. -/
inductive TransferAction where
  | startLocalStation (succeeds : Bool)
  | stopLocalStation
  | inbound (type payload : List UInt8) (now : UInt64)
  | advance (thread : TransferThread)
  | setStations (stations : List StationInfo)
  | joinStation (serviceName : List UInt8) (outcome : WorkerOutcome)
  | requestMvr (serviceName fileUuid targetPath : List UInt8) (outcome : WorkerOutcome)
  | requestLatestMvr (serviceName targetPath : List UInt8) (outcome : WorkerOutcome)
  | pollEvents
  | stop

/-- A commit that a thread stored in the table of commits. -/
structure StoredCommit where
  thread : TransferThread
  key : List UInt8
  commit : MvrXchangeCommitInfo
  deriving DecidableEq

def StoredCommit.entry (stored : StoredCommit) : List UInt8 × MvrXchangeCommitInfo :=
  (stored.key, stored.commit)

namespace MvrXchangeTransferClient

/-- The commit that the next section of a thread stores. -/
def nextStore (client : MvrXchangeTransferClient) (thread : TransferThread)
    : List StoredCommit :=
  match client.pending thread with
  | .storeCommit key commit :: _ => [{ thread, key, commit }]
  | _ => []

/-- The client behind an action, and what was stored in its table of commits. -/
def step (client : MvrXchangeTransferClient)
    : TransferAction → MvrXchangeTransferClient × List StoredCommit
  | .startLocalStation succeeds =>
    ({ client with listening := client.listening || succeeds }, [])
  | .stopLocalStation =>
    (if client.pending .receiver = [] then { client with listening := false } else client, [])
  | .inbound type payload now =>
    (if client.listening then
      { client with
        toThreads := client.toThreads.spawn .receiver (receivedMessage type payload now) }
      else client, [])
  | .advance thread =>
    ({ client with toThreads := client.toThreads.advance TransferShared.run thread },
      client.nextStore thread)
  | .setStations stations => (client.setStations stations, [])
  | .joinStation serviceName outcome => ((client.joinStation serviceName outcome).2, [])
  | .requestMvr serviceName fileUuid targetPath outcome =>
    ((client.requestMvr serviceName fileUuid targetPath outcome).2, [])
  | .requestLatestMvr serviceName targetPath outcome =>
    ((client.requestLatestMvr serviceName targetPath outcome).2, [])
  | .pollEvents => (client.pollEvents, [])
  | .stop => (client.stop, [])

end MvrXchangeTransferClient

def transferMachine : Machine MvrXchangeTransferClient TransferAction (List StoredCommit) where
  init := MvrXchangeTransferClient.create
  step := MvrXchangeTransferClient.step

end Peraviz.Mvrxchange
