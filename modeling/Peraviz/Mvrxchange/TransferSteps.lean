import Peraviz.KeyedLog.Basic
import Peraviz.Mvrxchange.Json
import Peraviz.Mvrxchange.Transfer

/-!
This module contains the rules for the steps and the runs of the transfer client: what a call may
do, what a step must preserve for its threads to stay safe, and that the table of commits holds the
last commit that a thread stored under each name. A pushed commit is valid, and a worker that joins
stores the packets of the reply that it takes for a commit.
-/

namespace Peraviz.Mvrxchange

namespace MvrXchangeTransferClient

/-- What a call of the program may do: one that fails sets the error, one that succeeds starts a
worker for the station that is known under the name. -/
inductive Calls (client : MvrXchangeTransferClient) (serviceName : List UInt8) (requestFile : Bool)
    (outcome : WorkerOutcome) : Bool × MvrXchangeTransferClient → Prop where
  | failed (error : List UInt8)
    : Calls client serviceName requestFile outcome
      (false, client.setShared (client.shared.setLastError error))
  | started (task : TransferTask) (hidle : client.shared.busy = false)
    (hstation : client.shared.stations serviceName = some task.station)
    (hfile : task.requestFile = requestFile)
    : Calls client serviceName requestFile outcome (true, client.started task outcome)

variable {client : MvrXchangeTransferClient} {serviceName : List UInt8} {requestFile : Bool}
variable {outcome : WorkerOutcome} {result : Bool × MvrXchangeTransferClient}

theorem startWorker_calls (client : MvrXchangeTransferClient)
    (serviceName fileUuid targetPath : List UInt8) (requestFile : Bool) (outcome : WorkerOutcome)
    : Calls client serviceName requestFile outcome
      (client.startWorker serviceName fileUuid targetPath requestFile outcome) := by
  unfold startWorker
  split
  next => exact .failed _
  next hidle =>
    split
    next => exact .failed _
    next station hstation => exact .started _ (eq_false_of_ne_true hidle) hstation rfl

theorem requestMvr_calls (client : MvrXchangeTransferClient)
    (serviceName fileUuid targetPath : List UInt8) (outcome : WorkerOutcome)
    : Calls client serviceName true outcome
      (client.requestMvr serviceName fileUuid targetPath outcome) := by
  unfold requestMvr
  dsimp only
  split
  next => exact .failed _
  next => exact client.startWorker_calls serviceName _ targetPath true outcome

theorem requestLatestMvr_calls (client : MvrXchangeTransferClient)
    (serviceName targetPath : List UInt8) (outcome : WorkerOutcome)
    : Calls client serviceName true outcome
      (client.requestLatestMvr serviceName targetPath outcome) := by
  unfold requestLatestMvr
  split
  next => exact .failed _
  next commit _ =>
    split
    next => exact .failed _
    next => exact client.requestMvr_calls serviceName commit.fileUuid targetPath outcome

/-! ### Safety -/

/-- A worker of an action: one that joins has the station of a call of the program. -/
def MayStart (client : MvrXchangeTransferClient) (action : TransferAction) (task : TransferTask)
    (outcome : WorkerOutcome) : Prop :=
  task.requestFile = false →
    ∃ serviceName, action = .joinStation serviceName outcome ∧ client.shared.busy = false
      ∧ client.shared.stations serviceName = some task.station

/-- A property of the shared state that depends on the commits and the waiting events alone. -/
structure IsTableProperty (I : TransferShared → Prop) : Prop where
  frame : ∀ shared next, I shared → next.commits = shared.commits → next.events = shared.events →
    I next
  polled : ∀ shared, I shared → I { shared with events := [] }

variable {I : TransferShared → Prop} {P : TransferThread → TransferOp → Prop}

theorem Calls.safe (h : Calls client serviceName requestFile outcome result)
    (hsafe : client.toThreads.Safe I P) (hI : IsTableProperty I)
    (hworker : ∀ task : TransferTask, task.requestFile = requestFile → client.shared.busy = false →
      client.shared.stations serviceName = some task.station →
        ∀ op ∈ task.workerMain outcome, P .worker op)
    : result.2.toThreads.Safe I P := by
  cases h with
  | failed error => exact hsafe.setShared (hI.frame _ _ hsafe.shared rfl rfl)
  | started task hidle hstation hfile =>
    apply Threads.Safe.spawn
    . exact hsafe.setShared (hI.frame _ _ hsafe.shared rfl rfl)
    . exact hworker task hfile hidle hstation

theorem step_safe (hsafe : client.toThreads.Safe I P) (action : TransferAction)
    (hI : IsTableProperty I)
    (hrun : ∀ thread shared op, I shared → P thread op → I (shared.run op))
    (hreceived : ∀ type payload now, ∀ op ∈ receivedMessage type payload now, P .receiver op)
    (hworker : ∀ task outcome, client.MayStart action task outcome →
      ∀ op ∈ task.workerMain outcome, P .worker op)
    : (client.step action).1.toThreads.Safe I P := by
  cases action with
  | startLocalStation succeeds => exact hsafe
  | stopLocalStation =>
    unfold MvrXchangeTransferClient.step
    dsimp only
    split
    next => exact hsafe
    next => exact hsafe
  | inbound type payload now =>
    unfold MvrXchangeTransferClient.step
    dsimp only
    split
    next => exact hsafe.spawn (hreceived type payload now)
    next => exact hsafe
  | advance thread => exact hsafe.advance hrun thread
  | setStations stations => exact hsafe.setShared (hI.frame _ _ hsafe.shared rfl rfl)
  | joinStation serviceName outcome =>
    apply (client.startWorker_calls serviceName [] [] false outcome).safe hsafe hI
    intro task _ hidle hstation
    apply hworker
    intro _
    exact ⟨serviceName, rfl, hidle, hstation⟩
  | requestMvr serviceName fileUuid targetPath outcome =>
    apply (client.requestMvr_calls serviceName fileUuid targetPath outcome).safe hsafe hI
    intro task hfile _ _
    apply hworker
    intro hjoin
    rw [hfile] at hjoin
    contradiction
  | requestLatestMvr serviceName targetPath outcome =>
    apply (client.requestLatestMvr_calls serviceName targetPath outcome).safe hsafe hI
    intro task hfile _ _
    apply hworker
    intro hjoin
    rw [hfile] at hjoin
    contradiction
  | pollEvents => exact hsafe.setShared (hI.polled _ hsafe.shared)
  | stop =>
    change client.stop.toThreads.Safe I P
    unfold MvrXchangeTransferClient.stop
    split
    next => exact hsafe.setShared (hI.frame _ _ hsafe.shared rfl rfl)
    next => exact hsafe

/-! ### The log of the table -/

theorem Calls.commits (h : Calls client serviceName requestFile outcome result)
    : result.2.shared.commits = client.shared.commits := by
  cases h with
  | failed error => rfl
  | started task hidle hstation hfile => rfl

theorem advance_commits (client : MvrXchangeTransferClient) (thread : TransferThread)
    : (client.toThreads.advance TransferShared.run thread).shared.commits
      = KeyedLog.fold client.shared.commits ((client.nextStore thread).map StoredCommit.entry) := by
  unfold Threads.advance nextStore
  split
  next hpending =>
    rw [hpending]
    rfl
  next op rest hpending =>
    rw [hpending]
    cases op with
    | storeCommit key commit => rfl
    | pushEvent event => rfl
    | setLastError message => rfl
    | storeReceived path byteCount => rfl
    | release => rfl

theorem step_commits (client : MvrXchangeTransferClient) (action : TransferAction)
    : (client.step action).1.shared.commits
      = KeyedLog.fold client.shared.commits ((client.step action).2.map StoredCommit.entry) := by
  cases action with
  | startLocalStation succeeds => rfl
  | stopLocalStation =>
    unfold MvrXchangeTransferClient.step
    dsimp only
    split
    next => rfl
    next => rfl
  | inbound type payload now =>
    unfold MvrXchangeTransferClient.step
    dsimp only
    split
    next => rfl
    next => rfl
  | advance thread => exact client.advance_commits thread
  | setStations stations => rfl
  | joinStation serviceName outcome =>
    exact (client.startWorker_calls serviceName [] [] false outcome).commits
  | requestMvr serviceName fileUuid targetPath outcome =>
    exact (client.requestMvr_calls serviceName fileUuid targetPath outcome).commits
  | requestLatestMvr serviceName targetPath outcome =>
    exact (client.requestLatestMvr_calls serviceName targetPath outcome).commits
  | pollEvents => rfl
  | stop =>
    change client.stop.shared.commits = client.shared.commits
    unfold MvrXchangeTransferClient.stop
    split
    next => rfl
    next => rfl

end MvrXchangeTransferClient

/-! ### Runs -/

/-- The client after a run. -/
def clientAfter (actions : List TransferAction) : MvrXchangeTransferClient :=
  transferMachine.run transferMachine.init actions

/-- The commits that were stored in a run. -/
def storedCommits (actions : List TransferAction) : List StoredCommit :=
  (transferMachine.trace transferMachine.init actions).flatMap Prod.snd

theorem storedCommits_append (front back : List TransferAction)
    : storedCommits (front ++ back)
      = storedCommits front ++ (transferMachine.trace (clientAfter front) back).flatMap Prod.snd := by
  unfold storedCommits
  rw [Machine.trace_append, List.flatMap_append]
  rfl

theorem clientAfter_commits (actions : List TransferAction)
    : (clientAfter actions).shared.commits
      = KeyedLog.fold (fun _ => none) ((storedCommits actions).map StoredCommit.entry) := by
  apply transferMachine.trace_induction (fun past client =>
    client.shared.commits
      = KeyedLog.fold (fun _ => none) ((past.flatMap Prod.snd).map StoredCommit.entry))
  . rfl
  . intro past client action hpast
    rw [List.flatMap_append, List.map_append, KeyedLog.fold_append, ← hpast]
    simp only [List.flatMap_cons, List.flatMap_nil, List.append_nil]
    exact client.step_commits action

theorem safe_create {I : TransferShared → Prop} {P : TransferThread → TransferOp → Prop} (h : I {})
    : MvrXchangeTransferClient.create.toThreads.Safe I P := by
  refine ⟨h, ?_⟩
  intro thread op hop
  contradiction

end Peraviz.Mvrxchange

/-! ### What the threads store and announce -/

namespace Peraviz.Mvrxchange

/-- A commit of the station of a name. -/
structure IsValidCommit (key : List UInt8) (commit : MvrXchangeCommitInfo) : Prop where
  serviceName : commit.serviceName = key
  fileUuid : IsCanonicalUuid commit.fileUuid

theorem isCanonicalUuid_parseCommitMessage {message serviceName stationName : List UInt8}
    {now : UInt64}
    (h : (parseCommitMessage message serviceName stationName now).fileUuid ≠ [])
    : IsCanonicalUuid (parseCommitMessage message serviceName stationName now).fileUuid :=
  isCanonicalUuid_canonicalize h

/-- The events of the threads that do not announce a commit. -/
def otherEvents : List (List UInt8) :=
  [ascii "protocol_error", ascii "transfer_failed", ascii "join_failed",
    ascii "transfer_finished", ascii "join_succeeded", ascii "transfer_started",
    ascii "join_started"]

theorem other_ne_commitAvailable {type : List UInt8} (h : type ∈ otherEvents)
    : type ≠ ascii "commit_available" := by
  have hall : ∀ type ∈ otherEvents, type ≠ ascii "commit_available" := by
    decide +kernel
  exact hall type h

/-- A section that stores or announces a commit does so with one that has a property. -/
def CommitsMeet (P : List UInt8 → MvrXchangeCommitInfo → Prop) : TransferOp → Prop
  | .storeCommit key commit => P key commit
  | .pushEvent event =>
    event.type ∈ otherEvents ∨ ∃ key commit, P key commit ∧ event.fileUuid = commit.fileUuid
  | _ => True

theorem receivedMessage_commits (type payload : List UInt8) (now : UInt64)
    : ∀ op ∈ receivedMessage type payload now, CommitsMeet IsValidCommit op := by
  unfold receivedMessage
  dsimp only
  split
  next =>
    split
    next =>
      simp only [List.forall_mem_cons, List.not_mem_nil, false_implies, implies_true, and_true]
      refine ⟨trivial, Or.inl ?_⟩
      simp [otherEvents]
    next hne =>
      have hcanonical := isCanonicalUuid_parseCommitMessage hne
      simp only [List.forall_mem_cons, List.not_mem_nil, false_implies, implies_true, and_true]
      split
      next => exact ⟨⟨rfl, hcanonical⟩, Or.inr ⟨_, _, ⟨rfl, hcanonical⟩, rfl⟩⟩
      next => exact ⟨⟨rfl, hcanonical⟩, Or.inr ⟨_, _, ⟨rfl, hcanonical⟩, rfl⟩⟩
  next =>
    intro op hop
    contradiction

namespace TransferTask

/-- A packet of the reply to a join that is taken for a commit. -/
structure Takes (task : TransferTask) (outcome : WorkerOutcome) (packet : MvrXchangePacket)
    (commit : MvrXchangeCommitInfo) : Prop where
  joins : task.requestFile = false
  connected : connectTcp task.station outcome.connect = none
  sent : outcome.sends = true
  mem : packet ∈ (parseMvrPackages outcome.received).getD []
  json : packet.packageType = kMvrPackageTypeJson
  parsed : ∃ now, commit
    = parseCommitMessage packet.payload task.station.serviceName task.station.stationName now
  taken : isCommitPacket packet commit = true

/-- A commit of the station that a worker has joined. -/
def Joined (task : TransferTask) (outcome : WorkerOutcome) (key : List UInt8)
    (commit : MvrXchangeCommitInfo) : Prop :=
  key = task.station.serviceName ∧ ∃ packet, task.Takes outcome packet commit

variable {task : TransferTask} {outcome : WorkerOutcome}
variable {P : List UInt8 → MvrXchangeCommitInfo → Prop}

theorem commitsMeet_event {type fileUuid path message : List UInt8} {sizeBytes : UInt64}
    (h : type ∈ otherEvents)
    : CommitsMeet P (.pushEvent (task.event type fileUuid path message sizeBytes)) :=
  Or.inl h

theorem fail_commits (error : List UInt8) : ∀ op ∈ task.fail error, CommitsMeet P op := by
  simp only [fail, List.forall_mem_cons, List.not_mem_nil, false_implies, implies_true, and_true]
  refine ⟨trivial, ?_, trivial⟩
  apply commitsMeet_event
  split
  next => simp [otherEvents]
  next => simp [otherEvents]

theorem fileReply_commits (packets : List MvrXchangePacket)
    : ∀ op ∈ task.fileReply packets outcome, CommitsMeet P op := by
  unfold fileReply
  dsimp only
  split
  next =>
    intro op hop
    contradiction
  next => exact fail_commits _
  next =>
    simp only [List.forall_mem_cons, List.not_mem_nil, false_implies, implies_true, and_true]
    refine ⟨trivial, ?_, trivial⟩
    apply commitsMeet_event
    simp [otherEvents]

theorem joinPacket_commits {packet : MvrXchangePacket} {now : UInt64}
    (h : packet.packageType = kMvrPackageTypeJson →
      ∀ commit, commit = parseCommitMessage packet.payload task.station.serviceName
          task.station.stationName now →
        isCommitPacket packet commit = true → P task.station.serviceName commit)
    : ∀ op ∈ task.joinPacket packet now, CommitsMeet P op := by
  unfold joinPacket
  dsimp only
  split
  next =>
    intro op hop
    contradiction
  next htype =>
    split
    next htaken =>
      have hcommit := h (not_not.mp htype) _ rfl htaken
      simp only [List.forall_mem_cons, List.not_mem_nil, false_implies, implies_true, and_true]
      exact ⟨hcommit, Or.inr ⟨_, _, hcommit, rfl⟩⟩
    next =>
      intro op hop
      contradiction

theorem joinReply_commits (hjoins : task.requestFile = false)
    (hconnected : connectTcp task.station outcome.connect = none) (hsent : outcome.sends = true)
    : ∀ op ∈ task.joinReply ((parseMvrPackages outcome.received).getD []) outcome.clock,
      CommitsMeet (task.Joined outcome) op := by
  intro op hop
  simp only [joinReply, List.cons_append, List.mem_cons, List.mem_append, List.mem_flatMap,
    List.not_mem_nil, or_false] at hop
  rcases hop with hjoined | ⟨packet, hpacket, hop⟩ | hrelease
  . rw [hjoined]
    apply commitsMeet_event
    simp [otherEvents]
  . have hmem : packet.1 ∈ (parseMvrPackages outcome.received).getD [] := by
      rw [← List.zipIdx_map_fst 0 ((parseMvrPackages outcome.received).getD [])]
      exact List.mem_map_of_mem hpacket
    apply joinPacket_commits _ op hop
    intro hjson commit hparsed htaken
    refine ⟨rfl, packet.1, ?_⟩
    exact {
      joins := hjoins, connected := hconnected, sent := hsent, mem := hmem, json := hjson
      parsed := ⟨_, hparsed⟩, taken := htaken }
  . rw [hrelease]
    trivial

theorem workerMain_commits (task : TransferTask) (outcome : WorkerOutcome)
    : ∀ op ∈ task.workerMain outcome, CommitsMeet (task.Joined outcome) op := by
  unfold workerMain
  rw [List.forall_mem_cons]
  constructor
  . apply commitsMeet_event
    split
    next => simp [otherEvents]
    next => simp [otherEvents]
  . split
    next => exact fail_commits _
    next hconnected =>
      split
      next => exact fail_commits _
      next hsent =>
        dsimp only
        split
        next => exact fail_commits _
        next =>
          split
          next => exact fileReply_commits _
          next hjoins =>
            apply joinReply_commits
            . exact eq_false_of_ne_true hjoins
            . exact hconnected
            . exact eq_true_of_ne_false hsent

end TransferTask

end Peraviz.Mvrxchange
