import Peraviz.Mvrxchange.CommitTable

/-!
This module contains the latest revision of a station: a request for it asks for the last commit that
was stored under the service name of the station, while a pushed commit is stored under the text of
its StationUUID.
-/

namespace Peraviz.Mvrxchange

open MvrXchangeTransferClient

/-! ### The revisions of a log -/

/-- A text is the UUID of the TXT record of a station. -/
def advertises (station : StationInfo) (text : List UInt8) : Bool :=
  lookupTxt station (ascii "StationUUID") = some text
    || (isValidUuid text && canonicalizeUuid text = stationUuidOf station)

/-- A commit of a station: pushed with its UUID, or in a reply to a join of it. -/
def isOf (station : StationInfo) (stored : StoredCommit) : Bool :=
  match stored.thread with
  | .receiver => advertises station stored.key
  | .worker => stored.key = station.serviceName

def latestOf (station : StationInfo) (log : List StoredCommit) : Option StoredCommit :=
  (log.filter (isOf station)).getLast?

/-- The last commit that was stored under a name. -/
def lastUnder (name : List UInt8) (log : List StoredCommit) : Option MvrXchangeCommitInfo :=
  (KeyedLog.valuesOf name (log.map StoredCommit.entry)).getLast?

theorem commits_eq_lastUnder (actions : List TransferAction) (name : List UInt8)
    : (clientAfter actions).shared.commits name = lastUnder name (storedCommits actions) := by
  rw [clientAfter_commits, KeyedLog.fold_apply, Option.or_none]
  rfl

theorem exists_of_lastUnder {name : List UInt8} {log : List StoredCommit}
    {commit : MvrXchangeCommitInfo} (h : lastUnder name log = some commit)
    : ∃ stored ∈ log, stored.commit = commit := by
  have hmem := KeyedLog.mem_valuesOf.mp (List.mem_of_getLast? h)
  obtain ⟨stored, hstored, hentry⟩ := List.mem_map.mp hmem
  exact ⟨stored, hstored, congrArg Prod.snd hentry⟩

/-- What a thread stores: a FileUUID in its canonical form, and none is missing in a pushed commit. -/
structure IsRevision (thread : TransferThread) (commit : MvrXchangeCommitInfo) : Prop where
  canonical : canonicalizeUuid commit.fileUuid = commit.fileUuid
  pushed : thread = .receiver → commit.fileUuid ≠ []

def StoresRevision (thread : TransferThread) (op : TransferOp) : Prop :=
  ∀ key commit, op = .storeCommit key commit → IsRevision thread commit

theorem canonical_parseCommitMessage (message serviceName stationName : List UInt8) (now : UInt64)
    : canonicalizeUuid (parseCommitMessage message serviceName stationName now).fileUuid
      = (parseCommitMessage message serviceName stationName now).fileUuid :=
  canonicalizeUuid_canonicalize _

theorem CommitsMeet.storesRevision {P : List UInt8 → MvrXchangeCommitInfo → Prop}
    {op : TransferOp} {thread : TransferThread} (h : CommitsMeet P op)
    (hrevision : ∀ key commit, P key commit → IsRevision thread commit)
    : StoresRevision thread op := by
  intro key commit hop
  rw [hop] at h
  exact hrevision key commit h

theorem receivedMessage_storesRevision (type payload : List UInt8) (now : UInt64)
    : ∀ op ∈ receivedMessage type payload now, StoresRevision .receiver op := by
  intro op hop
  apply (receivedMessage_commits type payload now op hop).storesRevision
  intro key commit hvalid
  exact ⟨hvalid.fileUuid.canonical, fun _ => hvalid.fileUuid.valid⟩

theorem workerMain_storesRevision (task : TransferTask) (outcome : WorkerOutcome)
    : ∀ op ∈ task.workerMain outcome, StoresRevision .worker op := by
  intro op hop
  apply (task.workerMain_commits outcome op hop).storesRevision
  intro key commit hjoined
  obtain ⟨_, packet, htakes⟩ := hjoined
  obtain ⟨now, hparsed⟩ := htakes.parsed
  rw [hparsed]
  exact ⟨canonical_parseCommitMessage _ _ _ _, fun hthread => nomatch hthread⟩

/-! ### Runs -/

theorem mem_nextStore {client : MvrXchangeTransferClient} {thread : TransferThread}
    {stored : StoredCommit} (h : stored ∈ client.nextStore thread)
    : .storeCommit stored.key stored.commit ∈ client.pending thread ∧ stored.thread = thread := by
  unfold nextStore at h
  split at h
  next key commit rest hpending =>
    rw [List.mem_singleton] at h
    rw [h, hpending]
    exact ⟨List.mem_cons_self, rfl⟩
  next => contradiction

theorem mem_step {client : MvrXchangeTransferClient} {action : TransferAction}
    {stored : StoredCommit} (h : stored ∈ (client.step action).2)
    : .storeCommit stored.key stored.commit ∈ client.pending stored.thread := by
  cases action with
  | advance thread =>
    have hnext := mem_nextStore h
    rw [hnext.2]
    exact hnext.1
  | startLocalStation succeeds => contradiction
  | stopLocalStation => contradiction
  | inbound type payload now => contradiction
  | setStations stations => contradiction
  | joinStation serviceName outcome => contradiction
  | requestMvr serviceName fileUuid targetPath outcome => contradiction
  | requestLatestMvr serviceName targetPath outcome => contradiction
  | pollEvents => contradiction
  | stop => contradiction

theorem storedCommits_isRevision (actions : List TransferAction)
    : ∀ stored ∈ storedCommits actions, IsRevision stored.thread stored.commit := by
  have hinv : (clientAfter actions).toThreads.Safe (fun _ => True) StoresRevision
      ∧ ∀ stored ∈ storedCommits actions, IsRevision stored.thread stored.commit := by
    apply transferMachine.trace_induction (fun past client =>
      client.toThreads.Safe (fun _ => True) StoresRevision
        ∧ ∀ stored ∈ past.flatMap Prod.snd, IsRevision stored.thread stored.commit)
    . refine ⟨safe_create trivial, ?_⟩
      intro stored hstored
      contradiction
    . intro past client action hpast
      constructor
      . apply step_safe hpast.1
        . exact ⟨fun _ _ _ _ _ => trivial, fun _ _ => trivial⟩
        . exact fun _ _ _ _ _ => trivial
        . exact receivedMessage_storesRevision
        . intro task outcome _
          exact workerMain_storesRevision task outcome
      . intro stored hstored
        rw [List.flatMap_append, List.mem_append] at hstored
        cases hstored with
        | inl hold => exact hpast.2 stored hold
        | inr hnew =>
          simp only [List.flatMap_cons, List.flatMap_nil, List.append_nil] at hnew
          exact hpast.1.pending stored.thread _ (mem_step hnew) stored.key stored.commit rfl
  exact hinv.2

/-! ### Requests -/

section

variable {client : MvrXchangeTransferClient} {station : StationInfo} {targetPath : List UInt8}
variable {outcome : WorkerOutcome}

theorem requestLatestMvr_of_commit {commit : MvrXchangeCommitInfo}
    (hstation : client.shared.stations station.serviceName = some station)
    (hidle : client.shared.busy = false)
    (hcommit : client.shared.commits station.serviceName = some commit)
    (hvalid : canonicalizeUuid commit.fileUuid ≠ [])
    : client.requestLatestMvr station.serviceName targetPath outcome
      = (true, client.started
        { station, fileUuid := canonicalizeUuid commit.fileUuid, targetPath, requestFile := true }
        outcome) := by
  have huuid : isValidUuid commit.fileUuid = true := by
    simp [isValidUuid, hvalid]
  simp [requestLatestMvr, hcommit, huuid, requestMvr, hvalid, startWorker, hidle, hstation]

theorem commit_of_requestLatestMvr
    (h : (client.requestLatestMvr station.serviceName targetPath outcome).1 = true)
    : ∃ commit, client.shared.commits station.serviceName = some commit
      ∧ canonicalizeUuid commit.fileUuid ≠ [] := by
  unfold requestLatestMvr at h
  split at h
  next => contradiction
  next commit hcommit =>
    refine ⟨commit, hcommit, ?_⟩
    intro hempty
    simp [isValidUuid, hempty] at h

end

theorem requestLatestMvr_pushed_iff {actions : List TransferAction} {station : StationInfo}
    {stored : StoredCommit}
    (hstation : (clientAfter actions).shared.stations station.serviceName = some station)
    (hlatest : latestOf station (storedCommits actions) = some stored)
    (hpushed : stored.thread = .receiver) (hidle : (clientAfter actions).shared.busy = false)
    (targetPath : List UInt8) (outcome : WorkerOutcome)
    : (clientAfter actions).requestLatestMvr station.serviceName targetPath outcome
        = (true, (clientAfter actions).started
          { station, fileUuid := stored.commit.fileUuid, targetPath, requestFile := true } outcome)
      ↔ (lastUnder station.serviceName (storedCommits actions)).map MvrXchangeCommitInfo.fileUuid
        = some stored.commit.fileUuid := by
  have hmem : stored ∈ storedCommits actions :=
    List.mem_of_mem_filter (List.mem_of_getLast? hlatest)
  have hfile := storedCommits_isRevision actions stored hmem
  have hstarted : ∀ last, lastUnder station.serviceName (storedCommits actions) = some last →
      canonicalizeUuid last.fileUuid ≠ [] →
      (clientAfter actions).requestLatestMvr station.serviceName targetPath outcome
        = (true, (clientAfter actions).started
          { station, fileUuid := last.fileUuid, targetPath, requestFile := true } outcome) := by
    intro last hlast hvalid
    obtain ⟨entry, hentry, heq⟩ := exists_of_lastUnder hlast
    have hcanonical := (storedCommits_isRevision actions entry hentry).canonical
    rw [heq] at hcanonical
    rw [← commits_eq_lastUnder] at hlast
    rw [requestLatestMvr_of_commit hstation hidle hlast hvalid, hcanonical]
  constructor
  . intro h
    obtain ⟨last, hlast, hvalid⟩ := commit_of_requestLatestMvr (congrArg Prod.fst h)
    rw [commits_eq_lastUnder] at hlast
    rw [hstarted last hlast hvalid] at h
    have htask := congrArg (fun result => result.2.task) h
    simp only [started, Option.some.injEq, TransferTask.mk.injEq] at htask
    rw [hlast, Option.map_some, htask.2.1]
  . intro h
    obtain ⟨last, hlast, heq⟩ := Option.map_eq_some_iff.mp h
    rw [← heq]
    apply hstarted last hlast
    rw [heq, hfile.canonical]
    exact hfile.pushed hpushed

/-! ### A pushed commit -/

def consoleUuid : List UInt8 := ascii "00000000-0000-4000-8000-000000000001"

def commitMessage : List UInt8 :=
  ascii "\x7b\"Type\":\"MVR_COMMIT\",\"StationUUID\":\"" ++ consoleUuid
    ++ ascii "\",\"FileUUID\":\"" ++ revision ++ ascii "\"\x7d"

/-- A station that is found, and a commit that it pushes. -/
def pushedBy (station : StationInfo) : List TransferAction :=
  [.startLocalStation true, .setStations [station],
    .inbound (ascii "MVR_COMMIT") commitMessage 0, .advance .receiver, .advance .receiver]

def pushedCommit : StoredCommit where
  thread := .receiver
  key := consoleUuid
  commit := parseCommitMessage commitMessage consoleUuid consoleUuid 0

def uuidConsole : StationInfo := { console with serviceName := consoleUuid }

theorem requestLatestMvr_pushed_uuidConsole
    : (clientAfter (pushedBy uuidConsole)).requestLatestMvr uuidConsole.serviceName (ascii "a.mvr")
        commitOutcome
        = (true, (clientAfter (pushedBy uuidConsole)).started {
            station := uuidConsole, fileUuid := pushedCommit.commit.fileUuid
            targetPath := ascii "a.mvr", requestFile := true } commitOutcome)
      ↔ (lastUnder uuidConsole.serviceName (storedCommits (pushedBy uuidConsole))).map
        MvrXchangeCommitInfo.fileUuid = some pushedCommit.commit.fileUuid := by
  have hrun : (clientAfter (pushedBy uuidConsole)).shared.stations uuidConsole.serviceName
        = some uuidConsole
      ∧ latestOf uuidConsole (storedCommits (pushedBy uuidConsole)) = some pushedCommit
      ∧ (clientAfter (pushedBy uuidConsole)).shared.busy = false := by
    decide +kernel
  exact requestLatestMvr_pushed_iff hrun.1 hrun.2.1 rfl hrun.2.2 (ascii "a.mvr") commitOutcome

theorem requestLatestMvr_pushed_lost
    : (clientAfter (pushedBy console)).shared.stations console.serviceName = some console
      ∧ latestOf console (storedCommits (pushedBy console)) = some pushedCommit
      ∧ pushedCommit.commit.fileUuid = revision
      ∧ isValidUuid revision = true
      ∧ (clientAfter (pushedBy console)).shared.busy = false
      ∧ ∀ targetPath outcome, ((clientAfter (pushedBy console)).requestLatestMvr console.serviceName
        targetPath outcome).1 = false := by
  have hrun : (clientAfter (pushedBy console)).shared.stations console.serviceName = some console
      ∧ latestOf console (storedCommits (pushedBy console)) = some pushedCommit
      ∧ pushedCommit.commit.fileUuid = revision
      ∧ isValidUuid revision = true
      ∧ (clientAfter (pushedBy console)).shared.busy = false
      ∧ (clientAfter (pushedBy console)).shared.commits console.serviceName = none := by
    decide +kernel
  refine ⟨hrun.1, hrun.2.1, hrun.2.2.1, hrun.2.2.2.1, hrun.2.2.2.2.1, ?_⟩
  have hcommits := hrun.2.2.2.2.2
  intro targetPath outcome
  apply eq_false_of_ne_true
  intro h
  obtain ⟨commit, hcommit, hvalid⟩ := commit_of_requestLatestMvr h
  rw [hcommits] at hcommit
  cases hcommit

end Peraviz.Mvrxchange
