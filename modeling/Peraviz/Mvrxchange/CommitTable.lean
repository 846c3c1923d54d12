import Peraviz.Mvrxchange.TransferSteps

/-!
This module contains the validity of the table of commits: as long as no reply to a join has a packet
that is taken for a commit without a FileUUID, the entries of the table and the announced commits are
valid, and an entry is only replaced by a valid one.
-/

namespace Peraviz.Mvrxchange

/-! ### Valid tables -/

def IsValidEvent (event : MvrXchangeEvent) : Prop :=
  event.type = ascii "commit_available" → IsCanonicalUuid event.fileUuid

structure ValidTable (shared : TransferShared) : Prop where
  commits : ∀ key commit, shared.commits key = some commit → IsValidCommit key commit
  events : ∀ event ∈ shared.events, IsValidEvent event

def ValidOp : TransferOp → Prop
  | .storeCommit key commit => IsValidCommit key commit
  | .pushEvent event => IsValidEvent event
  | _ => True

namespace ValidTable

theorem create : ValidTable {} where
  commits := by
    intro key commit h
    contradiction
  events := by
    intro event hevent
    contradiction

theorem of_eq {shared next : TransferShared} (h : ValidTable shared)
    (hcommits : next.commits = shared.commits) (hevents : next.events = shared.events)
    : ValidTable next := by
  constructor
  . rw [hcommits]
    exact h.commits
  . rw [hevents]
    exact h.events

theorem polled {shared : TransferShared} (h : ValidTable shared)
    : ValidTable { shared with events := [] } where
  commits := h.commits
  events := by
    intro event hevent
    contradiction

theorem run {shared : TransferShared} {op : TransferOp} (h : ValidTable shared) (hop : ValidOp op)
    : ValidTable (shared.run op) := by
  cases op with
  | storeCommit key commit =>
    refine ⟨?_, h.events⟩
    intro name other hother
    change Function.update shared.commits key (some commit) name = some other at hother
    rw [Function.update_apply] at hother
    split at hother
    next heq =>
      cases hother
      rw [heq]
      exact hop
    next => exact h.commits name other hother
  | pushEvent event =>
    refine ⟨h.commits, ?_⟩
    intro other hother
    cases List.mem_append.mp hother with
    | inl hold => exact h.events other hold
    | inr hnew =>
      rw [List.mem_singleton.mp hnew]
      exact hop
  | setLastError message => exact h.of_eq rfl rfl
  | storeReceived path byteCount => exact h.of_eq rfl rfl
  | release => exact h.of_eq rfl rfl

end ValidTable

theorem CommitsMeet.validOp {P : List UInt8 → MvrXchangeCommitInfo → Prop} {op : TransferOp}
    (h : CommitsMeet P op) (hvalid : ∀ key commit, P key commit → IsValidCommit key commit)
    : ValidOp op := by
  cases op with
  | storeCommit key commit => exact hvalid key commit h
  | pushEvent event =>
    intro htype
    cases h with
    | inl hother => exact absurd htype (other_ne_commitAvailable hother)
    | inr hcommit =>
      obtain ⟨key, commit, hP, huuid⟩ := hcommit
      rw [huuid]
      exact (hvalid key commit hP).fileUuid
  | setLastError message => trivial
  | storeReceived path byteCount => trivial
  | release => trivial

/-! ### Clean runs -/

/-- A packet without a valid FileUUID that the worker takes for a commit. -/
def isEmptyCommit (packet : MvrXchangePacket) : Bool :=
  packet.packageType = kMvrPackageTypeJson
    && canonicalizeUuid (jsonStringValue packet.payload
      [ascii "FileUUID", ascii "FileUuid", ascii "file_uuid", ascii "uuid"]) = []
    && (containsText (ascii "MVR_COMMIT") packet.payload
      || containsText (ascii "Commits") packet.payload)

namespace TransferTask

/-- The reply of a worker that joins, if one is read, has no empty commit. -/
def ReplyIsClean (station : StationInfo) (outcome : WorkerOutcome) : Prop :=
  connectTcp station outcome.connect = none → outcome.sends = true →
    ∀ packet ∈ (parseMvrPackages outcome.received).getD [], isEmptyCommit packet = false

variable {task : TransferTask} {outcome : WorkerOutcome}

theorem Takes.isValidCommit {packet : MvrXchangePacket} {commit : MvrXchangeCommitInfo}
    (h : task.Takes outcome packet commit) (hclean : isEmptyCommit packet = false)
    : IsValidCommit task.station.serviceName commit := by
  obtain ⟨now, hparsed⟩ := h.parsed
  have htaken := h.taken
  rw [hparsed] at htaken ⊢
  refine ⟨rfl, isCanonicalUuid_parseCommitMessage ?_⟩
  intro hempty
  have huuid : canonicalizeUuid (jsonStringValue packet.payload
      [ascii "FileUUID", ascii "FileUuid", ascii "file_uuid", ascii "uuid"]) = [] := hempty
  -- Without a FileUUID only the two texts can have made the packet a commit.
  simp only [isCommitPacket, hempty, ne_eq, not_true_eq_false, decide_false, Bool.false_or]
    at htaken
  simp [isEmptyCommit, h.json, huuid, htaken] at hclean

theorem workerMain_valid (h : task.requestFile = false → ReplyIsClean task.station outcome)
    : ∀ op ∈ task.workerMain outcome, ValidOp op := by
  intro op hop
  apply (task.workerMain_commits outcome op hop).validOp
  intro key commit hjoined
  obtain ⟨hkey, packet, htakes⟩ := hjoined
  rw [hkey]
  exact htakes.isValidCommit (h htakes.joins htakes.connected htakes.sent packet htakes.mem)

end TransferTask

namespace MvrXchangeTransferClient

/-- The client is safe while its table is valid and its threads have only valid things to do. -/
def IsSafe (client : MvrXchangeTransferClient) : Prop :=
  client.toThreads.Safe ValidTable (fun _ => ValidOp)

/-- The reply to a join that is started has no empty commit. -/
def JoinIsClean (client : MvrXchangeTransferClient) : TransferAction → Prop
  | .joinStation serviceName outcome =>
    client.shared.busy = false → ∀ station, client.shared.stations serviceName = some station →
      TransferTask.ReplyIsClean station outcome
  | _ => True

theorem IsSafe.step {client : MvrXchangeTransferClient} (h : client.IsSafe) {action : TransferAction}
    (hclean : client.JoinIsClean action) : (client.step action).1.IsSafe := by
  apply step_safe h
  . exact ⟨fun _ _ hshared => hshared.of_eq, fun _ hshared => hshared.polled⟩
  . intro _ shared op hshared hop
    exact hshared.run hop
  . intro type payload now op hop
    exact (receivedMessage_commits type payload now op hop).validOp (fun _ _ => id)
  . intro task outcome hstart
    apply task.workerMain_valid
    intro hjoin
    obtain ⟨serviceName, haction, hidle, hstation⟩ := hstart hjoin
    rw [haction] at hclean
    exact hclean hidle task.station hstation

end MvrXchangeTransferClient

open MvrXchangeTransferClient

theorem clientAfter_isSafe {actions : List TransferAction}
    (h : transferMachine.StepsMeet JoinIsClean transferMachine.init actions)
    : (clientAfter actions).IsSafe := by
  apply transferMachine.guarded_trace_induction JoinIsClean (fun _ client => client.IsSafe)
  . exact safe_create ValidTable.create
  . intro _ client action hsafe hclean
    exact hsafe.step hclean
  . exact h

/-- Every entry of a table is still there later, or a valid commit is in its place. -/
def Keeps (before after : TransferShared) : Prop :=
  ∀ key commit, before.commits key = some commit →
    ∃ next, after.commits key = some next ∧ (next = commit ∨ IsValidCommit key next)

theorem clientAfter_keeps (front back : List TransferAction)
    (h : ValidTable (clientAfter (front ++ back)).shared)
    : Keeps (clientAfter front).shared (clientAfter (front ++ back)).shared := by
  intro key commit hcommit
  have hkey := congrFun (clientAfter_commits (front ++ back)) key
  rw [storedCommits_append, List.map_append, KeyedLog.fold_append, ← clientAfter_commits front,
    KeyedLog.fold_apply, hcommit] at hkey
  generalize (transferMachine.trace (clientAfter front) back).flatMap Prod.snd = later at hkey
  cases hlast : (KeyedLog.valuesOf key (later.map StoredCommit.entry)).getLast? with
  | none =>
    rw [hlast] at hkey
    exact ⟨commit, hkey, Or.inl rfl⟩
  | some next =>
    rw [hlast] at hkey
    exact ⟨next, hkey, Or.inr (h.commits key next hkey)⟩

theorem commitTable_valid {actions : List TransferAction}
    (h : transferMachine.StepsMeet JoinIsClean transferMachine.init actions)
    : ∀ front back, actions = front ++ back →
      ValidTable (clientAfter front).shared
        ∧ Keeps (clientAfter front).shared (clientAfter actions).shared := by
  intro front back hactions
  have hfront : transferMachine.StepsMeet JoinIsClean transferMachine.init front := by
    rw [hactions, Machine.stepsMeet_append] at h
    exact h.1
  refine ⟨(clientAfter_isSafe hfront).shared, ?_⟩
  have hvalid := (clientAfter_isSafe h).shared
  rw [hactions] at hvalid ⊢
  exact clientAfter_keeps front back hvalid

/-! ### A known revision and a reply without one -/

def console : StationInfo where
  stationName := ascii "Console"
  serviceName := ascii "console"
  address := ascii "10.0.0.2"
  port := 4000
  txt := [(ascii "StationUUID", ascii "00000000-0000-4000-8000-000000000001")]

def revision : List UInt8 := ascii "01234567-89ab-cdef-0123-456789abcdef"

def commitReply : List UInt8 :=
  buildMvrPackage kMvrPackageTypeJson
    (ascii "\x7b\"Type\":\"MVR_JOIN_RET\",\"Commits\":[\x7b\"FileUUID\":\"" ++ revision
      ++ ascii "\"\x7d]\x7d")

/-- The reply to a join of a station of this program. -/
def emptyReply : List UInt8 :=
  buildMvrPackage kMvrPackageTypeJson
    (buildJoinRetMessage (ascii "Console") (ascii "00000000-0000-4000-8000-000000000001") true [])

theorem length_replies : ∀ reply ∈ [commitReply, emptyReply], reply.length < 2 ^ 63 := by
  decide +kernel

theorem length_commitReply : commitReply.length < 2 ^ 63 :=
  length_replies commitReply List.mem_cons_self

theorem length_emptyReply : emptyReply.length < 2 ^ 63 :=
  length_replies emptyReply (List.mem_cons_of_mem _ List.mem_cons_self)

def commitOutcome : WorkerOutcome where
  received := ⟨commitReply, length_commitReply⟩

def emptyOutcome : WorkerOutcome where
  received := ⟨emptyReply, length_emptyReply⟩

def joined (outcome : WorkerOutcome) : List TransferAction :=
  .joinStation console.serviceName outcome :: List.replicate 5 (.advance .worker)

def revisionKnown : List TransferAction := .setStations [console] :: joined commitOutcome

theorem replyIsClean_commitOutcome (station : StationInfo)
    : TransferTask.ReplyIsClean station commitOutcome := by
  intro _ _
  have hall : ((parseMvrPackages commitOutcome.received).getD []).all
      (fun packet => isEmptyCommit packet = false) = true := by
    decide +kernel
  simpa using hall

theorem joinIsClean_revisionKnown
    : transferMachine.StepsMeet JoinIsClean transferMachine.init revisionKnown := by
  apply Machine.stepsMeet_of_forall
  intro action haction client
  simp only [revisionKnown, joined, List.mem_cons, List.mem_replicate] at haction
  rcases haction with haction | haction | haction
  . rw [haction]
    trivial
  . rw [haction]
    intro _ station _
    exact replyIsClean_commitOutcome station
  . rw [haction.2]
    trivial

theorem commitTable_valid_revisionKnown
    : ValidTable (clientAfter (revisionKnown.take 4)).shared
      ∧ Keeps (clientAfter (revisionKnown.take 4)).shared (clientAfter revisionKnown).shared :=
  commitTable_valid joinIsClean_revisionKnown _ _ (List.take_append_drop 4 revisionKnown).symm

theorem revisionKnown_lost
    : ((clientAfter revisionKnown).shared.commits console.serviceName).map
        MvrXchangeCommitInfo.fileUuid = some revision
      ∧ ((clientAfter (revisionKnown ++ joined emptyOutcome)).shared.commits
        console.serviceName).map MvrXchangeCommitInfo.fileUuid = some []
      ∧ ¬ ValidTable (clientAfter (revisionKnown ++ joined emptyOutcome)).shared := by
  have hempty : ((clientAfter (revisionKnown ++ joined emptyOutcome)).shared.commits
      console.serviceName).map MvrXchangeCommitInfo.fileUuid = some [] := by
    decide +kernel
  refine ⟨by decide +kernel, hempty, ?_⟩
  intro h
  obtain ⟨commit, hcommit, huuid⟩ := Option.map_eq_some_iff.mp hempty
  exact (h.commits _ commit hcommit).fileUuid.valid huuid

end Peraviz.Mvrxchange
