import Peraviz.Presentation.AsyncPipeline.Impl

/-!
This module contains what one step of the pipeline can do.
-/

namespace Peraviz.Presentation
namespace AsyncPipeline

variable {γ σ : Type}

namespace Main

def inputBanks : Main → List (Fin 3)
  | filling bank => [bank]
  | exchanging bank => [bank]
  | freeing _ old => [old]
  | _ => []

def outputBanks : Main → List (Fin 2)
  | acquired bank => [bank]
  | _ => []

end Main

namespace Coordinator

def inputBanks : Coordinator → List (Fin 3)
  | taken bank => [bank]
  | delivering bank _ => [bank]
  | _ => []

def outputBanks : Coordinator → List (Fin 2)
  | claimed bank => [bank]
  | completing bank => [bank]
  | publishing bank => [bank]
  | handing bank => [bank]
  | _ => []

/-- The bank whose snapshot is complete and not published. -/
def finished : Coordinator → List (Fin 2)
  | publishing bank => [bank]
  | handing bank => [bank]
  | _ => []

/-- The coordinator may still produce a snapshot. -/
def Live (stopping : Bool) (pc : Coordinator) : Prop :=
  pc ≠ exited ∧ ¬(pc = loop ∧ stopping = true)

/-- The coordinator goes on to another place, at most dropping its output bank. -/
structure Moves (stopping : Bool) (pc pc' : Coordinator) : Prop where
  awake : pc ≠ exited
  inputs : pc'.inputBanks = pc.inputBanks
  outputs : pc'.outputBanks.Sublist pc.outputBanks
  finished : pc'.finished = pc.finished ∨ pc'.finished = [] ∧ ¬pc'.Live stopping
  live : pc'.Live stopping → pc.Live stopping

@[simp]
theorem not_live_exited (stopping : Bool) : ¬Live stopping exited := by
  simp [Live]

theorem live_of_ne {pc : Coordinator} (hexited : pc ≠ exited) (hloop : pc ≠ loop) (stopping : Bool)
    : pc.Live stopping :=
  ⟨hexited, fun h => hloop h.1⟩

theorem moves_exited {stopping : Bool} {pc : Coordinator} (hawake : pc ≠ exited)
    (hinputs : pc.inputBanks = []) (hfinished : pc.finished = [])
    : pc.Moves stopping exited where
  awake := hawake
  inputs := hinputs.symm
  outputs := List.nil_sublist _
  finished := .inl hfinished.symm
  live h := absurd h (not_live_exited stopping)

theorem moves_of_live {stopping : Bool} {pc pc' : Coordinator} (hlive : pc.Live stopping)
    (hinputs : pc'.inputBanks = pc.inputBanks) (houtputs : pc'.outputBanks = pc.outputBanks)
    (hfinished : pc'.finished = pc.finished)
    : pc.Moves stopping pc' where
  awake := hlive.1
  inputs := hinputs
  outputs := by rw [houtputs]
  finished := .inl hfinished
  live _ := hlive

end Coordinator

namespace State

/-- The two threads, and the atomics through which they hand banks to each other. -/
inductive Party where
  | producer
  | consumer
  | mailbox
  | coordinator
  deriving DecidableEq

def inputHoldings (s : State γ σ) : List (Party × Fin 3) :=
  s.main.inputBanks.map (Party.producer, ·) ++ s.queuedInput.toList.map (Party.mailbox, ·)
    ++ s.coordinator.inputBanks.map (Party.coordinator, ·)

def outputHoldings (s : State γ σ) : List (Party × Fin 2) :=
  s.leases.map (fun lease => (Party.consumer, lease.1)) ++ s.main.outputBanks.map (Party.consumer, ·)
    ++ s.readyOutput.toList.map (Party.mailbox, ·)
    ++ s.coordinator.outputBanks.map (Party.coordinator, ·)

/-- What a step does, by the place where its thread stands. -/
inductive Step (core : Core γ σ) (s : State γ σ) : State γ σ → Output σ → Prop where
  | quiet (out : Output σ) (hout : out = .quiet ∨ out = .submitted none ∨ out = .acquired none)
    : Step core s s out
  | accept (universeId : Int) (data : List UInt8) (index : Nat) (hmain : s.main = .idle)
      (hactive : s.active = true) (hdata : data ≠ [])
      (hindex : s.latest.findIdx? (·.id == universeId) = some index)
    : Step core s (s.accept index universeId data) (.submitted (some (universeId, data)))
  | beginScan (hmain : s.main = .idle) (hactive : s.active = true)
    : Step core s { s with main := .scanning 0 } .quiet
  | scanNext (bank next : Fin 3) (hmain : s.main = .scanning bank)
      (hstatus : (s.inputs bank).status ≠ .free) (hnext : next.val = bank.val + 1)
    : Step core s { s with main := .scanning next } .quiet
  | scanFull (bank : Fin 3) (hmain : s.main = .scanning bank)
      (hstatus : (s.inputs bank).status ≠ .free) (hlast : 3 ≤ bank.val + 1)
    : Step core s { s with main := .idle } (.flushed none)
  | scanTake (bank : Fin 3) (hmain : s.main = .scanning bank)
      (hstatus : (s.inputs bank).status = .free)
    : Step core s { s.setInput bank .writing with main := .filling bank } .quiet
  | fill (bank : Fin 3) (hmain : s.main = .filling bank) : Step core s (s.fill bank) .quiet
  | exchangeNew (bank : Fin 3) (hmain : s.main = .exchanging bank) (hqueued : s.queuedInput = none)
    : Step core s { s with queuedInput := some bank, producerDirty := false, main := .idle }
        (.flushed (some bank))
  | exchangeOld (bank old : Fin 3) (hmain : s.main = .exchanging bank)
      (hqueued : s.queuedInput = some old)
    : Step core s { s with queuedInput := some bank, main := .freeing bank old } .quiet
  | freeInput (bank old : Fin 3) (hmain : s.main = .freeing bank old)
    : Step core s { s.setInput old .free with producerDirty := false, main := .idle }
        (.flushed (some bank))
  | beginAcquire (hmain : s.main = .idle) (hactive : s.active = true)
    : Step core s { s with main := .acquiring } .quiet
  | acquireNone (hmain : s.main = .acquiring)
    : Step core s { s with main := .idle } (.acquired none)
  | acquireTake (bank : Fin 2) (hmain : s.main = .acquiring) (hready : s.readyOutput = some bank)
    : Step core s { s with readyOutput := none, main := .acquired bank } .quiet
  | lease (bank : Fin 2) (hmain : s.main = .acquired bank)
    : Step core s (s.lease bank).1 (.acquired (s.outputs bank).snapshot)
  | release (bank : Fin 2) (hmain : s.main = .idle) (hmem : bank ∈ s.leases.map Prod.fst)
    : Step core s { s.setOutput bank .free with leases := s.leases.filter (·.1 != bank) } .quiet
  | stop (hmain : s.main = .idle) (hretired : s.retired = false)
    : Step core s { s with stopping := true, main := .joining } .quiet
  | joinRestore (hmain : s.main = .joining) (hexited : s.coordinator = .exited)
      (hschema : core.schemaGeneration s.core = s.schema)
    : Step core s { s with main := .restoring 0 } .quiet
  | joinRetire (hmain : s.main = .joining) (hexited : s.coordinator = .exited)
      (hschema : core.schemaGeneration s.core ≠ s.schema)
    : Step core s s.retire .quiet
  | restoreHand (index : Nat) (frame : InputValue) (hmain : s.main = .restoring index)
      (hframe : s.latest[index]? = some frame) (hdata : frame.data ≠ [])
      (hnew : frame.sequence ≠ s.consumedSequences.getD index 1)
    : Step core s
        { s with
          core := core.submitUniverseFrame s.core frame.id frame.data
          main := .restoring (index + 1)
        } (.handed frame.id frame.data)
  | restoreSkip (index : Nat) (frame : InputValue) (hmain : s.main = .restoring index)
      (hframe : s.latest[index]? = some frame)
      (hold : frame.data = [] ∨ frame.sequence = s.consumedSequences.getD index 1)
    : Step core s { s with main := .restoring (index + 1) } .quiet
  | restoreDone (index : Nat) (hmain : s.main = .restoring index)
      (hframe : s.latest[index]? = none)
    : Step core s s.retire .quiet
  | move (pc : Coordinator) (initialBatch : Bool) (hmoves : s.coordinator.Moves s.stopping pc)
    : Step core s { s.moveTo pc with initialBatch := initialBatch } .quiet
  | takeQueued (bank : Fin 3) (hpc : s.coordinator = .exchanging)
      (hqueued : s.queuedInput = some bank)
    : Step core s { s.moveTo (.taken bank) with queuedInput := none } .quiet
  | beginReading (bank : Fin 3) (hpc : s.coordinator = .taken bank)
    : Step core s (s.beginReading bank) .quiet
  | deliverHand (bank : Fin 3) (index : Nat) (frame : InputValue)
      (hpc : s.coordinator = .delivering bank index)
      (hframe : (s.inputs bank).frames[index]? = some frame) (hdata : frame.data ≠ [])
      (hnew : frame.sequence ≠ s.consumedSequences.getD index 1)
    : Step core s
        { s.moveTo (.delivering bank (index + 1)) with
          core := core.submitUniverseFrame s.core frame.id frame.data
          consumedSequences := s.consumedSequences.set index frame.sequence
        } (.handed frame.id frame.data)
  | deliverDone (bank : Fin 3) (index : Nat) (hpc : s.coordinator = .delivering bank index)
    : Step core s { (s.setInput bank .free).moveTo .outputs with initialBatch := false } .quiet
  | claimTake (bank : Fin 2) (hpc : s.coordinator = .claiming bank)
      (hstatus : (s.outputs bank).status = .free)
    : Step core s ((s.setOutput bank .writing).moveTo (.claimed bank)) .quiet
  | completeFail (bank : Fin 2) (hpc : s.coordinator = .completing bank)
    : Step core s { s.moveTo .exited with failed := true } .quiet
  | complete (bank : Fin 2) (c : γ) (content : σ) (hpc : s.coordinator = .completing bank)
      (hconsume : core.consume s.core = some (c, content))
    : Step core s
        { s.moveTo (.publishing bank) with
          core := c
          outputs := Function.update s.outputs bank ⟨.queued, some ⟨s.generation, content⟩⟩
        } (.produced ⟨s.generation, content⟩)
  | publish (bank : Fin 2) (hpc : s.coordinator = .handing bank) (hready : s.readyOutput = none)
    : Step core s { s.moveTo .loop with readyOutput := some bank } .quiet

theorem step_move {core : Core γ σ} {s : State γ σ} {pc : Coordinator}
    (h : s.coordinator.Moves s.stopping pc)
    : Step core s (s.moveTo pc) .quiet :=
  .move pc s.initialBatch h

theorem step_call {core : Core γ σ} {s : State γ σ} {f : State γ σ → State γ σ × Output σ}
    (h : s.main = .idle → Step core s (f s).1 (f s).2)
    : Step core s (s.call f).1 (s.call f).2 := by
  unfold call
  split
  . next hmain => exact h hmain
  . exact .quiet _ (Or.inl rfl)

theorem step_submit {core : Core γ σ} {s : State γ σ} (hmain : s.main = .idle) (universeId : Int)
    (data : Option (List UInt8))
    : Step core s (s.submit universeId data).1 (s.submit universeId data).2 := by
  have hrejected : Step core s s (.submitted none) := .quiet _ (Or.inr (Or.inl rfl))
  unfold submit
  split
  . exact hrejected
  . next bytes =>
    split
    . exact hrejected
    . next hactive =>
      simp only [Bool.or_eq_true, Bool.not_eq_true', not_or, Bool.not_eq_false,
        List.isEmpty_iff] at hactive
      split
      . exact hrejected
      . next index hindex =>
        apply Step.accept universeId _ index hmain hactive.1 _ hindex
        cases bytes with
        | nil => exact absurd rfl hactive.2
        | cons byte bytes => simp

theorem hand_eq_some {core : Core γ σ} {s s' : State γ σ} {frame : InputValue} {index : Nat}
    (h : hand core s frame index = some s')
    : s' = { s with core := core.submitUniverseFrame s.core frame.id frame.data }
        ∧ frame.data ≠ [] ∧ frame.sequence ≠ s.consumedSequences.getD index 1 := by
  unfold hand at h
  split at h
  . next hnew =>
    cases h
    exact ⟨rfl, List.length_pos_iff.mp hnew.1, hnew.2⟩
  . contradiction

theorem hand_eq_none {core : Core γ σ} {s : State γ σ} {frame : InputValue} {index : Nat}
    (h : hand core s frame index = none)
    : frame.data = [] ∨ frame.sequence = s.consumedSequences.getD index 1 := by
  unfold hand at h
  split at h
  . contradiction
  . next hold =>
    simp only [not_and_or, Decidable.not_not, List.length_pos_iff] at hold
    exact hold

theorem step_scan {core : Core γ σ} {s : State γ σ} {bank : Fin 3} (hmain : s.main = .scanning bank)
    : Step core s (s.scan bank).1 (s.scan bank).2 := by
  unfold scan
  split
  . next hstatus => exact .scanTake bank hmain hstatus
  . next hstatus =>
    split
    . next hnext => exact .scanNext bank ⟨bank.val + 1, hnext⟩ hmain hstatus rfl
    . next hlast => exact .scanFull bank hmain hstatus (by omega)

theorem step_restore {core : Core γ σ} {s : State γ σ} {index : Nat}
    (hmain : s.main = .restoring index)
    : Step core s (s.restore core index).1 (s.restore core index).2 := by
  unfold restore
  split
  . next hframe => exact .restoreDone index hmain hframe
  . next frame hframe =>
    split
    . next hhand => exact .restoreSkip index frame hmain hframe (hand_eq_none hhand)
    . next s' hhand =>
      obtain ⟨rfl, hdata, hnew⟩ := hand_eq_some hhand
      exact .restoreHand index frame hmain hframe hdata hnew

theorem step_deliver {core : Core γ σ} {s : State γ σ} {bank : Fin 3} {index : Nat}
    (hpc : s.coordinator = .delivering bank index)
    : Step core s (s.deliver core bank index).1 (s.deliver core bank index).2 := by
  unfold deliver
  split
  . exact .deliverDone bank index hpc
  . next frame hframe =>
    split
    . apply step_move
      rw [hpc]
      exact Coordinator.moves_of_live (Coordinator.live_of_ne (by simp) (by simp) _) rfl rfl rfl
    . next s' hhand =>
      obtain ⟨rfl, hdata, hnew⟩ := hand_eq_some hhand
      exact .deliverHand bank index frame hpc hframe hdata hnew

theorem step_stepMain (core : Core γ σ) (s : State γ σ)
    : Step core s (s.stepMain core).1 (s.stepMain core).2 := by
  unfold stepMain
  split
  . exact .quiet _ (Or.inl rfl)
  . next bank hmain => exact step_scan hmain
  . next bank hmain => exact .fill bank hmain
  . next bank hmain =>
    unfold exchangeInput
    split
    . next hqueued => exact .exchangeNew bank hmain hqueued
    . next old hqueued => exact .exchangeOld bank old hmain hqueued
  . next bank old hmain => exact .freeInput bank old hmain
  . next hmain =>
    unfold exchangeReady
    split
    . exact .acquireNone hmain
    . next bank hready => exact .acquireTake bank hmain hready
  . next bank hmain => exact .lease bank hmain
  . next hmain =>
    unfold join
    split
    . next hexited =>
      split
      . next hschema => exact .joinRestore hmain hexited hschema
      . next hschema => exact .joinRetire hmain hexited hschema
    . exact .quiet _ (Or.inl rfl)
  . next index hmain => exact step_restore hmain

theorem step_exchangeQueued {core : Core γ σ} {s : State γ σ} (hpc : s.coordinator = .exchanging)
    : Step core s s.exchangeQueued .quiet := by
  unfold exchangeQueued
  split
  . apply Step.move
    rw [hpc]
    exact Coordinator.moves_of_live (Coordinator.live_of_ne (by simp) (by simp) _) rfl rfl rfl
  . next bank hqueued => exact .takeQueued bank hpc hqueued

theorem step_claim {core : Core γ σ} {s : State γ σ} {bank : Fin 2}
    (hpc : s.coordinator = .claiming bank)
    : Step core s (s.claim bank) .quiet := by
  have hlive : Coordinator.Live s.stopping (.claiming bank) :=
    Coordinator.live_of_ne (by simp) (by simp) _
  unfold claim
  split
  . next hstatus => exact .claimTake bank hpc hstatus
  . split
    . apply step_move
      rw [hpc]
      exact Coordinator.moves_of_live hlive rfl rfl rfl
    . apply step_move
      rw [hpc]
      exact Coordinator.moves_of_live hlive rfl rfl rfl

theorem step_complete {core : Core γ σ} {s : State γ σ} {bank : Fin 2}
    (hpc : s.coordinator = .completing bank)
    : Step core s (s.complete core bank).1 (s.complete core bank).2 := by
  unfold complete
  split
  . exact .completeFail bank hpc
  . next c content hconsume => exact .complete bank c content hpc hconsume

theorem step_publish {core : Core γ σ} {s : State γ σ} {bank : Fin 2}
    (hpc : s.coordinator = .handing bank)
    : Step core s (s.publish bank) .quiet := by
  unfold publish
  split
  . next hready => exact .publish bank hpc hready
  . apply step_move
    rw [hpc]
    exact Coordinator.moves_of_live (Coordinator.live_of_ne (by simp) (by simp) _) rfl rfl rfl

theorem step_check {core : Core γ σ} {s : State γ σ} {next : Coordinator}
    (hawake : s.coordinator ≠ .exited) (hinputs : s.coordinator.inputBanks = []) (hfinished : s.coordinator.finished = [])
    (hnext : s.stopping = false → s.coordinator.Moves false next)
    : Step core s (s.moveTo (if s.stopping then .exited else next)) .quiet := by
  apply step_move
  cases hstopping : s.stopping with
  | true => exact Coordinator.moves_exited hawake hinputs hfinished
  | false => exact hnext hstopping

theorem step_stepCoordinator (core : Core γ σ) (s : State γ σ)
    : Step core s (s.stepCoordinator core).1 (s.stepCoordinator core).2 := by
  unfold stepCoordinator
  split
  . next hpc =>
    apply step_check
    . rw [hpc]; simp
    . rw [hpc]; rfl
    . rw [hpc]; rfl
    . intro _
      rw [hpc]
      exact Coordinator.moves_of_live (by simp [Coordinator.Live]) rfl rfl rfl
  . next hpc =>
    apply step_move
    rw [hpc]
    have hlive : Coordinator.Live s.stopping .waiting :=
      Coordinator.live_of_ne (by simp) (by simp) _
    split
    . exact Coordinator.moves_of_live hlive rfl rfl rfl
    . exact Coordinator.moves_of_live hlive rfl rfl rfl
  . next hpc =>
    apply step_check
    . rw [hpc]; simp
    . rw [hpc]; rfl
    . rw [hpc]; rfl
    . intro _
      rw [hpc]
      exact Coordinator.moves_of_live (by simp [Coordinator.Live]) rfl rfl rfl
  . next hpc => exact step_exchangeQueued hpc
  . next bank hpc => exact .beginReading bank hpc
  . next bank index hpc => exact step_deliver hpc
  . next hpc =>
    apply step_check
    . rw [hpc]; simp
    . rw [hpc]; rfl
    . rw [hpc]; rfl
    . intro _
      rw [hpc]
      exact Coordinator.moves_of_live (by simp [Coordinator.Live]) rfl rfl rfl
  . next bank hpc => exact step_claim hpc
  . next bank hpc =>
    apply step_check
    . rw [hpc]; simp
    . rw [hpc]; rfl
    . rw [hpc]; rfl
    . intro _
      rw [hpc]
      exact Coordinator.moves_of_live (by simp [Coordinator.Live]) rfl rfl rfl
  . next bank hpc => exact step_complete hpc
  . next bank hpc =>
    apply step_move
    rw [hpc]
    cases hstopping : s.stopping with
    | true =>
      -- The snapshot is complete and stays unpublished.
      refine ⟨by simp, rfl, List.nil_sublist _, .inr ⟨rfl, ?_⟩, fun _ => ?_⟩
      . simp [Coordinator.Live]
      . simp [Coordinator.Live]
    | false => exact Coordinator.moves_of_live (by simp [Coordinator.Live]) rfl rfl rfl
  . next bank hpc => exact step_publish hpc
  . exact .quiet _ (Or.inl rfl)

theorem step_cases (core : Core γ σ) (s : State γ σ) (event : Event)
    : Step core s (s.step core event).1 (s.step core event).2 := by
  cases event with
  | submit universeId data => exact step_call (fun hmain => step_submit hmain universeId data)
  | flushInput =>
    apply step_call
    intro hmain
    unfold flushInput
    split
    . exact .quiet _ (Or.inl rfl)
    . next hactive =>
      simp only [Bool.or_eq_true, Bool.not_eq_true', not_or, Bool.not_eq_false] at hactive
      exact .beginScan hmain hactive.2
  | tryAcquire =>
    apply step_call
    intro hmain
    unfold tryAcquire
    split
    . exact .quiet _ (Or.inr (Or.inr rfl))
    . next hactive =>
      simp only [Bool.not_eq_true', Bool.not_eq_false] at hactive
      exact .beginAcquire hmain hactive
  | release bank =>
    apply step_call
    intro hmain
    unfold release
    split
    . next hmem => exact .release bank hmain hmem
    . exact .quiet _ (Or.inl rfl)
  | stop =>
    apply step_call
    intro hmain
    unfold stop
    split
    . exact .quiet _ (Or.inl rfl)
    . next hretired => exact .stop hmain (Bool.eq_false_iff.mpr hretired)
  | main => exact step_stepMain core s
  | coordinator => exact step_stepCoordinator core s

/-- What a step does that is no transaction. -/
structure Settles (s : State γ σ) (result : State γ σ × Output σ) : Prop where
  failed : result.1.failed = s.failed
  output : ∀ snapshot, result.2 ≠ .produced snapshot

theorem settles_call {s : State γ σ} {f : State γ σ → State γ σ × Output σ}
    (h : Settles s (f s)) : Settles s (s.call f) := by
  unfold call
  split
  . exact h
  . exact ⟨rfl, nofun⟩

theorem failed_hand {core : Core γ σ} {s s' : State γ σ} {frame : InputValue} {index : Nat}
    (h : hand core s frame index = some s') : s'.failed = s.failed := by
  rw [(hand_eq_some h).1]

theorem settles_stepMain (core : Core γ σ) (s : State γ σ) : Settles s (s.stepMain core) := by
  unfold stepMain
  split
  . exact ⟨rfl, nofun⟩
  . unfold scan
    split
    . exact ⟨rfl, nofun⟩
    . split
      . exact ⟨rfl, nofun⟩
      . exact ⟨rfl, nofun⟩
  . exact ⟨rfl, nofun⟩
  . unfold exchangeInput
    split
    . exact ⟨rfl, nofun⟩
    . exact ⟨rfl, nofun⟩
  . exact ⟨rfl, nofun⟩
  . unfold exchangeReady
    split
    . exact ⟨rfl, nofun⟩
    . exact ⟨rfl, nofun⟩
  . exact ⟨rfl, nofun⟩
  . unfold join
    split
    . split
      . exact ⟨rfl, nofun⟩
      . exact ⟨rfl, nofun⟩
    . exact ⟨rfl, nofun⟩
  . unfold restore
    split
    . exact ⟨rfl, nofun⟩
    . split
      . exact ⟨rfl, nofun⟩
      next hhand =>
        have hsame := failed_hand hhand
        exact ⟨hsame, nofun⟩

/-- The step is a transaction of the core. -/
def consuming (s : State γ σ) (event : Event) : Bool :=
  match event, s.coordinator with
  | .coordinator, .completing _ => true
  | _, _ => false

theorem settles_step {core : Core γ σ} {s : State γ σ} {event : Event}
    (h : s.consuming event = false) : Settles s (State.step core s event) := by
  unfold State.step
  cases event with
  | submit universeId data =>
    apply settles_call
    unfold submit
    split
    . exact ⟨rfl, nofun⟩
    . split
      . exact ⟨rfl, nofun⟩
      . split
        . exact ⟨rfl, nofun⟩
        . exact ⟨rfl, nofun⟩
  | flushInput =>
    apply settles_call
    unfold flushInput
    split
    . exact ⟨rfl, nofun⟩
    . exact ⟨rfl, nofun⟩
  | tryAcquire =>
    apply settles_call
    unfold tryAcquire
    split
    . exact ⟨rfl, nofun⟩
    . exact ⟨rfl, nofun⟩
  | release bank =>
    apply settles_call
    unfold release
    dsimp only
    split
    . exact ⟨rfl, nofun⟩
    . exact ⟨rfl, nofun⟩
  | stop =>
    apply settles_call
    unfold stop
    split
    . exact ⟨rfl, nofun⟩
    . exact ⟨rfl, nofun⟩
  | main => exact settles_stepMain core s
  | coordinator =>
    dsimp only
    unfold stepCoordinator
    split
    . exact ⟨rfl, nofun⟩
    . exact ⟨rfl, nofun⟩
    . exact ⟨rfl, nofun⟩
    . unfold exchangeQueued
      dsimp only
      split
      . exact ⟨rfl, nofun⟩
      . exact ⟨rfl, nofun⟩
    . exact ⟨rfl, nofun⟩
    . unfold deliver
      split
      . exact ⟨rfl, nofun⟩
      . split
        . exact ⟨rfl, nofun⟩
        next hhand =>
          have hsame := failed_hand hhand
          exact ⟨hsame, nofun⟩
    . exact ⟨rfl, nofun⟩
    . unfold claim
      split
      . exact ⟨rfl, nofun⟩
      . split
        . exact ⟨rfl, nofun⟩
        . exact ⟨rfl, nofun⟩
    . exact ⟨rfl, nofun⟩
    next bank hpc =>
      simp [consuming, hpc] at h
    . exact ⟨rfl, nofun⟩
    . unfold publish
      dsimp only
      split
      . exact ⟨rfl, nofun⟩
      . exact ⟨rfl, nofun⟩
    . exact ⟨rfl, nofun⟩

-- Only a transaction that is rejected ends the pipeline as failed.
theorem failed_step {core : Core γ σ} {s : State γ σ} {event : Event}
    (hconsume : s.consuming event = true → (core.consume s.core).isSome = true)
    : (State.step core s event).1.failed = s.failed := by
  cases hnext : s.consuming event with
  | false => exact (settles_step hnext).failed
  | true =>
    have hsome := hconsume hnext
    unfold consuming at hnext
    split at hnext
    next hpc =>
      unfold State.step stepCoordinator
      rw [hpc]
      dsimp only
      unfold State.complete
      split
      next hnone =>
        rw [hnone] at hsome
        cases hsome
      . rfl
    . cases hnext

theorem produced_step {core : Core γ σ} {s : State γ σ} {event : Event} {snapshot : Snapshot σ}
    (h : (State.step core s event).2 = .produced snapshot)
    : s.consuming event = true
        ∧ core.consume s.core = some ((State.step core s event).1.core, snapshot.content) := by
  have hnext : s.consuming event = true := by
    rw [← Bool.not_eq_false]
    intro hnext
    exact (settles_step hnext).output snapshot h
  refine ⟨hnext, ?_⟩
  unfold consuming at hnext
  split at hnext
  next hpc =>
    unfold State.step stepCoordinator at h ⊢
    rw [hpc] at h ⊢
    dsimp only at h ⊢
    unfold State.complete at h ⊢
    split at h
    next hnone => cases h
    next c content hconsume =>
      cases h
      rw [hconsume]
  . cases hnext

theorem core_step {core : Core γ σ} {s s' : State γ σ} {out : Output σ} (h : Step core s s' out)
    : s'.core = s.core ∨ (∃ id data, s'.core = core.submitUniverseFrame s.core id data)
        ∨ ∃ content, core.consume s.core = some (s'.core, content) := by
  cases h with
  | restoreHand index frame => exact Or.inr (Or.inl ⟨frame.id, frame.data, rfl⟩)
  | deliverHand bank index frame => exact Or.inr (Or.inl ⟨frame.id, frame.data, rfl⟩)
  | complete bank c content hpc hconsume => exact Or.inr (Or.inr ⟨content, hconsume⟩)
  | _ => exact Or.inl rfl

end State

-- A core whose transactions succeed while it keeps an invariant never fails.
theorem keeps_core {core : Core γ σ} {I P : γ → Prop}
    (hsubmit : ∀ c id data, I c → I (core.submitUniverseFrame c id data))
    (hconsume : ∀ c c' content, I c → core.consume c = some (c', content) → I c')
    (hsome : ∀ c, I c → P c → (core.consume c).isSome = true) {c : γ} (hc : I c)
    {events : List Event}
    (hevents : (machine core c).StepsMeet (fun s event => s.consuming event = true → P s.core)
      (machine core c).init events)
    : I ((machine core c).run (machine core c).init events).core
        ∧ ((machine core c).run (machine core c).init events).failed = false := by
  apply (machine core c).guarded_trace_induction _ (fun _ s => I s.core ∧ s.failed = false) _ _
    hevents
  . exact ⟨hc, rfl⟩
  . intro _ s event h hevent
    constructor
    . change I (State.step core s event).1.core
      rcases State.core_step (State.step_cases core s event) with hsame | hsubmitted | hconsumed
      . rw [hsame]
        exact h.1
      . obtain ⟨id, data, hcore⟩ := hsubmitted
        rw [hcore]
        exact hsubmit _ _ _ h.1
      . obtain ⟨content, hcontent⟩ := hconsumed
        exact hconsume _ _ _ h.1 hcontent
    . exact (State.failed_step (fun hnext => hsome _ h.1 (hevent hnext))).trans h.2

end AsyncPipeline
end Peraviz.Presentation
