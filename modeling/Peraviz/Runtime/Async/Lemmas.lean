import Peraviz.Presentation.AsyncPipeline.Delivery
import Peraviz.Runtime.Async.Impl

/-!
This module contains what a session does to the input of the core that it owns, also where its
coordinator leaves with an exception.
-/

namespace Peraviz.Runtime.Async

open KeyedLog
open Presentation (AsyncPipeline.State AsyncPipeline.init)
open Presentation.AsyncPipeline
open Presentation.AsyncPipeline.State

variable {γ σ : Type}

/-- What a universe holds after the frames of a log, of which each replaces the one before. -/
def after (log : List (Int × List UInt8)) (held : Int × List UInt8) : Int × List UInt8 :=
  (held.1, ((valuesOf held.1 log).getLast?.map (List.take 512)).getD held.2)

@[simp]
theorem after_nil : after [] = id := rfl

theorem after_append (front back : List (Int × List UInt8)) (held : Int × List UInt8)
    : after back (after front held) = after (front ++ back) held := by
  unfold after
  simp only [valuesOf_append, List.getLast?_append]
  cases (valuesOf held.1 back).getLast? with
  | none => rfl
  | some value => rfl

theorem after_congr {log log' : List (Int × List UInt8)} {held : Int × List UInt8}
    (h : (valuesOf held.1 log).getLast? = (valuesOf held.1 log').getLast?)
    : after log held = after log' held := by
  unfold after
  rw [h]

/-- What the runtime relies on of its core: a frame replaces the one that a universe holds. -/
structure Lawful (core : Presentation.Core γ σ) : Prop where
  submit : ∀ c universeId data, data ≠ []
    → core.heldUniverses (core.submitUniverseFrame c universeId data)
      = (core.heldUniverses c).map (after [(universeId, data)])
  schema_submit : ∀ c universeId data,
    core.schemaGeneration (core.submitUniverseFrame c universeId data) = core.schemaGeneration c
  consume : ∀ c c' content, core.consume c = some (c', content)
    → core.heldUniverses c' = core.heldUniverses c
      ∧ core.schemaGeneration c' = core.schemaGeneration c

/-! ### One step of a session -/

variable {core : Presentation.Core γ σ} {s s' : AsyncPipeline.State γ σ}
  {out : Presentation.AsyncPipeline.Output σ}

theorem submittedBy_call {event : Presentation.AsyncPipeline.Event}
    {f : AsyncPipeline.State γ σ → AsyncPipeline.State γ σ × Presentation.AsyncPipeline.Output σ}
    (h : submittedBy (event, (f s).2) = none) : submittedBy (event, (s.call f).2) = none := by
  unfold State.call
  split
  . exact h
  . rfl

theorem submittedBy_stepMain {event : Presentation.AsyncPipeline.Event}
    : submittedBy (event, (s.stepMain core).2) = none := by
  unfold State.stepMain
  split
  . rfl
  . unfold State.scan
    split
    . rfl
    . split
      . rfl
      . rfl
  . rfl
  . unfold State.exchangeInput
    split
    . rfl
    . rfl
  . rfl
  . unfold State.exchangeReady
    split
    . rfl
    . rfl
  . rfl
  . rfl
  . unfold State.restore
    split
    . rfl
    . split
      . rfl
      . rfl

theorem submittedBy_stepCoordinator {event : Presentation.AsyncPipeline.Event}
    : submittedBy (event, (s.stepCoordinator core).2) = none := by
  unfold State.stepCoordinator
  split
  case h_6 =>
    unfold State.deliver
    split
    . rfl
    . split
      . rfl
      . rfl
  case h_10 =>
    unfold State.complete
    split
    . rfl
    . rfl
  all_goals rfl

theorem submittedBy_step {event : Presentation.AsyncPipeline.Event}
    (h : ∀ universeId data, event ≠ .submit universeId data)
    : submittedBy (event, (s.step core event).2) = none := by
  cases event with
  | submit universeId data => exact absurd rfl (h universeId data)
  | flushInput =>
    apply submittedBy_call
    unfold State.flushInput
    split
    . rfl
    . rfl
  | tryAcquire =>
    apply submittedBy_call
    unfold State.tryAcquire
    split
    . rfl
    . rfl
  | release bank => exact submittedBy_call rfl
  | stop => exact submittedBy_call rfl
  | main => exact submittedBy_stepMain
  | coordinator => exact submittedBy_stepCoordinator

-- The core changes by the frames that it is handed, all else leaves its input.
theorem Lawful.step (hcore : Lawful core) (hstep : Step core s s' out)
    (event : Presentation.AsyncPipeline.Event)
    : core.schemaGeneration s'.core = core.schemaGeneration s.core
        ∧ core.heldUniverses s'.core
          = (core.heldUniverses s.core).map (after (handed [(event, out)])) := by
  have hsame : (core.heldUniverses s.core).map (after []) = core.heldUniverses s.core :=
    List.map_id _
  cases hstep with
  | quiet _ hout =>
    refine ⟨rfl, ?_⟩
    rcases hout with rfl | rfl | rfl
    . exact hsame.symm
    . exact hsame.symm
    . exact hsame.symm
  | restoreHand index frame hmain hframe hdata =>
    exact ⟨hcore.schema_submit _ _ _, hcore.submit _ _ _ hdata⟩
  | deliverHand bank index frame hpc hframe hdata =>
    exact ⟨hcore.schema_submit _ _ _, hcore.submit _ _ _ hdata⟩
  | complete bank c content hpc hconsume =>
    obtain ⟨hheld, hschema⟩ := hcore.consume _ _ _ hconsume
    exact ⟨hschema, hheld.trans hsame.symm⟩
  | _ => exact ⟨rfl, hsame.symm⟩

def Unstopped (s : AsyncPipeline.State γ σ) : Prop :=
  s.stopping = true → s.main.Leaving ∨ s.retired = true

theorem Unstopped.of_main (hunstopped : Unstopped s) (hjoined : s.Joined) {pc : Main}
    (hmain : s.main = pc) (hbusy : pc ≠ .idle) (hstays : ¬pc.Leaving)
    (hstopping : s'.stopping = s.stopping) : Unstopped s' := by
  intro h
  rw [hstopping] at h
  rcases hunstopped h with hleaving | hretired
  . rw [hmain] at hleaving
    exact absurd hleaving hstays
  . rw [hjoined.not_retired_of_busy hmain hbusy] at hretired
    contradiction

theorem Unstopped.of_active (hactive : s.active = true) (hstopping : s'.stopping = s.stopping)
    : Unstopped s' := by
  intro h
  rw [hstopping] at h
  simp [State.active, h] at hactive

theorem Unstopped.same (hunstopped : Unstopped s) (hmain : s'.main = s.main)
    (hretired : s'.retired = s.retired) (hstopping : s'.stopping = s.stopping) : Unstopped s' := by
  unfold Unstopped
  rw [hmain, hretired, hstopping]
  exact hunstopped

theorem Unstopped.step (h : Unstopped s) (hjoined : s.Joined) (hstep : Step core s s' out)
    : Unstopped s' := by
  cases hstep with
  | quiet => exact h
  | beginScan hmain hactive => exact .of_active hactive rfl
  | beginAcquire hmain hactive => exact .of_active hactive rfl
  | scanNext bank next hmain => exact h.of_main hjoined hmain (by simp) id rfl
  | scanFull bank hmain => exact h.of_main hjoined hmain (by simp) id rfl
  | scanTake bank hmain => exact h.of_main hjoined hmain (by simp) id rfl
  | fill bank hmain => exact h.of_main hjoined hmain (by simp) id rfl
  | exchangeNew bank hmain => exact h.of_main hjoined hmain (by simp) id rfl
  | exchangeOld bank old hmain => exact h.of_main hjoined hmain (by simp) id rfl
  | freeInput bank old hmain => exact h.of_main hjoined hmain (by simp) id rfl
  | acquireNone hmain => exact h.of_main hjoined hmain (by simp) id rfl
  | acquireTake bank hmain => exact h.of_main hjoined hmain (by simp) id rfl
  | lease bank hmain => exact h.of_main hjoined hmain (by simp) id rfl
  | stop => exact fun _ => Or.inl trivial
  | joinRestore => exact fun _ => Or.inl trivial
  | joinRetire => exact fun _ => Or.inr rfl
  | restoreHand => exact fun _ => Or.inl trivial
  | restoreSkip => exact fun _ => Or.inl trivial
  | restoreDone => exact fun _ => Or.inr rfl
  | _ => exact h.same rfl rfl rfl

theorem coordinator_of_exited (hexited : s.coordinator = .exited) (hstep : Step core s s' out)
    : s'.coordinator = .exited := by
  cases hstep with
  | move pc initialBatch hmoves => exact absurd hexited hmoves.awake
  | takeQueued bank hpc => simp [hexited] at hpc
  | beginReading bank hpc => simp [hexited] at hpc
  | deliverHand bank index frame hpc => simp [hexited] at hpc
  | deliverDone bank index hpc => simp [hexited] at hpc
  | claimTake bank hpc => simp [hexited] at hpc
  | completeFail bank hpc => simp [hexited] at hpc
  | complete bank c content hpc => simp [hexited] at hpc
  | publish bank hpc => simp [hexited] at hpc
  | _ => exact hexited

/-! ### A session -/

theorem handed_concat (past : List (Presentation.AsyncPipeline.Event
      × Presentation.AsyncPipeline.Output σ)) (event : Presentation.AsyncPipeline.Event)
    (out : Presentation.AsyncPipeline.Output σ)
    : handed (past ++ [(event, out)]) = handed past ++ handed [(event, out)] :=
  List.filterMap_append

theorem submissions_concat (past : List (Presentation.AsyncPipeline.Event
      × Presentation.AsyncPipeline.Output σ)) (event : Presentation.AsyncPipeline.Event)
    (out : Presentation.AsyncPipeline.Output σ)
    : submissions (past ++ [(event, out)]) = submissions past ++ submissions [(event, out)] :=
  List.filterMap_append

/-- A session that owns the core since `c`, and was submitted the frames of a log since. -/
structure Owns (core : Presentation.Core γ σ) (c : γ) (log : List (Int × List UInt8))
    (s : AsyncPipeline.State γ σ) : Prop where
  joined : s.Joined
  unstopped : Unstopped s
  inputs : s.coordinator ≠ .exited → s.InputsHeld
  schema : core.schemaGeneration s.core = core.schemaGeneration c
  delivers : ∃ taken copied past, Delivers core c taken copied past s
    ∧ core.heldUniverses s.core = (core.heldUniverses c).map (after (handed past))
    ∧ (submissions past).length ≤ log.length
    ∧ ∀ held ∈ core.heldUniverses c, valuesOf held.1 (submissions past) = valuesOf held.1 log

theorem owns_init (core : Presentation.Core γ σ) (c : γ)
    : Owns core c [] (AsyncPipeline.init core c) where
  joined := joined_init core c
  unstopped h := by cases h
  inputs _ := inputsHeld_init core c
  schema := rfl
  delivers := ⟨_, _, [], delivers_init core c, (List.map_id _).symm, Nat.le_refl 0,
    fun _ _ => rfl⟩

variable {c : γ} {log : List (Int × List UInt8)}

theorem Owns.step (hcore : Lawful core) (h : Owns core c log s) (hstep : Step core s s' out)
    (event : Presentation.AsyncPipeline.Event) (more : List (Int × List UInt8))
    (hlength : (submissions [(event, out)]).length ≤ more.length)
    (hmore : ∀ held ∈ core.heldUniverses c,
      valuesOf held.1 (submissions [(event, out)]) = valuesOf held.1 more)
    : Owns core c (log ++ more) s' := by
  obtain ⟨taken, copied, past, hdelivers, hheld, hbound, hvalues⟩ := h.delivers
  obtain ⟨hschema, hnext⟩ := hcore.step hstep event
  constructor
  . exact h.joined.step hstep
  . exact h.unstopped.step h.joined hstep
  . intro hawake
    apply InputsHeld.step (h.inputs ?_) hstep
    intro hexited
    exact hawake (coordinator_of_exited hexited hstep)
  . rw [hschema, h.schema]
  . obtain ⟨taken', copied', hdelivers'⟩ := hdelivers.step h.inputs h.joined event hstep
    refine ⟨taken', copied', _, hdelivers', ?_, ?_, ?_⟩
    . rw [hnext, hheld, List.map_map]
      apply List.map_congr_left
      intro held _
      rw [handed_concat]
      exact after_append _ _ held
    . rw [submissions_concat, List.length_append, List.length_append]
      exact Nat.add_le_add hbound hlength
    . intro held hmem
      rw [submissions_concat, valuesOf_append, valuesOf_append, hvalues held hmem,
        hmore held hmem]

theorem Owns.quiet (hcore : Lawful core) (h : Owns core c log s)
    {event : Presentation.AsyncPipeline.Event}
    (hevent : ∀ universeId data, event ≠ .submit universeId data)
    : Owns core c log (s.step core event).1 := by
  have hnone : submissions [(event, (s.step core event).2)] = [] := by
    simp [submissions, submittedBy_step hevent]
  rw [← List.append_nil log]
  apply h.step hcore (step_cases core s event) event []
  . rw [hnone]
  . intro held _
    rw [hnone]

theorem Owns.submit (hcore : Lawful core) (h : Owns core c log s) (hmain : s.main = .idle)
    (hretired : s.retired = false) (hfailed : s.failed = false) {universeId : Int}
    {data : List UInt8} (hdata : data ≠ []) (hlength : data.length ≤ 512)
    : Owns core c (log ++ [(universeId, data)]) (s.submit universeId (some data)).1 := by
  have hstopping : s.stopping = false := by
    rw [Bool.eq_false_iff]
    intro hstopping
    rcases h.unstopped hstopping with hleaving | h'
    . rw [hmain] at hleaving
      exact hleaving
    . rw [hretired] at h'
      contradiction
  have hactive : s.active = true := by
    simp [State.active, hstopping, hfailed]
  have htake : data.take 512 = data := List.take_of_length_le hlength
  have hout : (s.submit universeId (some data)).2 = .submitted
      (if (s.latest.findIdx? (·.id == universeId)).isSome then some (universeId, data)
        else none) := by
    simp only [State.submit, hactive, List.isEmpty_iff, hdata, Bool.not_true, Bool.false_or,
      if_false, htake]
    cases s.latest.findIdx? (·.id == universeId) with
    | none => rfl
    | some index => rfl
  apply h.step hcore (step_submit hmain universeId (some data)) (.submit universeId (some data))
  . rw [hout]
    split
    . exact Nat.le_refl 1
    . exact Nat.zero_le 1
  . intro held hheld
    rw [hout]
    split
    . rfl
    next hunknown =>
      have hne : universeId ≠ held.1 := by
        intro heq
        obtain ⟨taken, copied, past, hdelivers, _⟩ := h.delivers
        rw [Option.not_isSome_iff_eq_none, List.findIdx?_eq_none_iff] at hunknown
        have hmem : valueAfter (submissions past) held ∈ s.latest := by
          rw [hdelivers.latest]
          exact List.mem_map_of_mem hheld
        have hother := hunknown _ hmem
        simp [valueAfter, heq] at hother
      exact (valuesOf_of_ne hne data).symm

theorem Owns.fail (h : Owns core c log s) (hawake : s.coordinator ≠ .exited) {c' : γ}
    (hheld : core.heldUniverses c' = core.heldUniverses s.core)
    (hschema : core.schemaGeneration c' = core.schemaGeneration s.core)
    : Owns core c log (abandon s c') := by
  obtain ⟨taken, copied, past, hdelivers, heq, hbound, hvalues⟩ := h.delivers
  have hawakened : ¬(abandon s c').coordinator ≠ .exited := fun h => h rfl
  constructor
  . exact h.joined.coordinator hawake rfl rfl rfl
  . exact h.unstopped.same rfl rfl rfl
  . exact fun h => absurd h hawakened
  . exact hschema.trans h.schema
  . refine ⟨taken, copied, past ++ [(.coordinator, .quiet)], ?_, ?_, ?_, ?_⟩
    . apply hdelivers.calm .coordinator rfl rfl
      refine Calm.coordinator ⟨rfl, rfl, rfl, rfl, rfl, fun _ => rfl⟩ h.joined hawake rfl ?_
      exact List.sublist_append_right _ _
    . rw [handed_concat_of_none past _ rfl]
      exact hheld.trans heq
    . rw [submissions_concat_of_none past _ rfl]
      exact hbound
    . rw [submissions_concat_of_none past _ rfl]
      exact hvalues

theorem Owns.retired (h : Owns core c log s) (hbound : log.length < 2 ^ 64)
    (hretired : s.retired = true)
    : core.heldUniverses s.core = (core.heldUniverses c).map (after log) := by
  obtain ⟨taken, copied, past, hdelivers, hheld, hlength, hvalues⟩ := h.delivers
  have hschema : core.schemaGeneration s.core = s.schema := h.schema.trans hdelivers.schema.symm
  have htaken := hdelivers.retired (Nat.lt_of_le_of_lt hlength hbound) hretired hschema
  rw [hheld]
  apply List.map_congr_left
  intro held hmem
  apply after_congr
  rw [hdelivers.last, htaken, hvalues held hmem]

end Peraviz.Runtime.Async
