import Mathlib.Data.List.Infix
import Peraviz.Presentation.AsyncPipeline.Custody

/-!
This module contains the way of a snapshot: produced by the coordinator, published, acquired by the
consumer and left alone until it is released. A reader of the snapshots has a view of the core that
only completions change, each in a way that its snapshot tells.
-/

namespace Peraviz.Presentation
namespace AsyncPipeline

variable {γ σ : Type} {core : Core γ σ}

def producedBy : Event × Output σ → Option (Snapshot σ)
  | (_, .produced snapshot) => some snapshot
  | _ => none

def acquiredBy : Event × Output σ → Option (Snapshot σ)
  | (_, .acquired snapshot) => snapshot
  | _ => none

/-- The snapshots a trace produced, oldest first. -/
def produced (trace : List (Event × Output σ)) : List (Snapshot σ) := trace.filterMap producedBy

def acquired (trace : List (Event × Output σ)) : List (Snapshot σ) := trace.filterMap acquiredBy

namespace State

variable {s s' : State γ σ} {event : Event} {out : Output σ} {past : List (Event × Output σ)}

/-- The banks of the snapshots on their way to the consumer, the oldest snapshot first. -/
def flying (s : State γ σ) : List (Fin 2) :=
  s.main.outputBanks ++ s.readyOutput.toList ++ s.coordinator.finished

def inFlight (s : State γ σ) : List (Option (Snapshot σ)) :=
  s.flying.map (fun bank => (s.outputs bank).snapshot)

structure Streams (past : List (Event × Output σ)) (s : State γ σ) : Prop where
  isPrefix : (acquired past).map some ++ s.inFlight <+: (produced past).map some
  complete : s.coordinator.Live s.stopping →
    (acquired past).map some ++ s.inFlight = (produced past).map some
  leases : ∀ lease ∈ s.leases, (s.outputs lease.1).snapshot = lease.2

theorem acquired_concat_of_none (past : List (Event × Output σ)) (event : Event)
    (h : acquiredBy (event, out) = none)
    : acquired (past ++ [(event, out)]) = acquired past := by
  simp [acquired, h]

theorem produced_concat_of_none (past : List (Event × Output σ)) (event : Event)
    (h : producedBy (event, out) = none)
    : produced (past ++ [(event, out)]) = produced past := by
  simp [produced, h]

-- A step that produces nothing, acquires nothing, and at most drops what is in flight.
theorem Streams.drop (h : Streams past s) (event : Event) (hacquired : acquiredBy (event, out) = none)
    (hproduced : producedBy (event, out) = none)
    (hsnapshots : ∀ bank, (s'.outputs bank).snapshot = (s.outputs bank).snapshot)
    (hflying : s'.flying <+: s.flying)
    (hlive : s'.coordinator.Live s'.stopping →
      s'.flying = s.flying ∧ s.coordinator.Live s.stopping)
    (hleases : ∀ lease ∈ s'.leases, lease ∈ s.leases)
    : Streams (past ++ [(event, out)]) s' := by
  have hinFlight : s'.inFlight = s'.flying.map (fun bank => (s.outputs bank).snapshot) := by
    simp only [inFlight, hsnapshots]
  refine ⟨?_, ?_, ?_⟩
  . rw [acquired_concat_of_none past event hacquired, produced_concat_of_none past event hproduced,
      hinFlight]
    apply List.IsPrefix.trans _ h.isPrefix
    exact (List.prefix_append_right_inj _).mpr (hflying.map _)
  . intro hlive'
    obtain ⟨hsame, hlive⟩ := hlive hlive'
    rw [acquired_concat_of_none past event hacquired, produced_concat_of_none past event hproduced,
      hinFlight, hsame]
    exact h.complete hlive
  . intro lease hmem
    rw [hsnapshots]
    exact h.leases lease (hleases lease hmem)

theorem Streams.same (h : Streams past s) (event : Event)
    (hacquired : acquiredBy (event, out) = none) (hproduced : producedBy (event, out) = none)
    (houtputs : s'.outputs = s.outputs) (hbanks : s'.main.outputBanks = s.main.outputBanks)
    (hready : s'.readyOutput = s.readyOutput)
    (hfinished : s'.coordinator.finished = s.coordinator.finished) (hleases : s'.leases = s.leases)
    (hlive : s'.coordinator.Live s'.stopping → s.coordinator.Live s.stopping)
    : Streams (past ++ [(event, out)]) s' := by
  have hflying : s'.flying = s.flying := by
    rw [flying, flying, hbanks, hready, hfinished]
  apply h.drop event hacquired hproduced
  . intro bank
    rw [houtputs]
  . rw [hflying]
  . intro hlive'
    exact ⟨hflying, hlive hlive'⟩
  . rw [hleases]
    exact fun _ hmem => hmem

theorem live_stopping {pc : Coordinator} {stopping : Bool} (h : pc.Live true) : pc.Live stopping :=
  ⟨h.1, fun hloop => h.2 ⟨hloop.1, rfl⟩⟩

theorem Streams.lease (h : Streams past s) (event : Event) {bank : Fin 2}
    (hmain : s.main = .acquired bank)
    : Streams (past ++ [(event, .acquired (s.outputs bank).snapshot)]) (s.lease bank).1 := by
  have hsnapshot : ∀ other, ((s.lease bank).1.outputs other).snapshot = (s.outputs other).snapshot := by
    intro other
    simp only [State.lease, setOutput]
    by_cases heq : other = bank
    . rw [heq, Function.update_self]
    . rw [Function.update_of_ne heq]
  have hflying : s.flying = bank :: (s.lease bank).1.flying := by
    simp [flying, hmain, Main.outputBanks, State.lease, setOutput]
  have hinFlight : s.inFlight = (s.outputs bank).snapshot :: (s.lease bank).1.inFlight := by
    simp only [inFlight, hflying, List.map_cons, hsnapshot]
  have hsome : ∃ snapshot, (s.outputs bank).snapshot = some snapshot := by
    have hmem : (s.outputs bank).snapshot ∈ (produced past).map some := by
      apply h.isPrefix.subset
      rw [hinFlight]
      simp
    obtain ⟨snapshot, _, heq⟩ := List.mem_map.mp hmem
    exact ⟨snapshot, heq.symm⟩
  obtain ⟨snapshot, hsome⟩ := hsome
  have hshift : (acquired (past ++ [(event, .acquired (s.outputs bank).snapshot)])).map some
      ++ (s.lease bank).1.inFlight = (acquired past).map some ++ s.inFlight := by
    rw [hinFlight]
    simp [acquired, acquiredBy, hsome]
  have hproduced : produced (past ++ [(event, .acquired (s.outputs bank).snapshot)]) = produced past :=
    produced_concat_of_none past event rfl
  refine ⟨?_, ?_, ?_⟩
  . rw [hshift, hproduced]
    exact h.isPrefix
  . intro hlive
    rw [hshift, hproduced]
    exact h.complete hlive
  . intro lease hmem
    rw [hsnapshot]
    cases List.mem_append.mp hmem with
    | inl hmem => exact h.leases lease hmem
    | inr hmem =>
      rw [List.mem_singleton.mp hmem]

theorem Streams.produce (h : Streams past s) (hheld : s.OutputsHeld) (event : Event) {bank : Fin 2}
    {c : γ} {content : σ} (hpc : s.coordinator = .completing bank)
    : Streams (past ++ [(event, .produced ⟨s.generation, content⟩)])
        { s.moveTo (.publishing bank) with
          core := c
          outputs := Function.update s.outputs bank ⟨.queued, some ⟨s.generation, content⟩⟩
        } := by
  have hmem : bank ∈ s.coordinator.outputBanks := by simp [hpc, Coordinator.outputBanks]
  have hdisjoint := List.disjoint_of_nodup_append hheld.nodup
  have hother : ∀ other, other ≠ bank → (Function.update s.outputs bank
      ⟨.queued, some ⟨s.generation, content⟩⟩ other).snapshot = (s.outputs other).snapshot := by
    intro other hne
    rw [Function.update_of_ne hne]
  have hflying : s.flying = s.main.outputBanks ++ s.readyOutput.toList := by
    simp [flying, hpc, Coordinator.finished]
  have hne : ∀ other ∈ s.flying, other ≠ bank := by
    intro other hother heq
    rw [hflying] at hother
    rw [heq] at hother
    refine hdisjoint ?_ hmem
    simp only [List.append_assoc, List.mem_append] at hother ⊢
    exact Or.inr hother
  have hinFlight : inFlight { s.moveTo (.publishing bank) with
        core := c
        outputs := Function.update s.outputs bank ⟨.queued, some ⟨s.generation, content⟩⟩
      } = s.inFlight ++ [some ⟨s.generation, content⟩] := by
    have hflying' : flying { s.moveTo (.publishing bank) with
        core := c
        outputs := Function.update s.outputs bank ⟨.queued, some ⟨s.generation, content⟩⟩
      } = s.flying ++ [bank] := by
      rw [hflying]
      rfl
    unfold inFlight
    rw [hflying', List.map_append]
    congr 1
    . apply List.map_congr_left
      intro other hmem
      exact hother other (hne other hmem)
    . simp
  have hacquired : acquired (past ++ [(event, .produced ⟨s.generation, content⟩)]) = acquired past :=
    acquired_concat_of_none past event rfl
  have hproduced : produced (past ++ [(event, .produced ⟨s.generation, content⟩)])
      = produced past ++ [⟨s.generation, content⟩] := by
    simp [produced, producedBy]
  have hcomplete := h.complete (by simp [hpc, Coordinator.Live])
  have hcomplete' : (acquired past).map some ++ (s.inFlight ++ [some ⟨s.generation, content⟩])
      = (produced past ++ [(⟨s.generation, content⟩ : Snapshot σ)]).map some := by
    rw [← List.append_assoc, hcomplete, List.map_append]
    rfl
  refine ⟨?_, ?_, ?_⟩
  . rw [hinFlight, hacquired, hproduced, hcomplete']
  . intro _
    rw [hinFlight, hacquired, hproduced, hcomplete']
  . intro lease hlease
    have hlease' : lease.1 ≠ bank := by
      intro heq
      refine hdisjoint ?_ hmem
      rw [← heq]
      simp only [List.mem_append]
      exact Or.inl (Or.inl (List.mem_map_of_mem hlease))
    exact (hother lease.1 hlease').trans (h.leases lease hlease)

theorem Streams.retire (h : Streams past s) (event : Event) (hexited : s.coordinator = .exited)
    : Streams (past ++ [(event, .quiet)]) s.retire := by
  apply h.drop event rfl rfl
  . exact fun _ => rfl
  . simp [flying, State.retire, hexited, Main.outputBanks, Coordinator.finished]
  . intro hlive
    exact absurd hexited hlive.1
  . exact fun _ hmem => hmem

theorem Streams.step (h : Streams past s) (hheld : s.OutputsHeld) (hjoined : s.Joined) (event : Event)
    (hstep : Step core s s' out)
    : Streams (past ++ [(event, out)]) s' := by
  cases hstep with
  | quiet _ hout =>
    obtain rfl | rfl | rfl := hout
    . exact h.same event rfl rfl rfl rfl rfl rfl rfl id
    . exact h.same event rfl rfl rfl rfl rfl rfl rfl id
    . exact h.same event rfl rfl rfl rfl rfl rfl rfl id
  | accept => exact h.same event rfl rfl rfl rfl rfl rfl rfl id
  | beginScan hmain => exact h.same event rfl rfl rfl (by rw [hmain]; rfl) rfl rfl rfl id
  | scanNext bank next hmain => exact h.same event rfl rfl rfl (by rw [hmain]; rfl) rfl rfl rfl id
  | scanFull bank hmain => exact h.same event rfl rfl rfl (by rw [hmain]; rfl) rfl rfl rfl id
  | scanTake bank hmain => exact h.same event rfl rfl rfl (by rw [hmain]; rfl) rfl rfl rfl id
  | fill bank hmain => exact h.same event rfl rfl rfl (by rw [hmain]; rfl) rfl rfl rfl id
  | exchangeNew bank hmain => exact h.same event rfl rfl rfl (by rw [hmain]; rfl) rfl rfl rfl id
  | exchangeOld bank old hmain => exact h.same event rfl rfl rfl (by rw [hmain]; rfl) rfl rfl rfl id
  | freeInput bank old hmain => exact h.same event rfl rfl rfl (by rw [hmain]; rfl) rfl rfl rfl id
  | beginAcquire hmain => exact h.same event rfl rfl rfl (by rw [hmain]; rfl) rfl rfl rfl id
  | acquireNone hmain => exact h.same event rfl rfl rfl (by rw [hmain]; rfl) rfl rfl rfl id
  | acquireTake bank hmain hready =>
    have hflying : flying { s with readyOutput := none, main := .acquired bank } = s.flying := by
      simp [flying, hmain, hready, Main.outputBanks]
    apply h.drop event rfl rfl
    . exact fun _ => rfl
    . rw [hflying]
    . exact fun hlive => ⟨hflying, hlive⟩
    . exact fun _ hmem => hmem
  | lease bank hmain => exact h.lease event hmain
  | release bank hmain hmem =>
    apply h.drop event rfl rfl
    . intro other
      simp only [setOutput]
      by_cases heq : other = bank
      . rw [heq, Function.update_self]
      . rw [Function.update_of_ne heq]
    . exact List.prefix_refl _
    . exact fun hlive => ⟨rfl, hlive⟩
    . exact fun _ hmem => List.mem_of_mem_filter hmem
  | stop hmain => exact h.same event rfl rfl rfl (by rw [hmain]; rfl) rfl rfl rfl live_stopping
  | joinRestore hmain => exact h.same event rfl rfl rfl (by rw [hmain]; rfl) rfl rfl rfl id
  | joinRetire hmain hexited => exact h.retire event hexited
  | restoreHand index frame hmain =>
    exact h.same event rfl rfl rfl (by rw [hmain]; rfl) rfl rfl rfl id
  | restoreSkip index frame hmain =>
    exact h.same event rfl rfl rfl (by rw [hmain]; rfl) rfl rfl rfl id
  | restoreDone index hmain => exact h.retire event (hjoined.exited index hmain)
  | move pc initialBatch hmoves =>
    cases hmoves.finished with
    | inl hfinished => exact h.same event rfl rfl rfl rfl rfl hfinished rfl hmoves.live
    | inr hfinished =>
      apply h.drop event rfl rfl
      . exact fun _ => rfl
      . simp only [flying, moveTo, hfinished.1, List.append_nil]
        exact List.prefix_append _ _
      . exact fun hlive => absurd hlive hfinished.2
      . exact fun _ hmem => hmem
  | takeQueued bank hpc =>
    exact h.same event rfl rfl rfl rfl rfl (by rw [hpc]; rfl) rfl (fun _ => by simp [hpc, Coordinator.Live])
  | beginReading bank hpc =>
    exact h.same event rfl rfl rfl rfl rfl (by rw [hpc]; rfl) rfl (fun _ => by simp [hpc, Coordinator.Live])
  | deliverHand bank index frame hpc =>
    exact h.same event rfl rfl rfl rfl rfl (by rw [hpc]; rfl) rfl (fun _ => by simp [hpc, Coordinator.Live])
  | deliverDone bank index hpc =>
    exact h.same event rfl rfl rfl rfl rfl (by rw [hpc]; rfl) rfl (fun _ => by simp [hpc, Coordinator.Live])
  | claimTake bank hpc hstatus =>
    apply h.drop event rfl rfl
    . intro other
      simp only [moveTo, setOutput]
      by_cases heq : other = bank
      . rw [heq, Function.update_self]
      . rw [Function.update_of_ne heq]
    . simp [flying, moveTo, setOutput, hpc, Coordinator.finished]
    . intro _
      simp [flying, moveTo, setOutput, hpc, Coordinator.finished, Coordinator.Live]
    . exact fun _ hmem => hmem
  | completeFail bank hpc =>
    exact h.same event rfl rfl rfl rfl rfl (by rw [hpc]; rfl) rfl (fun _ => by simp [hpc, Coordinator.Live])
  | complete bank c content hpc => exact h.produce hheld event hpc
  | publish bank hpc hready =>
    have hflying : flying { s.moveTo .loop with readyOutput := some bank } = s.flying := by
      simp [flying, moveTo, hpc, hready, Coordinator.finished]
    apply h.drop event rfl rfl
    . exact fun _ => rfl
    . rw [hflying]
    . intro _
      exact ⟨hflying, by simp [hpc, Coordinator.Live]⟩
    . exact fun _ hmem => hmem

end State

open State in
theorem streams_run (core : Core γ σ) (c : γ) (events : List Event)
    : Streams ((machine core c).trace (machine core c).init events)
        ((machine core c).run (machine core c).init events) := by
  have h := Machine.trace_induction (machine core c)
    (fun past s => Streams past s ∧ s.OutputsHeld ∧ s.Joined) ?_ ?_ events
  . exact h.1
  . refine ⟨⟨?_, ?_, ?_⟩, outputsHeld_init core c, joined_init core c⟩
    . simp [acquired, produced, inFlight, flying, machine, init, Main.outputBanks,
        Coordinator.finished]
    . simp [acquired, produced, inFlight, flying, machine, init, Main.outputBanks,
        Coordinator.finished]
    . simp [machine, init]
  . intro past s event h
    obtain ⟨hstreams, hheld, hjoined⟩ := h
    have hstep := step_cases core s event
    exact ⟨hstreams.step hheld hjoined event hstep, hheld.step hstep, hjoined.step hstep⟩

end AsyncPipeline
end Peraviz.Presentation

/-! ### Views -/

namespace Peraviz.Presentation
namespace AsyncPipeline

variable {γ σ β : Type} {core : Core γ σ}

/-- `apply` turns the view in front of a completion into the view behind it. -/
structure Told (core : Core γ σ) (view : γ → β) (apply : β → σ → β) : Prop where
  submit : ∀ c universeId data, view (core.submitUniverseFrame c universeId data) = view c
  consume : ∀ c c' content, core.consume c = some (c', content) → view c' = apply (view c) content

/-- The view of one who reads the snapshots in their order. -/
def read (apply : β → σ → β) (shown : β) (snapshots : List (Snapshot σ)) : β :=
  snapshots.foldl (fun shown snapshot => apply shown snapshot.content) shown

theorem read_append (apply : β → σ → β) (shown : β) (front back : List (Snapshot σ))
    : read apply shown (front ++ back) = read apply (read apply shown front) back := by
  simp [read]

theorem produced_append (front back : List (Event × Output σ))
    : produced (front ++ back) = produced front ++ produced back := by
  simp [produced]

namespace State

variable {view : γ → β} {apply : β → σ → β} {s s' : State γ σ} {out : Output σ}

theorem Told.step (h : Told core view apply) (event : Event) (hstep : Step core s s' out)
    : view s'.core = read apply (view s.core) (produced [(event, out)]) := by
  cases hstep with
  | quiet _ hout =>
    obtain rfl | rfl | rfl := hout
    . rfl
    . rfl
    . rfl
  | restoreHand index frame => exact h.submit _ _ _
  | deliverHand bank index frame => exact h.submit _ _ _
  | complete bank c content hpc hconsume => exact h.consume _ _ _ hconsume
  | _ => rfl

end State

theorem run_told {view : γ → β} {apply : β → σ → β} (h : Told core view apply) (c : γ)
    (events : List Event)
    : view ((machine core c).run (machine core c).init events).core
        = read apply (view c) (produced ((machine core c).trace (machine core c).init events)) := by
  apply Machine.trace_induction (machine core c)
    (fun past s => view s.core = read apply (view c) (produced past))
  . rfl
  . intro past s event ih
    rw [produced_append, read_append, ← ih]
    exact State.Told.step h event (State.step_cases core s event)

theorem exists_run_produced (c : γ) {events : List Event} {snapshots : List (Snapshot σ)}
    (h : snapshots <+: produced ((machine core c).trace (machine core c).init events))
    : ∃ front, front <+: events
        ∧ produced ((machine core c).trace (machine core c).init front) = snapshots := by
  induction events using List.reverseRecOn with
  | nil => exact ⟨[], List.prefix_refl _, (List.prefix_nil.mp h).symm⟩
  | append_singleton past event ih =>
    by_cases hall : snapshots
        = produced ((machine core c).trace (machine core c).init (past ++ [event]))
    . exact ⟨past ++ [event], List.prefix_refl _, hall.symm⟩
    . have hpast : snapshots <+: produced ((machine core c).trace (machine core c).init past) := by
        rw [Machine.trace_append, produced_append] at h hall
        cases hlast : produced ((machine core c).trace
            ((machine core c).run (machine core c).init past) [event]) with
        | nil =>
          rw [hlast, List.append_nil] at h
          exact h
        | cons snapshot rest =>
          have hrest : rest = [] := by
            have hlength : (produced ((machine core c).trace
                ((machine core c).run (machine core c).init past) [event])).length ≤ 1 :=
              List.length_filterMap_le _ _
            rw [hlast] at hlength
            exact List.length_eq_zero_iff.mp (by simpa using hlength)
          rw [hlast, hrest] at h hall
          cases List.prefix_concat_iff.mp h with
          | inl heq => exact absurd heq hall
          | inr hprefix => exact hprefix
      obtain ⟨front, hfront, hproduced⟩ := ih hpast
      exact ⟨front, hfront.trans (List.prefix_append _ _), hproduced⟩

theorem acquired_prefix_produced (c : γ) (events : List Event)
    : acquired ((machine core c).trace (machine core c).init events)
        <+: produced ((machine core c).trace (machine core c).init events) := by
  have hstreams := (List.prefix_append _ _).trans (streams_run core c events).isPrefix
  exact (List.prefix_map_iff_of_injective (Option.some_injective _)).mp hstreams

-- One who has read the acquired snapshots has the view of the core at the moment when the last of
-- them was completed, and there is such a moment.
theorem run_read {view : γ → β} {apply : β → σ → β} (h : Told core view apply) (c : γ)
    (events : List Event)
    : let M := machine core c
      let seen := acquired (M.trace M.init events)
      (∃ front, front <+: events ∧ produced (M.trace M.init front) = seen)
        ∧ ∀ front, produced (M.trace M.init front) = seen
          → read apply (view c) seen = view (M.run M.init front).core := by
  intro M seen
  refine ⟨exists_run_produced c (acquired_prefix_produced c events), ?_⟩
  intro front hfront
  rw [run_told h c front, hfront]

end AsyncPipeline
end Peraviz.Presentation
