import Peraviz.Runtime.Plan.Lemmas

/-!
This module contains the correctness of the schedule of a compiled plan, over every run of the
operations on it: an update visits the consumers that depend on a changed byte and no others, and
no activation of an earlier update is taken for one of this update.
-/

namespace Peraviz.Runtime

namespace CompiledEvaluationPlan

variable {programs : List CompiledDmxSourceProgram} {requests : List ConsumerRequest}
  {plan : CompiledEvaluationPlan}

/-- A plan in playback: the tables are those that were compiled, no stamp is ahead. -/
structure Playing (programs : List CompiledDmxSourceProgram) (requests : List ConsumerRequest)
    (plan : CompiledEvaluationPlan) : Prop where
  offsets : plan.offsets = offsetEntries programs
  consumers : plan.consumers = requests
  consumersOf : ∀ m < programs.length,
    plan.consumersOf m = (EvaluationPlan.ofRequests programs requests).consumersOf m
  slotInjective : ∀ a b slot, plan.activationSlot a = some slot →
    plan.activationSlot b = some slot → a = b
  stamped : plan.workspace.Stamped

theorem Building.finishInstall (h : Building programs requests plan)
    : Playing programs requests plan.finishInstall := by
  have hget (x : Nat) : plan.finishInstall.sources[x]? = plan.sources[x]?.map (fun node =>
      { node with consumers := sortUnique (plan.buildingConsumers x) }) := by
    simp [CompiledEvaluationPlan.finishInstall, List.getElem?_zipIdx]
    rfl
  have hslot (x : Nat) : plan.finishInstall.activationSlot x = plan.activationSlot x := by
    unfold activationSlot
    rw [hget x]
    cases plan.sources[x]? <;> rfl
  constructor
  case offsets => exact h.shaped.offsets
  case consumers => exact h.consumers
  case consumersOf =>
    intro m hm
    have hm' : m < plan.sources.length := by
      rw [h.shaped.length]
      exact hm
    unfold CompiledEvaluationPlan.consumersOf
    rw [hget m, List.getElem?_eq_getElem hm']
    apply List.Pairwise.eq_of_mem_iff (sortUnique_ascending _) (filter_range_ascending _ _)
    intro c
    rw [mem_sortUnique, h.building]
    exact (mem_consumersOf hm).symm
  case slotInjective =>
    intro a b slot ha hb
    rw [hslot] at ha hb
    exact h.shaped.slotInjective a b slot ha hb
  case stamped =>
    change plan.workspace.Stamped
    rw [h.shaped.workspace]
    exact EvaluationWorkspace.Stamped.initial

theorem exists_compile (programs : List CompiledDmxSourceProgram)
    (requests : List ConsumerRequest) {fuel : Nat} (hfuel : programs.length ≤ fuel)
    : ∃ plan diagnostics, compile fuel programs requests = some (plan, diagnostics)
      ∧ Playing programs requests plan := by
  obtain ⟨diagnostics, hinstall⟩ := exists_install hfuel
  obtain ⟨plan, hplan, hbuilding⟩ := (building_installed programs).addConsumers hfuel
  exact ⟨plan.finishInstall, diagnostics, by simp [compile, hinstall, hplan],
    Building.finishInstall hbuilding⟩

-- The begin of an update on the tables is that of the plan that they stand for.
theorem Playing.beginUpdate_workspace (h : Playing programs requests plan) (offsets : List Int32)
    : (plan.beginUpdate offsets).workspace
        = plan.workspace.beginUpdate (EvaluationPlan.ofRequests programs requests) offsets := by
  unfold CompiledEvaluationPlan.beginUpdate EvaluationWorkspace.beginUpdate
  rw [funext (sourcesAt_offsetEntries programs requests h.offsets)]
  apply List.foldl_ext
  intro w source hsource
  obtain ⟨offset, _, hmem⟩ := List.mem_flatMap.mp hsource
  have hlt : source < programs.length := by
    unfold EvaluationPlan.sourcesAt at hmem
    split at hmem
    . exact List.mem_range.mp (List.mem_filter.mp hmem).1
    . cases hmem
  unfold CompiledEvaluationPlan.markSource EvaluationWorkspace.markSource
  rw [h.consumersOf source hlt]

theorem Playing.beginUpdate (h : Playing programs requests plan) (offsets : List Int32)
    : Playing programs requests (plan.beginUpdate offsets) := by
  refine ⟨h.offsets, h.consumers, h.consumersOf, h.slotInjective, ?_⟩
  rw [h.beginUpdate_workspace]
  exact (h.stamped.beginUpdate _ _).stamped

theorem Playing.step (h : Playing programs requests plan) (operation : Operation)
    : Playing programs requests (plan.step operation).1 := by
  cases operation with
  | beginUpdate offsets => exact h.beginUpdate offsets
  | store source value =>
    exact ⟨h.offsets, h.consumers, h.consumersOf, h.slotInjective, h.stamped.store source value⟩
  | storeActivation source active =>
    simp only [CompiledEvaluationPlan.step, CompiledEvaluationPlan.storeActivation]
    split
    . exact h
    . next slot hslot =>
      exact ⟨h.offsets, h.consumers, h.consumersOf, h.slotInjective,
        h.stamped.storeActivation slot active⟩

theorem Playing.run (h : Playing programs requests plan) (operations : List Operation)
    : Playing programs requests (plan.machine.run plan operations) :=
  plan.machine.run_induction (Playing programs requests) (fun _ operation hs => hs.step operation) h
    operations

/-- Whether a source has a byte at a changed offset. -/
def Touched (programs : List CompiledDmxSourceProgram) (offsets : List Int32) (m : Nat) : Prop :=
  ∃ program, programs[m]? = some program ∧ ∃ byte ∈ program.sources,
    byte.address ∈ offsets ∧ 0 ≤ byte.address ∧ byte.address < 512

theorem exists_mem_sourcesAt {offsets : List Int32} {m : Nat}
    : (∃ offset ∈ offsets, m ∈ (EvaluationPlan.ofRequests programs requests).sourcesAt offset) ↔
      Touched programs offsets m := by
  unfold EvaluationPlan.sourcesAt Touched
  constructor
  . rintro ⟨offset, hoffset, hmem⟩
    split at hmem
    . next hin =>
      obtain ⟨hlt, hreads⟩ := List.mem_filter.mp hmem
      have hm : m < programs.length := List.mem_range.mp hlt
      obtain ⟨byte, hbyte, haddress⟩ := List.any_eq_true.mp hreads
      rw [beq_iff_eq] at haddress
      simp only [EvaluationPlan.program, EvaluationPlan.ofRequests, List.getD_eq_getElem?_getD,
        List.getElem?_eq_getElem hm, Option.getD_some] at hbyte
      refine ⟨programs[m], List.getElem?_eq_getElem hm, byte, hbyte, ?_⟩
      rw [haddress]
      exact ⟨hoffset, hin⟩
    . cases hmem
  . rintro ⟨program, hprogram, byte, hbyte, hoffset, hin⟩
    refine ⟨byte.address, hoffset, ?_⟩
    rw [if_pos hin, List.mem_filter]
    refine ⟨List.mem_range.mpr (List.getElem?_eq_some_iff.mp hprogram).1, ?_⟩
    simp only [EvaluationPlan.program, EvaluationPlan.ofRequests, List.getD_eq_getElem?_getD,
      hprogram, Option.getD_some, EvaluationPlan.readsOffset, List.any_eq_true, beq_iff_eq]
    exact ⟨byte, hbyte, rfl⟩

/-- What an update that begins with changed bytes visits. -/
structure Schedules (programs : List CompiledDmxSourceProgram) (requests : List ConsumerRequest)
    (offsets : List Int32) (plan : CompiledEvaluationPlan) : Prop where
  consumers : plan.consumers = requests
  dirty : ∀ c, c ∈ plan.dirtyConsumers ↔ ∃ request, requests[c]? = some request
    ∧ ∃ m, DependsOn programs request m ∧ Touched programs offsets m
  ascending : plan.dirtyConsumers.Pairwise (fun a b => a < b)

theorem Playing.schedules (h : Playing programs requests plan) (offsets : List Int32)
    : Schedules programs requests offsets (plan.beginUpdate offsets) := by
  have hbegun := h.stamped.beginUpdate (EvaluationPlan.ofRequests programs requests) offsets
  rw [← h.beginUpdate_workspace] at hbegun
  constructor
  case consumers => exact h.consumers
  case ascending => exact OrderedDirtyIndices.visit_ascending hbegun.nodup
  case dirty =>
    intro c
    unfold dirtyConsumers
    rw [OrderedDirtyIndices.mem_visit, hbegun.consumers]
    simp only [hbegun.changed, exists_mem_sourcesAt]
    constructor
    . intro ⟨m, htouched, hmem⟩
      obtain ⟨program, hprogram, _⟩ := id htouched
      obtain ⟨request, hrequest, hdepends⟩ :=
        (mem_consumersOf (List.getElem?_eq_some_iff.mp hprogram).1).mp hmem
      exact ⟨request, hrequest, m, hdepends, htouched⟩
    . intro ⟨request, hrequest, m, hdepends, htouched⟩
      obtain ⟨program, hprogram, _⟩ := id htouched
      refine ⟨m, htouched, ?_⟩
      rw [mem_consumersOf (List.getElem?_eq_some_iff.mp hprogram).1]
      exact ⟨request, hrequest, hdepends⟩

/-- Whether an operation stores the activation of a source. -/
def Operation.storesActivation (source : Nat) : Operation → Prop
  | .storeActivation other _ => other = source
  | _ => False

theorem Playing.activationCached_beginUpdate (h : Playing programs requests plan)
    (offsets : List Int32) (source : Nat)
    : (plan.beginUpdate offsets).activationCached source = false := by
  have hbegun := h.stamped.beginUpdate (EvaluationPlan.ofRequests programs requests) offsets
  rw [← h.beginUpdate_workspace] at hbegun
  unfold activationCached
  cases (plan.beginUpdate offsets).activationSlot source with
  | none => rfl
  | some slot => exact hbegun.activationCached slot

theorem Playing.activationCached_step (h : Playing programs requests plan) {source : Nat}
    {operation : Operation} (hcached : plan.activationCached source = false)
    (hother : ¬ operation.storesActivation source)
    : (plan.step operation).1.activationCached source = false := by
  cases operation with
  | beginUpdate offsets => exact h.activationCached_beginUpdate offsets source
  | store x value => exact hcached
  | storeActivation x active =>
    simp only [CompiledEvaluationPlan.step, CompiledEvaluationPlan.storeActivation]
    split
    . exact hcached
    . next slot hslot =>
      unfold activationCached at hcached ⊢
      change (plan.activationSlot source).any _ = false
      cases hown : plan.activationSlot source with
      | none => rfl
      | some own =>
        have hne : own ≠ slot := by
          intro heq
          apply hother
          exact h.slotInjective x source slot hslot (heq ▸ hown)
        rw [hown] at hcached
        simpa [EvaluationWorkspace.activationCached, EvaluationWorkspace.storeActivation,
          Function.update_apply, hne] using hcached

theorem Playing.activationCached_run (h : Playing programs requests plan) {source : Nat}
    {operations : List Operation} (hcached : plan.activationCached source = false)
    (hother : ∀ operation ∈ operations, ¬ operation.storesActivation source)
    : (plan.machine.run plan operations).activationCached source = false := by
  induction operations generalizing plan with
  | nil => exact hcached
  | cons operation operations ih =>
    have hfirst := h.activationCached_step hcached (hother operation List.mem_cons_self)
    exact ih (h.step operation) hfirst (fun o ho => hother o (List.mem_cons_of_mem _ ho))

/--
The construction ends on every graph of masters. In every run of the plan that it builds, an update
visits exactly what depends on a changed byte, each consumer once and in ascending order, and a
source whose activation was not stored since an update began is not taken for active from before.
-/
theorem compile_schedules (programs : List CompiledDmxSourceProgram)
    (requests : List ConsumerRequest) (spare : Nat)
    : ∃ plan diagnostics, compile (programs.length + spare) programs requests
          = some (plan, diagnostics)
        ∧ ∀ past offsets,
          Schedules programs requests offsets ((plan.machine.run plan past).beginUpdate offsets)
          ∧ ∀ since source, (∀ operation ∈ since, ¬ Operation.storesActivation source operation) →
            (plan.machine.run plan (past ++ [.beginUpdate offsets] ++ since)).activationCached source
              = false := by
  obtain ⟨plan, diagnostics, hcompile, hplaying⟩ :=
    exists_compile programs requests (Nat.le_add_right programs.length spare)
  refine ⟨plan, diagnostics, hcompile, ?_⟩
  intro past offsets
  have hpast := hplaying.run past
  refine ⟨hpast.schedules offsets, ?_⟩
  intro since source hsince
  rw [Machine.run_append, Machine.run_concat]
  exact (hpast.beginUpdate offsets).activationCached_run
    (hpast.activationCached_beginUpdate offsets source) hsince

end CompiledEvaluationPlan

theorem map_layerRequests (planPrograms : List CompiledDmxSourceProgram)
    (domain : EvaluationDomain) (keys : List Int) (layers : Int → List Nat)
    (contexts : List GoboEvaluationContext)
    : (layerRequests domain keys layers contexts).map (ConsumerRequest.consumer planPrograms)
        = layerConsumers planPrograms domain keys layers contexts := by
  simp [layerRequests, layerConsumers, ConsumerRequest.consumer, List.flatMap_map]

end Peraviz.Runtime
