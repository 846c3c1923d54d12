import Peraviz.Runtime.Prefetch.Colors
import Peraviz.Runtime.WorkerPool.Coverage

/-!
This module contains the slots that the workers fill. Whatever calls the pool has made of a batch,
each slot that is of the generation of a consume is what its job evaluates, and no slot of an earlier
consume is.
-/

namespace Peraviz.Runtime

theorem stamp_lt_next {stamp generation : UInt64} (h : stamp ≤ generation)
    (hwrap : generation + 1 ≠ 0) : stamp < generation + 1 := by
  have hlt := generation.toNat_lt
  have hnext : (generation + 1).toNat = (generation.toNat + 1) % 2 ^ 64 := UInt64.toNat_add _ _
  have hzero : (generation + 1).toNat ≠ 0 := by
    intro heq
    apply hwrap
    exact UInt64.toNat_inj.mp heq
  rw [UInt64.lt_iff_toNat_lt]
  rw [UInt64.le_iff_toNat_le] at h
  omega

/-! ### The jobs -/

section Jobs

variable {us : List Universe}

theorem mem_sourceJobs {job : PrefetchJob}
    : job ∈ ParallelEvaluationPrefetch.sourceJobs us
        ↔ job.owner ∈ us ∧ job.owner.state.hasPendingFrame = true
          ∧ job.index ∈ job.owner.state.workspace.changedSources
          ∧ job.owner.layout.plan.consumersOf job.index ≠ [] := by
  obtain ⟨owner, index⟩ := job
  simp only [ParallelEvaluationPrefetch.sourceJobs, List.mem_flatMap, List.mem_map, List.mem_filter,
    PrefetchJob.mk.injEq, Bool.not_eq_true', List.isEmpty_eq_false_iff]
  constructor
  . rintro ⟨u, ⟨hu, hpending⟩, source, ⟨hsource, hconsumers⟩, rfl, rfl⟩
    exact ⟨hu, hpending, hsource, hconsumers⟩
  . rintro ⟨hu, hpending, hsource, hconsumers⟩
    exact ⟨owner, ⟨hu, hpending⟩, index, ⟨hsource, hconsumers⟩, rfl, rfl⟩

/-- The color targets that an update of a universe visits. -/
def Universe.dirtyColors (u : Universe) : List Nat :=
  indicesIn .color (u.state.workspace.consumers.visit.map u.layout.plan.consumer)

theorem mem_colorJobs {job : PrefetchJob}
    : job ∈ ParallelEvaluationPrefetch.colorJobs us
        ↔ job.owner ∈ us ∧ job.owner.state.hasPendingFrame = true
          ∧ job.index ∈ job.owner.dirtyColors := by
  obtain ⟨owner, index⟩ := job
  simp only [ParallelEvaluationPrefetch.colorJobs, List.mem_flatMap, List.mem_map, List.mem_filter,
    PrefetchJob.mk.injEq]
  constructor
  . rintro ⟨u, ⟨hu, hpending⟩, target, htarget, rfl, rfl⟩
    exact ⟨hu, hpending, htarget⟩
  . rintro ⟨hu, hpending, htarget⟩
    exact ⟨owner, ⟨hu, hpending⟩, index, htarget, rfl, rfl⟩

/-- Every universe has an identifier of its own. -/
def DistinctIds (us : List Universe) : Prop := (us.map (fun u => u.layout.universeId)).Nodup

theorem DistinctIds.eq (h : DistinctIds us) {u v : Universe} (hu : u ∈ us) (hv : v ∈ us)
    (heq : u.layout.universeId = v.layout.universeId) : u = v :=
  List.inj_on_of_nodup_map h hu hv heq

theorem DistinctIds.eq_of_key (h : DistinctIds us) {job other : PrefetchJob}
    (hjob : job.owner ∈ us) (hother : other.owner ∈ us) (hkey : other.key = job.key)
    : other = job := by
  obtain ⟨owner, index⟩ := job
  obtain ⟨owner', index'⟩ := other
  obtain ⟨hid, hindex⟩ := Prod.mk.injEq _ _ _ _ ▸ hkey
  have howner : owner' = owner := h.eq hother hjob hid
  rw [howner]
  exact congrArg _ hindex

theorem mem_jobsOf {calls : List NativeWorkerPool.FunctionCall} {jobs : List PrefetchJob}
    {job : PrefetchJob} (h : job ∈ ParallelEvaluationPrefetch.jobsOf calls jobs) : job ∈ jobs := by
  obtain ⟨call, _, hcall⟩ := List.mem_flatMap.mp h
  exact List.mem_of_mem_take (List.mem_of_mem_drop hcall)

/-- The calls of a batch: a pass that is committed, behind those of a pass that has failed. -/
def Answered (count : Nat) (calls : List NativeWorkerPool.FunctionCall) : Prop :=
  ∃ abandoned pass, calls = abandoned ++ pass ∧ NativeWorkerPool.Covers count pass

theorem Answered.mem_jobsOf {calls : List NativeWorkerPool.FunctionCall} {jobs : List PrefetchJob}
    (h : Answered jobs.length calls) {job : PrefetchJob} (hjob : job ∈ jobs)
    : job ∈ ParallelEvaluationPrefetch.jobsOf calls jobs := by
  obtain ⟨abandoned, pass, rfl, hpass⟩ := h
  obtain ⟨i, hi, rfl⟩ := List.mem_iff_getElem.mp hjob
  have hcount := hpass.2 i
  rw [if_pos hi] at hcount
  obtain ⟨call, hcall, hrange⟩ := List.countP_pos_iff.mp (by rw [hcount]; exact Nat.one_pos)
  rw [decide_eq_true_eq] at hrange
  refine List.mem_flatMap.mpr ⟨call, List.mem_append_right _ hcall, ?_⟩
  apply List.mem_iff_getElem?.mpr
  refine ⟨i - call.first, ?_⟩
  rw [List.getElem?_drop, List.getElem?_take, Nat.add_sub_cancel' hrange.1, if_pos hrange.2,
    List.getElem?_eq_getElem hi]

/-- The pool has answered both batches of a consume. -/
def WorkerCalls.Complete (calls : WorkerCalls) (us : List Universe) : Prop :=
  Answered (ParallelEvaluationPrefetch.sourceJobs us).length calls.sources
    ∧ Answered (ParallelEvaluationPrefetch.colorJobs us).length calls.colors

end Jobs

namespace ParallelEvaluationPrefetch

variable {p : Platform}

/-! ### Generations -/

/-- No slot is ahead of the generation that it was stamped with. -/
structure Stamped (prefetch : ParallelEvaluationPrefetch) : Prop where
  sources : ∀ key, (prefetch.sourceSlots key).generation ≤ prefetch.generation
  colors : ∀ key, (prefetch.colorSlots key).generation ≤ prefetch.generation

/-- No slot is of the current generation yet. -/
structure Behind (prefetch : ParallelEvaluationPrefetch) : Prop where
  sources : ∀ key, (prefetch.sourceSlots key).generation < prefetch.generation
  colors : ∀ key, (prefetch.colorSlots key).generation < prefetch.generation

theorem Behind.stamped {prefetch : ParallelEvaluationPrefetch} (h : prefetch.Behind)
    : prefetch.Stamped :=
  ⟨fun key => UInt64.le_of_lt (h.sources key), fun key => UInt64.le_of_lt (h.colors key)⟩

theorem Stamped.nextGeneration {prefetch : ParallelEvaluationPrefetch} (h : prefetch.Stamped)
    : prefetch.nextGeneration.Behind := by
  unfold ParallelEvaluationPrefetch.nextGeneration
  split
  . constructor
    . intro key
      change (0 : UInt64) < 1
      decide
    . intro key
      change (0 : UInt64) < 1
      decide
  . next hwrap =>
    constructor
    . intro key
      exact stamp_lt_next (h.sources key) hwrap
    . intro key
      exact stamp_lt_next (h.colors key) hwrap

theorem noWheels_nextGeneration (prefetch : ParallelEvaluationPrefetch) (key : Int32 × Nat)
    : (prefetch.nextGeneration.colorSlots key).noWheels = (prefetch.colorSlots key).noWheels := by
  unfold ParallelEvaluationPrefetch.nextGeneration
  split
  . rfl
  . rfl

/-! ### Sources -/

variable {core : Core} {calls : WorkerCalls} {prefetch : ParallelEvaluationPrefetch}

/-- The value of a source on the frame of its universe. -/
def sourceContext (p : Platform) (u : Universe) : SourceContext :=
  ⟨p, u.state.latestFrame, u.layout.plan⟩

theorem sourceSlot_of_job (hids : DistinctIds core.universes) {job : PrefetchJob}
    (hjob : job ∈ jobsOf calls.sources (sourceJobs core.universes))
    : (prefetch.runWorkers p core calls).sourceSlots job.key
        = evaluateSource p prefetch.generation job (prefetch.sourceSlots job.key) := by
  unfold runWorkers
  apply KeyedLog.revise_of_mem hjob
  . intro other hother hkey
    exact hids.eq_of_key (mem_sourceJobs.mp (mem_jobsOf hjob)).1
      (mem_sourceJobs.mp (mem_jobsOf hother)).1 hkey
  . intro slot
    rfl

-- A slot of this generation has the value of its source, whoever reads it.
theorem sourceSlot_of_current (hbehind : prefetch.Behind) (hids : DistinctIds core.universes)
    {u : Universe} (hu : u ∈ core.universes) {source : Nat}
    (hcurrent : ((prefetch.runWorkers p core calls).sourceSlots
      (u.layout.universeId, source)).generation = prefetch.generation)
    : ((prefetch.runWorkers p core calls).sourceSlots (u.layout.universeId, source)).value
          = (sourceContext p u).value source
        ∧ source ∈ u.state.workspace.changedSources := by
  by_cases hjob : ∃ job ∈ jobsOf calls.sources (sourceJobs core.universes),
      job.key = (u.layout.universeId, source)
  . obtain ⟨job, hmem, hkey⟩ := hjob
    obtain ⟨howner, -, hchanged, -⟩ := mem_sourceJobs.mp (mem_jobsOf hmem)
    have hsame : (⟨u, source⟩ : PrefetchJob) = job := hids.eq_of_key howner hu hkey.symm
    rw [← hkey, sourceSlot_of_job hids hmem]
    rw [← hsame] at hchanged ⊢
    exact ⟨rfl, hchanged⟩
  . have hold : (prefetch.runWorkers p core calls).sourceSlots (u.layout.universeId, source)
        = prefetch.sourceSlots (u.layout.universeId, source) := by
      unfold runWorkers
      apply KeyedLog.revise_of_forall_ne
      intro job hmem hkey
      exact hjob ⟨job, hmem, hkey⟩
    rw [hold] at hcurrent
    exact absurd hcurrent (UInt64.ne_of_lt (hbehind.sources _))

theorem sourceSlot_of_changed (hids : DistinctIds core.universes)
    (hcomplete : calls.Complete core.universes) {u : Universe} (hu : u ∈ core.universes)
    (hpending : u.state.hasPendingFrame = true) {source : Nat}
    (hchanged : source ∈ u.state.workspace.changedSources)
    (hconsumers : u.layout.plan.consumersOf source ≠ [])
    : ((prefetch.runWorkers p core calls).sourceSlots (u.layout.universeId, source)).generation
        = prefetch.generation := by
  have hjob : ⟨u, source⟩ ∈ jobsOf calls.sources (sourceJobs core.universes) := by
    apply hcomplete.1.mem_jobsOf
    exact mem_sourceJobs.mpr ⟨hu, hpending, hchanged, hconsumers⟩
  exact congrArg SourceSlot.generation (sourceSlot_of_job hids hjob)

/-! ### Colors -/

/-- The slots as a worker finds them that evaluates a color. -/
def evaluatedSources (p : Platform) (core : Core) (calls : WorkerCalls)
    (prefetch : ParallelEvaluationPrefetch) : ParallelEvaluationPrefetch :=
  { prefetch with
    sourceSlots := KeyedLog.revise PrefetchJob.key (evaluateSource p prefetch.generation)
      prefetch.sourceSlots (jobsOf calls.sources (sourceJobs core.universes)) }

theorem evaluateColor_evaluateColor (job : PrefetchJob) (slot : ColorSlot)
    : evaluateColor p core prefetch job (evaluateColor p core prefetch job slot)
        = evaluateColor p core prefetch job slot := by
  unfold evaluateColor
  cases job.owner.layout.colors.targets[job.index]? with
  | none => rfl
  | some target =>
    dsimp only
    generalize target.inputs.zipIdx.map _ = values
    generalize (List.range target.inputs.length).any _ = changed
    have hvalues (i : Nat) : values[i]?.getD (values[i]?.getD (slot.values i))
        = values[i]?.getD (slot.values i) := by
      cases values[i]? with
      | none => rfl
      | some value => rfl
    cases changed with
    | false => simp [hvalues]
    | true =>
      cases hwheels : slot.noWheels with
      | false => simp [hvalues]
      | true => simp [hvalues]

theorem colorSlot_of_job (hids : DistinctIds core.universes) {job : PrefetchJob}
    (hjob : job ∈ jobsOf calls.colors (colorJobs core.universes))
    : (prefetch.runWorkers p core calls).colorSlots job.key
        = evaluateColor p core (evaluatedSources p core calls prefetch) job
          (prefetch.colorSlots job.key) := by
  unfold runWorkers
  apply KeyedLog.revise_of_mem hjob
  . intro other hother hkey
    exact hids.eq_of_key (mem_colorJobs.mp (mem_jobsOf hjob)).1
      (mem_colorJobs.mp (mem_jobsOf hother)).1 hkey
  . apply evaluateColor_evaluateColor

theorem colorSlot_of_not_dirty (hbehind : prefetch.Behind) (hids : DistinctIds core.universes)
    {u : Universe} (hu : u ∈ core.universes) {index : Nat} (hindex : index ∉ u.dirtyColors)
    : ((prefetch.runWorkers p core calls).colorSlots (u.layout.universeId, index)).generation
        ≠ prefetch.generation := by
  have hold : (prefetch.runWorkers p core calls).colorSlots (u.layout.universeId, index)
      = prefetch.colorSlots (u.layout.universeId, index) := by
    unfold runWorkers
    apply KeyedLog.revise_of_forall_ne
    intro job hmem hkey
    obtain ⟨howner, -, hdirty⟩ := mem_colorJobs.mp (mem_jobsOf hmem)
    have hsame : (⟨u, index⟩ : PrefetchJob) = job := hids.eq_of_key howner hu hkey.symm
    rw [← hsame] at hdirty
    exact hindex hdirty
  rw [hold]
  exact UInt64.ne_of_lt (hbehind.colors _)

/-- An input that has no value yet is one whose source the update has marked. -/
def ReadyInputs (marks : Nat → Bool) (row : Nat → ColorInputState) (target : ColorTargetRuntime)
    : Prop :=
  ∀ entry ∈ target.inputs.zipIdx, (row entry.2).initialized = true ∨ marks entry.1.source = true

-- The worker reads the slots of the sources, the coordinator their marks.
theorem preparedInput_eq {marks : Nat → Bool} (hbehind : prefetch.Behind)
    (hids : DistinctIds core.universes) (hcomplete : calls.Complete core.universes) {u : Universe}
    (hu : u ∈ core.universes) (hpending : u.state.hasPendingFrame = true)
    (hmarks : ∀ source, source ∈ u.state.workspace.changedSources ↔ marks source = true)
    {input : ColorInputRuntime} (hconsumers : u.layout.plan.consumersOf input.source ≠ [])
    {state : ColorInputState} (hready : state.initialized = true ∨ marks input.source = true)
    : preparedInput (evaluatedSources p core calls prefetch) u.layout.universeId state input
        = ((sourceContext p u).nextInput marks state input).value := by
  have hcurrent : ((prefetch.runWorkers p core calls).sourceSlots
      (u.layout.universeId, input.source)).generation = prefetch.generation
      ↔ marks input.source = true := by
    rw [← hmarks]
    constructor
    . intro h
      exact (sourceSlot_of_current hbehind hids hu h).2
    . intro h
      exact sourceSlot_of_changed hids hcomplete hu hpending h hconsumers
  have hslots : (evaluatedSources p core calls prefetch).sourceSlots
      = (prefetch.runWorkers p core calls).sourceSlots := rfl
  have hgeneration : (evaluatedSources p core calls prefetch).generation = prefetch.generation := rfl
  unfold preparedInput SourceContext.nextInput
  simp only [hslots, hgeneration, hcurrent]
  by_cases hmarked : marks input.source = true
  . rw [if_pos hmarked, (sourceSlot_of_current hbehind hids hu (hcurrent.mpr hmarked)).1, hmarked]
    simp
  . rw [if_neg hmarked, hready.resolve_right hmarked]
    simp [hmarked]

section Evaluate

variable {slots : ParallelEvaluationPrefetch} {u : Universe} {index : Nat}
  {target : ColorTargetRuntime} {marks : Nat → Bool}

/-- The values that a worker finds for the inputs of a target. -/
def preparedValues (slots : ParallelEvaluationPrefetch) (u : Universe) (index : Nat)
    (target : ColorTargetRuntime) : List ℚ :=
  target.inputs.zipIdx.map (fun entry =>
    slots.preparedInput u.layout.universeId (u.state.colorInputs index entry.2) entry.1)

theorem getElem?_preparedValues {entry : ColorInputRuntime × Nat}
    (hentry : entry ∈ target.inputs.zipIdx)
    : (preparedValues slots u index target)[entry.2]?
        = some (slots.preparedInput u.layout.universeId (u.state.colorInputs index entry.2)
          entry.1) := by
  rw [List.mem_zipIdx_iff_getElem?] at hentry
  simp [preparedValues, hentry]

theorem any_range_eq {values : List ℚ} {row : Nat → ColorInputState}
    (hvalues : ∀ entry ∈ target.inputs.zipIdx,
      values[entry.2]? = some ((sourceContext p u).nextInput marks (row entry.2) entry.1).value)
    : (List.range target.inputs.length).any (fun i => !(row i).initialized
          || !nearlyEqual (row i).value (values.getD i 0) kDefaultEpsilon)
        = (sourceContext p u).inputsChanged marks row target := by
  have hindices : List.range target.inputs.length = target.inputs.zipIdx.map Prod.snd := by
    rw [List.zipIdx_map_snd, List.range_eq_range']
  rw [hindices, List.any_map, Bool.eq_iff_iff]
  simp only [SourceContext.inputsChanged, SourceContext.inputChanged, List.any_eq_true]
  apply exists_congr
  intro entry
  apply and_congr_right
  intro hentry
  simp [List.getD_eq_getElem?_getD, hvalues entry hentry]

theorem evaluated_evaluateColor (htarget : u.layout.colors.targets[index]? = some target)
    (hvalues : ∀ entry ∈ target.inputs.zipIdx,
      slots.preparedInput u.layout.universeId (u.state.colorInputs index entry.2) entry.1
        = ((sourceContext p u).nextInput marks (u.state.colorInputs index entry.2) entry.1).value)
    {slot : ColorSlot}
    (hwheels : slot.noWheels
      = (core.definitions.wheelLayers target.target.beamRenderTargetId).isEmpty)
    : (evaluateColor p core slots ⟨u, index⟩ slot).Evaluated (sourceContext p u) marks
        core.definitions (u.state.colorInputs index) target := by
  have hget (entry : ColorInputRuntime × Nat) (hentry : entry ∈ target.inputs.zipIdx)
      : (preparedValues slots u index target)[entry.2]?
        = some ((sourceContext p u).nextInput marks (u.state.colorInputs index entry.2)
          entry.1).value := by
    rw [getElem?_preparedValues hentry, hvalues entry hentry]
  have hchanged := any_range_eq hget
  have hzip : (target.inputs.map ColorInputRuntime.binding).zip (preparedValues slots u index target)
      = target.inputs.zipIdx.map (fun entry => (entry.1.binding,
        ((sourceContext p u).nextInput marks (u.state.colorInputs index entry.2)
          entry.1).value)) := by
    have hbindings : target.inputs.map ColorInputRuntime.binding
        = target.inputs.zipIdx.map (fun entry => entry.1.binding) := by
      conv_lhs => rw [← List.zipIdx_map_fst 0 target.inputs, List.map_map]
      rfl
    rw [hbindings, preparedValues, List.zip_map']
    apply List.map_congr_left
    intro entry hentry
    rw [hvalues entry hentry]
  have hvalue (entry : ColorInputRuntime × Nat) (hentry : entry ∈ target.inputs.zipIdx)
      : (preparedValues slots u index target).getD entry.2 (slot.values entry.2)
        = ((sourceContext p u).nextInput marks (u.state.colorInputs index entry.2)
          entry.1).value := by
    simp [List.getD_eq_getElem?_getD, hget entry hentry]
  have hfold : target.inputs.zipIdx.map (fun entry => slots.preparedInput u.layout.universeId
      (u.state.colorInputs index entry.2) entry.1) = preparedValues slots u index target := rfl
  unfold evaluateColor
  simp only [htarget, hfold, hchanged, hzip]
  split
  . next hinputs =>
    split
    . next hnone =>
      have hlayers : core.definitions.wheelLayers target.target.beamRenderTargetId = [] := by
        rw [← List.isEmpty_iff, ← hwheels, hnone]
      constructor
      case values => exact hvalue
      case changed => rfl
      case cooked => exact fun _ => rfl
      case noWheels => exact hwheels
      case final =>
        intro _ _
        simp only [hlayers]
        rfl
    . next hsome =>
      constructor
      case values => exact hvalue
      case changed => rfl
      case cooked => exact fun _ => rfl
      case noWheels => exact hwheels
      case final => exact fun _ hnone => absurd hnone hsome
  . next hinputs =>
    constructor
    case values => exact hvalue
    case changed => rfl
    case cooked => exact fun h => absurd h hinputs
    case noWheels => exact hwheels
    case final => exact fun h => absurd h hinputs

theorem noWheels_evaluateColor (job : PrefetchJob) (slot : ColorSlot)
    : (evaluateColor p core slots job slot).noWheels = slot.noWheels := by
  unfold evaluateColor
  split
  . rfl
  . dsimp only
    split
    . split
      . rfl
      . rfl
    . rfl

theorem generation_evaluateColor (htarget : u.layout.colors.targets[index]? = some target)
    (slot : ColorSlot)
    : (evaluateColor p core slots ⟨u, index⟩ slot).generation = slots.generation := by
  unfold evaluateColor
  simp only [htarget]
  split
  . split
    . rfl
    . rfl
  . rfl

end Evaluate

/-- What the colors of a universe need for an evaluation ahead of their universe. -/
structure Ready (marks : Nat → Bool) (u : Universe) : Prop where
  marked : ∀ source, source ∈ u.state.workspace.changedSources ↔ marks source = true
  consumers : ∀ (index : Nat) (target : ColorTargetRuntime), u.layout.colors.targets[index]? = some target →
    ∀ input ∈ target.inputs, u.layout.plan.consumersOf input.source ≠ []
  inputs : ∀ (index : Nat) (target : ColorTargetRuntime), u.layout.colors.targets[index]? = some target →
    ReadyInputs marks (u.state.colorInputs index) target

/-- The slots know which targets have no wheels. -/
def KnowsWheels (d : Definitions) (layout : UniverseLayout) (prefetch : ParallelEvaluationPrefetch)
    : Prop :=
  ∀ (index : Nat) (target : ColorTargetRuntime), layout.colors.targets[index]? = some target →
    (prefetch.colorSlots (layout.universeId, index)).noWheels
      = (d.wheelLayers target.target.beamRenderTargetId).isEmpty

theorem slotsOf_runWorkers (universeId : Int32)
    : (prefetch.runWorkers p core calls).slotsOf universeId
        = some {
            generation := prefetch.generation
            slots := {
              sourceSlots := fun source =>
                (prefetch.runWorkers p core calls).sourceSlots (universeId, source)
              colorSlots := fun target =>
                (prefetch.runWorkers p core calls).colorSlots (universeId, target)
            }
          } := rfl

section Universe

variable {u : Universe} {prepared : PreparedSlots}

theorem source?_of_slotsOf (hbehind : prefetch.Behind) (hids : DistinctIds core.universes)
    (hu : u ∈ core.universes)
    (hprepared : (prefetch.runWorkers p core calls).slotsOf u.layout.universeId = some prepared)
    : ∀ source slot, prepared.source? source = some slot →
        slot.value = (sourceContext p u).value source := by
  intro source slot hslot
  rw [slotsOf_runWorkers] at hprepared
  rw [← Option.some.inj hprepared] at hslot
  unfold PreparedSlots.source? at hslot
  dsimp only at hslot
  split at hslot
  . next hcurrent =>
    rw [← Option.some.inj hslot]
    exact (sourceSlot_of_current hbehind hids hu hcurrent).1
  . cases hslot

theorem serves_of_slotsOf (hbehind : prefetch.Behind) (hids : DistinctIds core.universes)
    (hcomplete : calls.Complete core.universes) (hu : u ∈ core.universes)
    (hpending : u.state.hasPendingFrame = true) {marks : Nat → Bool} (hready : Ready marks u)
    (hwheels : prefetch.KnowsWheels core.definitions u.layout)
    (hprepared : (prefetch.runWorkers p core calls).slotsOf u.layout.universeId = some prepared)
    : prepared.Serves (sourceContext p u) marks core.definitions u.layout.colors
        u.state.colorInputs u.dirtyColors := by
  rw [slotsOf_runWorkers] at hprepared
  rw [← Option.some.inj hprepared]
  constructor
  . intro index hindex target htarget
    have hjob : ⟨u, index⟩ ∈ jobsOf calls.colors (colorJobs core.universes) := by
      apply hcomplete.2.mem_jobsOf
      exact mem_colorJobs.mpr ⟨hu, hpending, hindex⟩
    have hslot : (prefetch.runWorkers p core calls).colorSlots (u.layout.universeId, index) = _ :=
      colorSlot_of_job hids hjob
    refine ⟨_, if_pos ?_, ?_⟩
    . change ((prefetch.runWorkers p core calls).colorSlots (u.layout.universeId, index)).generation
        = prefetch.generation
      exact (congrArg ColorSlot.generation hslot).trans (generation_evaluateColor htarget _)
    . change ((prefetch.runWorkers p core calls).colorSlots
        (u.layout.universeId, index)).Evaluated _ _ _ _ _
      rw [hslot]
      apply evaluated_evaluateColor htarget _ (hwheels index target htarget)
      intro entry hentry
      have hmem : entry.1 ∈ target.inputs :=
        List.mem_of_getElem? (List.mem_zipIdx_iff_getElem?.mp hentry)
      exact preparedInput_eq hbehind hids hcomplete hu hpending hready.marked
        (hready.consumers index target htarget entry.1 hmem)
        (hready.inputs index target htarget entry hentry)
  . intro index hindex
    exact if_neg (colorSlot_of_not_dirty hbehind hids hu hindex)

end Universe

theorem Behind.runWorkers (h : prefetch.Behind)
    : (prefetch.runWorkers p core calls).Stamped := by
  constructor
  . refine KeyedLog.revise_invariant (P := fun _ (slot : SourceSlot) =>
      slot.generation ≤ prefetch.generation) ?_ ?_ _
    . exact h.stamped.sources
    . intro job slot _
      exact UInt64.le_refl _
  . refine KeyedLog.revise_invariant (P := fun _ (slot : ColorSlot) =>
      slot.generation ≤ prefetch.generation) ?_ ?_ _
    . exact h.stamped.colors
    . intro job slot hslot
      obtain ⟨u, index⟩ := job
      cases htarget : u.layout.colors.targets[index]? with
      | none =>
        unfold evaluateColor
        simp only [htarget]
        exact hslot
      | some target =>
        rw [generation_evaluateColor htarget]
        exact UInt64.le_refl _

theorem noWheels_runWorkers (key : Int32 × Nat)
    : ((prefetch.runWorkers p core calls).colorSlots key).noWheels
        = (prefetch.colorSlots key).noWheels := by
  refine KeyedLog.revise_invariant (P := fun key (slot : ColorSlot) =>
    slot.noWheels = (prefetch.colorSlots key).noWheels) ?_ ?_ _ key
  . intro _
    rfl
  . intro job slot hslot
    rw [noWheels_evaluateColor, hslot]

end ParallelEvaluationPrefetch

end Peraviz.Runtime
