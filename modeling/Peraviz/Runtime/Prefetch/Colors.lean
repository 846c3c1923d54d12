import Peraviz.Runtime.Prefetch.Cache

/-!
This module contains the colors of a universe. What the inputs of a target become in an update is a
function of what is held of them and of the frame, both the serial evaluation and the commit of a
slot answer it.
-/

namespace Peraviz.Runtime

namespace SourceContext

variable (ctx : SourceContext) (marks : Nat → Bool)

/-- An input that has a value keeps it while its source is not marked. -/
def nextInput (state : ColorInputState) (input : ColorInputRuntime) : ColorInputState :=
  if state.initialized && !marks input.source then
    state
  else
    ⟨colorValueFromEvaluation input.binding.semantic (ctx.value input.source), true⟩

def inputChanged (state : ColorInputState) (input : ColorInputRuntime) : Bool :=
  !state.initialized
    || !nearlyEqual state.value (ctx.nextInput marks state input).value kDefaultEpsilon

def nextInputs (inputs : ColorInputs) (index : Nat) (target : ColorTargetRuntime) : ColorInputs :=
  Function.update inputs index (KeyedLog.revise Prod.snd
    (fun entry state => ctx.nextInput marks state entry.1) (inputs index) target.inputs.zipIdx)

def inputsChanged (row : Nat → ColorInputState) (target : ColorTargetRuntime) : Bool :=
  target.inputs.zipIdx.any (fun entry => ctx.inputChanged marks (row entry.2) entry.1)

def nextColor (resources : ColorResources) (layout : ColorLayout) (wheels : WheelLayout)
    (update : ColorUpdate) (index : Nat) : ColorUpdate :=
  match layout.targets[index]? with
  | none => update
  | some target =>
    let changed := ctx.inputsChanged marks (update.inputs index) target
    let inputs := ctx.nextInputs marks update.inputs index target
    if changed then
      ColorUpdate.cook { update with inputs := inputs } wheels target.target.beamRenderTargetId
        (cookEmitterColor ctx.platform resources target.target (targetInputs inputs index target))
    else
      { update with inputs := inputs }

end SourceContext

/-- A slot of a target that a worker has evaluated, `row` is what was held of the inputs. -/
structure ColorSlot.Evaluated (ctx : SourceContext) (marks : Nat → Bool) (d : Definitions)
    (row : Nat → ColorInputState) (target : ColorTargetRuntime) (slot : ColorSlot) : Prop where
  values : ∀ entry ∈ target.inputs.zipIdx,
    slot.values entry.2 = (ctx.nextInput marks (row entry.2) entry.1).value
  changed : slot.changed = ctx.inputsChanged marks row target
  cooked : slot.changed = true → slot.cooked = cookEmitterColor ctx.platform d.resources
    target.target (target.inputs.zipIdx.map (fun entry =>
      (entry.1.binding, (ctx.nextInput marks (row entry.2) entry.1).value)))
  noWheels : slot.noWheels = (d.wheelLayers target.target.beamRenderTargetId).isEmpty
  final : slot.changed = true → slot.noWheels = true →
    slot.final = composeOrderedTargetColor ctx.platform slot.cooked []

/-- The slots of the targets that are dirty, and of no others, were evaluated in this consume. -/
structure PreparedSlots.Serves (ctx : SourceContext) (marks : Nat → Bool) (d : Definitions)
    (layout : ColorLayout) (inputs : ColorInputs) (dirty : List Nat) (prepared : PreparedSlots)
    : Prop where
  color : ∀ index ∈ dirty, ∀ target, layout.targets[index]? = some target →
    ∃ slot, prepared.color? index = some slot ∧ slot.Evaluated ctx marks d (inputs index) target
  others : ∀ index, index ∉ dirty → prepared.color? index = none

variable {ctx : SourceContext} {Q : Nat → Prop} {marks : Nat → Bool} {w : EvaluationWorkspace}

/-! ### The inputs of a target -/

theorem ColorInputs.set_self (inputs : ColorInputs) (target input : Nat)
    : inputs.set target input (inputs target input) = inputs := by
  simp [ColorInputs.set]

theorem ColorInputs.set_of_ne (inputs : ColorInputs) (target : Nat) {input other : Nat}
    (h : other ≠ input) (state : ColorInputState)
    : inputs.set target input state target other = inputs target other := by
  simp [ColorInputs.set, h]

theorem nodup_zipIdx {α : Type} (l : List α) : (l.zipIdx.map Prod.snd).Nodup := by
  rw [List.zipIdx_map_snd]
  exact List.nodup_range'

theorem eq_of_mem_zipIdx {α : Type} {l : List α} {a b : α × Nat} (ha : a ∈ l.zipIdx)
    (hb : b ∈ l.zipIdx) (h : a.2 = b.2) : a = b := by
  rw [List.mem_zipIdx_iff_getElem?] at ha hb
  rw [h, hb] at ha
  exact Prod.ext (Option.some.inj ha).symm h

namespace SourceContext

theorem nextInput_nextInput (state : ColorInputState) (input : ColorInputRuntime)
    : ctx.nextInput marks (ctx.nextInput marks state input) input
        = ctx.nextInput marks state input := by
  unfold nextInput
  split
  . simp
  . split
    . rfl
    . rfl

theorem initialized_nextInput (state : ColorInputState) (input : ColorInputRuntime)
    : (ctx.nextInput marks state input).initialized = true := by
  unfold nextInput
  split
  . next h => exact ((Bool.and_eq_true _ _).mp h).1
  . rfl

theorem nextInputs_of_ne (inputs : ColorInputs) {index other : Nat} (h : other ≠ index)
    (target : ColorTargetRuntime) : ctx.nextInputs marks inputs index target other = inputs other :=
  Function.update_of_ne h _ _

theorem nextInputs_self (inputs : ColorInputs) (index : Nat) {target : ColorTargetRuntime}
    {entry : ColorInputRuntime × Nat} (hentry : entry ∈ target.inputs.zipIdx)
    : ctx.nextInputs marks inputs index target index entry.2
        = ctx.nextInput marks (inputs index entry.2) entry.1 := by
  unfold nextInputs
  rw [Function.update_self, KeyedLog.revise_of_mem hentry]
  . intro other hother heq
    exact eq_of_mem_zipIdx hother hentry heq
  . intro state
    apply nextInput_nextInput

theorem targetInputs_nextInputs (inputs : ColorInputs) (index : Nat) (target : ColorTargetRuntime)
    : targetInputs (ctx.nextInputs marks inputs index target) index target
        = target.inputs.zipIdx.map (fun entry =>
          (entry.1.binding, (ctx.nextInput marks (inputs index entry.2) entry.1).value)) := by
  unfold targetInputs
  apply List.map_congr_left
  intro entry hentry
  exact congrArg (fun state => (entry.1.binding, ColorInputState.value state))
    (nextInputs_self inputs index hentry)

-- The row of a target is revised entry by entry.
theorem nextInputs_eq_foldl (inputs : ColorInputs) (index : Nat) (target : ColorTargetRuntime)
    : ctx.nextInputs marks inputs index target
        = target.inputs.zipIdx.foldl (fun inputs entry => inputs.set index entry.2
          (ctx.nextInput marks (inputs index entry.2) entry.1)) inputs := by
  unfold nextInputs
  generalize target.inputs.zipIdx = entries
  induction entries generalizing inputs with
  | nil => exact Function.update_eq_self index inputs
  | cons entry entries ih =>
    rw [List.foldl_cons, ← ih]
    simp [ColorInputs.set, KeyedLog.revise]

/-- The serial step on one input. -/
def nextEntry (ctx : SourceContext) (marks : Nat → Bool) (index : Nat) (update : ColorInputs × Bool)
    (entry : ColorInputRuntime × Nat) : ColorInputs × Bool :=
  let state := update.1 index entry.2
  (update.1.set index entry.2 (ctx.nextInput marks state entry.1),
    update.2 || ctx.inputChanged marks state entry.1)

theorem nextEntry_of_skip {index : Nat} {update : ColorInputs × Bool}
    {entry : ColorInputRuntime × Nat}
    (h : ((update.1 index entry.2).initialized && !marks entry.1.source) = true)
    : ctx.nextEntry marks index update entry = update := by
  have hnext : ctx.nextInput marks (update.1 index entry.2) entry.1 = update.1 index entry.2 :=
    if_pos h
  have hinitialized := ((Bool.and_eq_true _ _).mp h).1
  simp only [nextEntry, inputChanged, hnext, hinitialized, ColorInputs.set_self]
  rw [nearlyEqual_self _ _ (by simp [kDefaultEpsilon])]
  simp

theorem nextEntry_of_not_skip {index : Nat} {update : ColorInputs × Bool}
    {entry : ColorInputRuntime × Nat}
    (h : ¬ ((update.1 index entry.2).initialized && !marks entry.1.source) = true)
    : ctx.nextEntry marks index update entry
        = (update.1.set index entry.2
            ⟨colorValueFromEvaluation entry.1.binding.semantic (ctx.value entry.1.source), true⟩,
          update.2 || !(update.1 index entry.2).initialized
            || !nearlyEqual (update.1 index entry.2).value
              (colorValueFromEvaluation entry.1.binding.semantic (ctx.value entry.1.source))
              kDefaultEpsilon) := by
  have hnext : ctx.nextInput marks (update.1 index entry.2) entry.1
      = ⟨colorValueFromEvaluation entry.1.binding.semantic (ctx.value entry.1.source), true⟩ :=
    if_neg h
  simp only [nextEntry, inputChanged, hnext, Bool.or_assoc]

/-- The step of the commit on one input. -/
def commitEntry (marks : Nat → Bool) (slot : ColorSlot) (index : Nat) (inputs : ColorInputs)
    (entry : ColorInputRuntime × Nat) : ColorInputs :=
  if (inputs index entry.2).initialized && !marks entry.1.source then
    inputs
  else
    inputs.set index entry.2 ⟨slot.values entry.2, true⟩

theorem commitEntry_eq {slot : ColorSlot} {index : Nat} {inputs : ColorInputs}
    {entry : ColorInputRuntime × Nat}
    (hvalue : slot.values entry.2
      = (ctx.nextInput marks (inputs index entry.2) entry.1).value)
    : commitEntry marks slot index inputs entry
        = inputs.set index entry.2 (ctx.nextInput marks (inputs index entry.2) entry.1) := by
  rw [commitEntry, hvalue]
  unfold nextInput
  split
  . exact (ColorInputs.set_self inputs index entry.2).symm
  . rfl

section Entries

variable {index : Nat} {entries : List (ColorInputRuntime × Nat)} {row : Nat → ColorInputState}

-- No entry reads what an entry in front of it has written.
theorem unwritten {entry : ColorInputRuntime × Nat} {inputs : ColorInputs} {state : ColorInputState}
    (hnew : entry.2 ∉ entries.map Prod.snd)
    (hrow : ∀ other ∈ entries, inputs index other.2 = row other.2)
    : ∀ other ∈ entries, inputs.set index entry.2 state index other.2 = row other.2 := by
  intro other hother
  rw [ColorInputs.set_of_ne, hrow other hother]
  intro heq
  apply hnew
  rw [← heq]
  exact List.mem_map_of_mem hother

theorem foldl_nextEntry (hnodup : (entries.map Prod.snd).Nodup) {inputs : ColorInputs}
    (hrow : ∀ entry ∈ entries, inputs index entry.2 = row entry.2) (changed : Bool)
    : entries.foldl (ctx.nextEntry marks index) (inputs, changed)
        = (entries.foldl (fun inputs entry => inputs.set index entry.2
            (ctx.nextInput marks (inputs index entry.2) entry.1)) inputs,
          changed || entries.any (fun entry => ctx.inputChanged marks (row entry.2) entry.1)) := by
  induction entries generalizing inputs changed with
  | nil => simp
  | cons entry entries ih =>
    rw [List.map_cons, List.nodup_cons] at hnodup
    rw [List.forall_mem_cons] at hrow
    rw [List.foldl_cons, List.foldl_cons, List.any_cons, ← Bool.or_assoc, ← hrow.1]
    exact ih hnodup.2 (unwritten hnodup.1 hrow.2) _

theorem foldl_commitEntry {slot : ColorSlot} (hnodup : (entries.map Prod.snd).Nodup)
    {inputs : ColorInputs} (hrow : ∀ entry ∈ entries, inputs index entry.2 = row entry.2)
    (hvalues : ∀ entry ∈ entries,
      slot.values entry.2 = (ctx.nextInput marks (row entry.2) entry.1).value)
    : entries.foldl (commitEntry marks slot index) inputs
        = entries.foldl (fun inputs entry => inputs.set index entry.2
            (ctx.nextInput marks (inputs index entry.2) entry.1)) inputs := by
  induction entries generalizing inputs with
  | nil => rfl
  | cons entry entries ih =>
    rw [List.map_cons, List.nodup_cons] at hnodup
    rw [List.forall_mem_cons] at hrow hvalues
    rw [List.foldl_cons, List.foldl_cons, commitEntry_eq (by rw [hrow.1, hvalues.1])]
    exact ih hnodup.2 (unwritten hnodup.1 hrow.2) hvalues.2

end Entries

end SourceContext

/-! ### The evaluation of the inputs -/

namespace Filled

theorem skipInput (hw : w.sourceChanged = marks) (state : ColorInputState) (source : Nat)
    : Keeps (Filled ctx Q w) (fun skip => skip = (state.initialized && !marks source))
        (skipInput state source) := by
  apply (Filled.sourceChanged source).bind
  intro changed hchanged
  apply Keeps.pure
  rw [hchanged, hw]

theorem updateColorInput (hw : w.sourceChanged = marks) (index : Nat)
    (update : ColorInputs × Bool) {entry : ColorInputRuntime × Nat} (hsource : Q entry.1.source)
    : Keeps (Filled ctx Q w) (fun result => result = ctx.nextEntry marks index update entry)
        (ctx.updateColorInput index update entry) := by
  apply (Filled.skipInput hw _ _).bind
  intro skip hskip
  split
  . next h =>
    rw [hskip] at h
    apply Keeps.pure
    exact (SourceContext.nextEntry_of_skip h).symm
  . next h =>
    rw [hskip] at h
    apply (Filled.evaluateCachedSource hsource).bind
    intro evaluated hevaluated
    rw [hevaluated]
    apply Keeps.pure
    exact (SourceContext.nextEntry_of_not_skip h).symm

theorem updateColorInputs (hw : w.sourceChanged = marks) (inputs : ColorInputs) (index : Nat)
    {target : ColorTargetRuntime} (htarget : ∀ input ∈ target.inputs, Q input.source)
    : Keeps (Filled ctx Q w)
        (fun result => result
          = (ctx.nextInputs marks inputs index target,
            ctx.inputsChanged marks (inputs index) target))
        (ctx.updateColorInputs inputs index target) := by
  have hfold : target.inputs.zipIdx.foldl (ctx.nextEntry marks index) (inputs, false)
      = (ctx.nextInputs marks inputs index target,
        ctx.inputsChanged marks (inputs index) target) := by
    rw [SourceContext.foldl_nextEntry (nodup_zipIdx _) (fun _ _ => rfl),
      SourceContext.nextInputs_eq_foldl, Bool.false_or]
    rfl
  rw [← hfold]
  apply Keeps.foldlM_pure
  intro entry hentry update
  apply Filled.updateColorInput hw
  apply htarget
  exact List.mem_of_getElem? (List.mem_zipIdx_iff_getElem?.mp hentry)

theorem commitColorInput (hw : w.sourceChanged = marks) (slot : ColorSlot) (index : Nat)
    (inputs : ColorInputs) (entry : ColorInputRuntime × Nat)
    : Keeps (Filled ctx Q w)
        (fun result => result = SourceContext.commitEntry marks slot index inputs entry)
        (ctx.commitColorInput slot index inputs entry) := by
  apply (Filled.skipInput hw _ _).bind
  intro skip hskip
  unfold SourceContext.commitEntry
  rw [hskip]
  split
  . apply Keeps.pure
    rfl
  . apply (Filled.flushWarnings entry.1.source).bind
    intro _ _
    apply Keeps.pure
    rfl

theorem commitColorInputs {d : Definitions} (hw : w.sourceChanged = marks) {slot : ColorSlot}
    {inputs : ColorInputs} {index : Nat} {target : ColorTargetRuntime}
    (hslot : slot.Evaluated ctx marks d (inputs index) target)
    : Keeps (Filled ctx Q w) (fun result => result = ctx.nextInputs marks inputs index target)
        (ctx.commitColorInputs slot inputs index target) := by
  have hfold : target.inputs.zipIdx.foldl (SourceContext.commitEntry marks slot index) inputs
      = ctx.nextInputs marks inputs index target := by
    rw [SourceContext.foldl_commitEntry (nodup_zipIdx _) (fun _ _ => rfl) hslot.values,
      SourceContext.nextInputs_eq_foldl]
  rw [← hfold]
  apply Keeps.foldlM_pure
  intro entry _ inputs
  apply Filled.commitColorInput hw

theorem updateColor (hw : w.sourceChanged = marks) (resources : ColorResources)
    {layout : ColorLayout}
    (hlayout : ∀ target ∈ layout.targets, ∀ input ∈ target.inputs, Q input.source)
    (wheels : WheelLayout) (update : ColorUpdate) (index : Nat)
    : Keeps (Filled ctx Q w)
        (fun result => result = ctx.nextColor marks resources layout wheels update index)
        (ctx.updateColor resources layout wheels none update index) := by
  unfold SourceContext.updateColor SourceContext.nextColor
  cases htarget : layout.targets[index]? with
  | none =>
    apply Keeps.pure
    rfl
  | some target =>
    have hinputs := hlayout target (List.mem_of_getElem? htarget)
    apply (Filled.updateColorInputs hw update.inputs index hinputs).bind
    intro result hresult
    rw [hresult]
    dsimp only
    cases ctx.inputsChanged marks (update.inputs index) target with
    | false =>
      apply Keeps.pure
      rfl
    | true =>
      apply Keeps.pure
      rfl

theorem commitColor (hw : w.sourceChanged = marks) {d : Definitions} {layout : ColorLayout}
    {prepared : PreparedSlots} {update : ColorUpdate} {index : Nat}
    (hslot : ∀ target, layout.targets[index]? = some target → ∃ slot,
      prepared.color? index = some slot
        ∧ slot.Evaluated ctx marks d (update.inputs index) target)
    (wheels : WheelLayout)
    : Keeps (Filled ctx Q w)
        (fun result => result = ctx.nextColor marks d.resources layout wheels update index)
        (ctx.updateColor d.resources layout wheels (some prepared) update index) := by
  unfold SourceContext.updateColor SourceContext.nextColor
  cases htarget : layout.targets[index]? with
  | none =>
    apply Keeps.pure
    rfl
  | some target =>
    obtain ⟨slot, hsome, hevaluated⟩ := hslot target htarget
    simp only [Option.bind_some, hsome, SourceContext.readColorInputs, bind_assoc, pure_bind]
    apply (Filled.commitColorInputs hw hevaluated).bind
    intro inputs hinputs
    rw [hinputs, SourceContext.targetInputs_nextInputs, ← hevaluated.changed]
    cases hchanged : slot.changed with
    | false =>
      apply Keeps.pure
      rfl
    | true =>
      rw [← hevaluated.cooked hchanged]
      apply Keeps.pure
      rfl

end Filled

namespace SourceContext

variable {resources : ColorResources} {layout : ColorLayout} {wheels : WheelLayout}

theorem inputs_nextColor {update : ColorUpdate} {index other : Nat} (h : other ≠ index)
    : (ctx.nextColor marks resources layout wheels update index).inputs other
        = update.inputs other := by
  unfold nextColor
  split
  . rfl
  . dsimp only
    split
    . exact nextInputs_of_ne update.inputs h _
    . exact nextInputs_of_ne update.inputs h _

theorem inputs_nextColor_self {update : ColorUpdate} {index : Nat} {target : ColorTargetRuntime}
    (htarget : layout.targets[index]? = some target)
    : (ctx.nextColor marks resources layout wheels update index).inputs
        = ctx.nextInputs marks update.inputs index target := by
  simp only [nextColor, htarget]
  split
  . rfl
  . rfl

theorem inputs_foldl_nextColor {indices : List Nat} {update : ColorUpdate} {other : Nat}
    (h : other ∉ indices)
    : (indices.foldl (ctx.nextColor marks resources layout wheels) update).inputs other
        = update.inputs other := by
  induction indices generalizing update with
  | nil => rfl
  | cons index indices ih =>
    rw [List.mem_cons, not_or] at h
    rw [List.foldl_cons, ih h.2, inputs_nextColor h.1]

-- Every input of a target that is visited has a value.
theorem initialized_foldl_nextColor {indices : List Nat} {update : ColorUpdate} {index : Nat}
    (hindex : index ∈ indices) {target : ColorTargetRuntime}
    (htarget : layout.targets[index]? = some target) {entry : ColorInputRuntime × Nat}
    (hentry : entry ∈ target.inputs.zipIdx)
    : ((indices.foldl (ctx.nextColor marks resources layout wheels) update).inputs index
        entry.2).initialized = true := by
  induction indices using List.reverseRecOn with
  | nil => contradiction
  | append_singleton indices last ih =>
    rw [List.foldl_append, List.foldl_cons, List.foldl_nil]
    by_cases hlast : index = last
    . rw [← hlast, inputs_nextColor_self htarget, nextInputs_self _ _ hentry]
      exact initialized_nextInput _ _
    . rw [inputs_nextColor hlast]
      apply ih
      rw [List.mem_append, List.mem_singleton] at hindex
      exact hindex.resolve_right hlast

theorem base_nextColor_of_ne {update : ColorUpdate} {index : Nat} {beamTargetId : Int32}
    (h : ∀ target, layout.targets[index]? = some target →
      ctx.inputsChanged marks (update.inputs index) target = true →
        target.target.beamRenderTargetId ≠ beamTargetId)
    : (ctx.nextColor marks resources layout wheels update index).base beamTargetId
        = update.base beamTargetId := by
  unfold nextColor
  split
  . rfl
  . next target htarget =>
    dsimp only
    split
    . next hchanged => exact Function.update_of_ne (Ne.symm (h target htarget hchanged)) _ _
    . rfl

theorem base_foldl_nextColor_of_ne {indices : List Nat} (hnodup : indices.Nodup)
    {update : ColorUpdate} {beamTargetId : Int32}
    (h : ∀ index ∈ indices, ∀ target, layout.targets[index]? = some target →
      ctx.inputsChanged marks (update.inputs index) target = true →
        target.target.beamRenderTargetId ≠ beamTargetId)
    : (indices.foldl (ctx.nextColor marks resources layout wheels) update).base beamTargetId
        = update.base beamTargetId := by
  induction indices generalizing update with
  | nil => rfl
  | cons index indices ih =>
    rw [List.nodup_cons] at hnodup
    rw [List.forall_mem_cons] at h
    rw [List.foldl_cons, ih hnodup.2, base_nextColor_of_ne h.1]
    intro other hother
    rw [inputs_nextColor]
    . exact h.2 other hother
    . intro heq
      rw [heq] at hother
      exact hnodup.1 hother

theorem base_nextColor_self {update : ColorUpdate} {index : Nat} {target : ColorTargetRuntime}
    (htarget : layout.targets[index]? = some target)
    (hchanged : ctx.inputsChanged marks (update.inputs index) target = true)
    : (ctx.nextColor marks resources layout wheels update index).base
          target.target.beamRenderTargetId
        = { cookEmitterColor ctx.platform resources target.target
              (target.inputs.zipIdx.map (fun entry => (entry.1.binding,
                (ctx.nextInput marks (update.inputs index entry.2) entry.1).value)))
            with initialized := true } := by
  simp only [nextColor, htarget, hchanged, if_true, targetInputs_nextInputs]
  exact Function.update_self _ _ _

end SourceContext

theorem Filled.commitColors (hw : w.sourceChanged = marks) {d : Definitions} {layout : ColorLayout}
    {inputs : ColorInputs} {dirty : List Nat} {prepared : PreparedSlots}
    (hserves : prepared.Serves ctx marks d layout inputs dirty) (wheels : WheelLayout)
    {indices : List Nat} (hnodup : indices.Nodup) (hdirty : ∀ index ∈ indices, index ∈ dirty)
    {update : ColorUpdate} (hrows : ∀ index ∈ indices, update.inputs index = inputs index)
    : Keeps (Filled ctx Q w)
        (fun result => result
          = indices.foldl (ctx.nextColor marks d.resources layout wheels) update)
        (ctx.updateColors d.resources layout wheels (some prepared) update indices) := by
  unfold SourceContext.updateColors
  induction indices generalizing update with
  | nil =>
    apply Keeps.pure
    rfl
  | cons index indices ih =>
    rw [List.nodup_cons] at hnodup
    rw [List.forall_mem_cons] at hdirty hrows
    rw [List.foldlM_cons, List.foldl_cons]
    refine (Filled.commitColor hw ?_ wheels).bind ?_
    . intro target htarget
      rw [hrows.1]
      exact hserves.color index hdirty.1 target htarget
    . intro next hnext
      rw [hnext]
      apply ih hnodup.2 hdirty.2
      intro other hother
      rw [SourceContext.inputs_nextColor, hrows.2 other hother]
      intro heq
      rw [heq] at hother
      exact hnodup.1 hother

-- Neither side answers from its cache, so both answer the same update.
theorem PrefetchAgrees.updateColors {visited : List Nat} {d : Definitions} {layout : ColorLayout}
    (hlayout : ∀ target ∈ layout.targets, ∀ input ∈ target.inputs, Q input.source)
    {dirty : List Nat} {prepared : Option PreparedSlots} {update : ColorUpdate}
    (hserves : ∀ slots, prepared = some slots →
      slots.Serves ctx marks d layout update.inputs dirty)
    (hnodup : dirty.Nodup) (wheels : WheelLayout)
    : Coupled (PrefetchAgrees ctx Q marks visited)
        (fun result result' => result' = result
          ∧ result = dirty.foldl (ctx.nextColor marks d.resources layout wheels) update)
        (ctx.updateColors d.resources layout wheels none update dirty)
        (ctx.updateColors d.resources layout wheels prepared update dirty) := by
  have hserial (w : EvaluationWorkspace) (hw : w.sourceChanged = marks)
      : Keeps (Filled ctx Q w)
        (fun result => result = dirty.foldl (ctx.nextColor marks d.resources layout wheels) update)
        (ctx.updateColors d.resources layout wheels none update dirty) := by
    apply Keeps.foldlM_pure
    intro index _ update
    exact Filled.updateColor hw d.resources hlayout wheels update index
  refine PrefetchAgrees.coupled hserial ?_ ⟨rfl, rfl⟩
  intro w hw
  cases prepared with
  | none => exact hserial w hw
  | some slots =>
    apply Filled.commitColors hw (hserves slots rfl) wheels hnodup
    . intro index hindex
      exact hindex
    . intro index _
      rfl

/-! ### The final color -/

-- The last of the dirty targets that has changed is the one whose color is held in the end.
theorem base_of_last {d : Definitions} {layout : ColorLayout} (wheels : WheelLayout)
    {dirty : List Nat} (hascending : dirty.Pairwise (fun a b => a < b)) {update : ColorUpdate}
    {index : Nat} (hindex : index ∈ dirty) {target : ColorTargetRuntime}
    (htarget : layout.targets[index]? = some target) {slot : ColorSlot}
    (hslot : slot.Evaluated ctx marks d (update.inputs index) target)
    (hchanged : slot.changed = true)
    (hlast : ∀ other ∈ dirty, index < other → ∀ target', layout.targets[other]? = some target' →
      ctx.inputsChanged marks (update.inputs other) target' = true →
        target'.target.beamRenderTargetId ≠ target.target.beamRenderTargetId)
    : (dirty.foldl (ctx.nextColor marks d.resources layout wheels) update).base
          target.target.beamRenderTargetId
        = { slot.cooked with initialized := true } := by
  obtain ⟨front, back, rfl⟩ := List.append_of_mem hindex
  rw [List.pairwise_append, List.pairwise_cons] at hascending
  obtain ⟨-, ⟨hback, hbackAscending⟩, hfront⟩ := hascending
  have hself (other : Nat) (hother : other = index ∨ other ∈ back)
      : (front.foldl (ctx.nextColor marks d.resources layout wheels) update).inputs other
        = update.inputs other := by
    apply SourceContext.inputs_foldl_nextColor
    intro hmem
    exact absurd (hfront other hmem other (List.mem_cons.mpr hother)) (Nat.lt_irrefl _)
  rw [List.foldl_append, List.foldl_cons, SourceContext.base_foldl_nextColor_of_ne,
    SourceContext.base_nextColor_self htarget, hself index (Or.inl rfl), hslot.cooked hchanged]
  . rw [hself index (Or.inl rfl), ← hslot.changed, hchanged]
  . exact hbackAscending.imp Nat.ne_of_lt
  . intro other hother
    rw [SourceContext.inputs_nextColor (Nat.ne_of_gt (hback other hother)),
      hself other (Or.inr hother)]
    exact hlast other (List.mem_append_right _ (List.mem_cons_of_mem _ hother)) (hback other hother)

theorem finalColor_eq_some {prepared : PreparedSlots} {layout : ColorLayout} {beamTargetId : Int32}
    {final : CookedEmitterColor} (h : prepared.finalColor layout beamTargetId = some final)
    : ∃ index target slot, layout.targets[index]? = some target
        ∧ target.target.beamRenderTargetId = beamTargetId
        ∧ prepared.color? index = some slot ∧ slot.changed = true ∧ slot.noWheels = true
        ∧ slot.final = final
        ∧ ∀ other, index < other → ∀ target' slot', layout.targets[other]? = some target' →
          target'.target.beamRenderTargetId = beamTargetId → prepared.color? other = some slot' →
            ¬ (slot'.changed = true ∧ slot'.noWheels = true) := by
  unfold PreparedSlots.finalColor at h
  obtain ⟨front, entry, back, hsplit, hentry, hfront⟩ := List.findSome?_eq_some_iff.mp h
  have hmem (other : ColorTargetRuntime × Nat)
      : other ∈ front ++ entry :: back ↔ layout.targets[other.2]? = some other.1
        ∧ other.1.target.beamRenderTargetId = beamTargetId := by
    rw [← hsplit, List.mem_reverse, List.mem_filter, List.mem_zipIdx_iff_getElem?, beq_iff_eq]
  have hascending : (layout.targets.zipIdx.map Prod.snd).Pairwise (fun a b => a < b) := by
    rw [List.zipIdx_map_snd]
    exact List.pairwise_lt_range'
  have hdescending : (front ++ entry :: back).Pairwise (fun a b => b.2 < a.2) := by
    rw [← hsplit, List.pairwise_reverse]
    exact (List.pairwise_map.mp hascending).filter _
  obtain ⟨htarget, hbeam⟩ := (hmem entry).mp (List.mem_append_right _ List.mem_cons_self)
  simp only [Option.map_eq_some_iff, Option.filter_eq_some_iff, Bool.and_eq_true] at hentry
  obtain ⟨slot, ⟨hslot, hchanged, hwheels⟩, hfinal⟩ := hentry
  refine ⟨entry.2, entry.1, slot, htarget, hbeam, hslot, hchanged, hwheels, hfinal, ?_⟩
  intro other hlater target' slot' htarget' hbeam' hslot' hboth
  rcases List.mem_append.mp ((hmem (target', other)).mpr ⟨htarget', hbeam'⟩) with hmem' | hmem'
  . have hnone := hfront (target', other) hmem'
    simp [hslot', hboth] at hnone
  . rw [List.pairwise_append, List.pairwise_cons] at hdescending
    rcases List.mem_cons.mp hmem' with heq | hback
    . rw [← heq] at hlater
      exact Nat.lt_irrefl _ hlater
    . exact Nat.lt_asymm hlater (hdescending.2.1.1 _ hback)

theorem PreparedSlots.Serves.color?_eq_some {d : Definitions} {layout : ColorLayout}
    {inputs : ColorInputs} {dirty : List Nat} {prepared : PreparedSlots}
    (h : prepared.Serves ctx marks d layout inputs dirty) {index : Nat} {target : ColorTargetRuntime}
    (htarget : layout.targets[index]? = some target) {slot : ColorSlot}
    (hslot : prepared.color? index = some slot)
    : index ∈ dirty ∧ slot.Evaluated ctx marks d (inputs index) target := by
  have hindex : index ∈ dirty := by
    by_contra hnot
    rw [h.others index hnot] at hslot
    cases hslot
  obtain ⟨slot', hslot', hevaluated⟩ := h.color index hindex target htarget
  rw [hslot] at hslot'
  exact ⟨hindex, Option.some.inj hslot' ▸ hevaluated⟩

-- Without a wheel over its target, what a worker has composed is the composition.
theorem finalColor_eq {d : Definitions} {layout : ColorLayout} {dirty : List Nat}
    {prepared : PreparedSlots} {update : ColorUpdate}
    (hserves : prepared.Serves ctx marks d layout update.inputs dirty)
    (hascending : dirty.Pairwise (fun a b => a < b)) (wheels : WheelLayout) {beamTargetId : Int32}
    {final : CookedEmitterColor} (h : prepared.finalColor layout beamTargetId = some final)
    (wheelStates : Int → WheelTargetState)
    : final = composedColor ctx.platform d.wheelLayers
        (dirty.foldl (ctx.nextColor marks d.resources layout wheels) update).base wheelStates
        beamTargetId := by
  obtain ⟨index, target, slot, htarget, rfl, hslot, hchanged, hwheels, rfl, hlater⟩ :=
    finalColor_eq_some h
  obtain ⟨hindex, hevaluated⟩ := hserves.color?_eq_some htarget hslot
  have hnone : d.wheelLayers target.target.beamRenderTargetId = [] := by
    rw [← List.isEmpty_iff, ← hevaluated.noWheels, hwheels]
  unfold composedColor
  rw [base_of_last wheels hascending hindex htarget hevaluated hchanged, hnone,
    hevaluated.final hchanged hwheels]
  . rfl
  . intro other hother hlt target' htarget' hchanged' hbeam
    obtain ⟨slot', hslot', hevaluated'⟩ := hserves.color other hother target' htarget'
    apply hlater other hlt target' slot' htarget' hbeam hslot'
    rw [hevaluated'.changed, hevaluated'.noWheels, hbeam, hnone]
    exact ⟨hchanged', rfl⟩

theorem composeColors_prepared {d : Definitions} {layout : ColorLayout} {wheels : WheelLayout}
    {dirty : List Nat} {prepared : Option PreparedSlots} {update colors : ColorUpdate}
    (hcolors : colors = dirty.foldl (ctx.nextColor marks d.resources layout wheels) update)
    (hserves : ∀ slots, prepared = some slots →
      slots.Serves ctx marks d layout update.inputs dirty)
    (hascending : dirty.Pairwise (fun a b => a < b)) (wheelStates : Int → WheelTargetState)
    (held : Int32 → CookedEmitterColor) (dirtyTargets : List Int32)
    : composeColors ctx.platform layout d.wheelLayers prepared colors.base wheelStates held
          dirtyTargets
        = composeColors ctx.platform layout d.wheelLayers none colors.base wheelStates held
          dirtyTargets := by
  cases prepared with
  | none => rfl
  | some slots =>
    unfold composeColors
    dsimp only
    congr 2
    funext beamTargetId
    rw [Option.bind_some, Option.bind_none, Option.getD_none]
    cases hfinal : slots.finalColor layout beamTargetId with
    | none => rfl
    | some final =>
      rw [hcolors]
      exact finalColor_eq (hserves slots rfl) hascending wheels hfinal wheelStates

/-! ### The domains of a universe -/

theorem PrefetchAgrees.injectSources {visited : List Nat} {prepared : Option PreparedSlots}
    (hsources : ∀ slots, prepared = some slots → ∀ source slot, slots.source? source = some slot →
      slot.value = ctx.value source)
    : Coupled (PrefetchAgrees ctx Q marks visited) Eq (injectSources none) (injectSources prepared) := by
  intro s t h
  have hs : Filled ctx Q s.workspace (Runtime.injectSources none s).2 := by
    rw [injectSources_none]
    exact ⟨h.left, SameStamps.refl _⟩
  have ht := (Filled.injectSources hsources t ⟨h.right, SameStamps.refl _⟩).2
  exact ⟨rfl, hs.cached, ht.cached, h.update.of_stamps hs.stamps ht.stamps⟩

/-- What an update leaves of the inputs: the targets that it visits have a value for each. -/
structure Refreshed (layout : ColorLayout) (dirty : List Nat) (inputs inputs' : ColorInputs)
    : Prop where
  visited : ∀ index ∈ dirty, ∀ (target : ColorTargetRuntime),
    layout.targets[index]? = some target → ∀ entry ∈ target.inputs.zipIdx,
      (inputs' index entry.2).initialized = true
  others : ∀ index, index ∉ dirty → inputs' index = inputs index

theorem PrefetchAgrees.updateDomains {p : Platform} {layout : UniverseLayout} {frame : List UInt8}
    {visited : List Nat} {prepared : Option PreparedSlots} (hlayout : layout.Within Q)
    (d : Definitions) (now : ℚ) (held : HeldState) (colorInputs : ColorInputs)
    (out : SectionedVisualFrame)
    (hsources : ∀ slots, prepared = some slots → ∀ source slot, slots.source? source = some slot →
      slot.value = SourceContext.value ⟨p, frame, layout.plan⟩ source)
    (hserves : ∀ slots, prepared = some slots →
      slots.Serves ⟨p, frame, layout.plan⟩ marks d layout.colors colorInputs
        (indicesIn .color (visited.map layout.plan.consumer)))
    (hascending : (indicesIn .color (visited.map layout.plan.consumer)).Pairwise
      (fun a b => a < b))
    : Coupled (PrefetchAgrees ⟨p, frame, layout.plan⟩ Q marks visited)
        (fun update update' => update' = update ∧ Refreshed layout.colors
          (indicesIn .color (visited.map layout.plan.consumer)) colorInputs update.colorInputs)
        (updateDomains p d layout none now frame held colorInputs out)
        (updateDomains p d layout prepared now frame held colorInputs out) := by
  have h : Alike (PrefetchAgrees ⟨p, frame, layout.plan⟩ Q marks visited) ⟨p, frame, layout.plan⟩ Q :=
    PrefetchAgrees.alike
  apply (PrefetchAgrees.injectSources hsources).bind_eq
  intro _
  refine Coupled.bind (Q := fun dirty dirty' => dirty' = dirty
    ∧ dirty = visited.map layout.plan.consumer) ?_ ?_
  . intro s t hst
    simp only [dirtyConsumers, hst.update.left.visit, hst.update.right.visit, and_self, true_and]
    exact hst
  intro dirty dirty' hdirty
  rw [hdirty.1, hdirty.2]
  apply (h.evaluateShutters hlayout.shutters now held.shutters out _).bind_eq
  intro shutters
  apply (h.updateGoboSelections hlayout.gobos d.goboAsset held.gobos _).bind_eq
  intro gobos
  apply (h.updateGoboMotions hlayout.motions now gobos.1 _).bind_eq
  intro motions
  apply (h.updateProperties hlayout.properties d.tables held.properties _).bind_eq
  intro properties
  refine (PrefetchAgrees.updateColors hlayout.colors (d := d) ?_ (hascending.imp Nat.ne_of_lt)
    layout.wheels).bind ?_
  . exact hserves
  intro colors colors' hcolors
  rw [hcolors.1]
  apply (h.updateWheels hlayout.wheels d.palettes held.wheels _).bind_eq
  intro wheels
  have hcompose := composeColors_prepared hcolors.2 hserves hascending wheels.states held.colors
    (colors.dirtyTargets ++ wheels.dirtyTargets)
  dsimp only at hcompose ⊢
  rw [hcompose]
  apply Coupled.pure
  refine ⟨rfl, ?_, ?_⟩
  . intro index hindex target htarget entry hentry
    change (colors.inputs index entry.2).initialized = true
    rw [hcolors.2]
    exact SourceContext.initialized_foldl_nextColor hindex htarget hentry
  . intro index hindex
    change colors.inputs index = colorInputs index
    rw [hcolors.2, SourceContext.inputs_foldl_nextColor hindex]

end Peraviz.Runtime
