import Peraviz.KeyedLog.Basic
import Peraviz.Presentation.AsyncPipeline.Snapshots
import Peraviz.Presentation.RenderState.Session
import Peraviz.Runtime.Domains.Rules

/-!
This module contains the proof that the rows of the snapshots are all that a reader needs: the
values that change are those of dirty outputs and of emitted rows.
-/

namespace Peraviz.Presentation

open Peraviz.Runtime
open KeyedLog

/-! ### What a composition changes -/

namespace DensePresentationState

/-- At most dirty outputs have changed. -/
structure Advances (s s' : DensePresentationState) : Prop where
  bindings : s'.bindings = s.bindings
  generation : s'.generation = s.generation
  dirty : ∀ index ∈ s.dirty, index ∈ s'.dirty
  clean : ∀ index, index ∉ s'.dirty → s'.state index = s.state index

variable {s s' s'' : DensePresentationState}

theorem Advances.refl (s : DensePresentationState) : s.Advances s :=
  ⟨rfl, rfl, fun _ h => h, fun _ _ => rfl⟩

theorem Advances.trans (h : s.Advances s') (h' : s'.Advances s'') : s.Advances s'' where
  bindings := h'.bindings.trans h.bindings
  generation := h'.generation.trans h.generation
  dirty index hmem := h'.dirty index (h.dirty index hmem)
  clean index hclean := by
    rw [h'.clean index hclean]
    apply h.clean
    exact fun hmem => hclean (h'.dirty index hmem)

theorem Advances.foldl {α : Type} {f : DensePresentationState → α → DensePresentationState}
    (h : ∀ (s : DensePresentationState) a, s.Advances (f s a)) (s : DensePresentationState) (l : List α)
    : s.Advances (l.foldl f s) := by
  induction l generalizing s with
  | nil => exact Advances.refl s
  | cons a l ih => exact (h s a).trans (ih (f s a))

theorem advances_write (s : DensePresentationState) (index : Nat) (state : OutputState)
    : s.Advances (s.write index state) := by
  refine ⟨rfl, rfl, ?_, ?_⟩
  . intro other hmem
    simp only [write]
    split
    . exact List.mem_append_left _ hmem
    . exact hmem
  . intro other hclean
    have hne : index ≠ other := by
      intro heq
      cases heq
      apply hclean
      simp only [write]
      split
      . simp
      next hpending => exact s.tracked index hpending
    simp only [DensePresentationState.state, write, List.getD_eq_getElem?_getD]
    rw [List.getElem?_set_ne hne]

theorem advances_noteCandidate (s : DensePresentationState) : s.Advances s.noteCandidate := by
  unfold noteCandidate
  split
  . exact ⟨rfl, rfl, fun _ h => h, fun _ _ => rfl⟩
  . exact Advances.refl s

theorem advances_noteHighWater (s : DensePresentationState) : s.Advances s.noteHighWater := by
  unfold noteHighWater
  split
  . exact ⟨rfl, rfl, fun _ h => h, fun _ _ => rfl⟩
  . exact Advances.refl s

theorem advances_update (s : DensePresentationState) (generation : UInt64) (index : Nat)
    (lightingSection : Int32) (mask : UInt32) (v : List ℚ)
    : s.Advances (s.update generation index lightingSection mask v).1 := by
  unfold update
  split
  . exact Advances.refl s
  . apply Advances.trans _ (advances_noteHighWater _)
    apply (advances_noteCandidate s).trans
    apply advances_write

theorem advances_updateTarget (s : DensePresentationState) (generation : UInt64)
    (lightingSection target : Int32) (mask : UInt32) (v : List ℚ)
    : s.Advances (s.updateTarget generation lightingSection target mask v).1 := by
  unfold updateTarget
  split
  . exact Advances.refl s
  . split
    . exact Advances.refl s
    next indices _ =>
      have hfold (result : DensePresentationState × Bool)
          : result.1.Advances (indices.foldl (fun result index =>
            let updated := result.1.update generation index lightingSection mask v
            (updated.1, updated.2 && result.2)) result).1 := by
        clear * -
        induction indices generalizing result with
        | nil => exact Advances.refl result.1
        | cons index indices ih =>
          obtain ⟨s, flag⟩ := result
          have hupdate := advances_update s generation index lightingSection mask v
          exact hupdate.trans (ih ((s.update generation index lightingSection mask v).1,
            (s.update generation index lightingSection mask v).2 && flag))
      exact hfold (s, true)

theorem advances_composeRow (generation : UInt64) (frame : SectionedVisualFrame)
    (d : SectionDescriptor) (s : DensePresentationState) (row : Nat)
    : s.Advances (composeRow generation frame d s row) := by
  unfold composeRow
  dsimp only
  split
  . apply advances_updateTarget
  . apply Advances.trans (advances_updateTarget s generation _ _ _ _)
    exact ⟨rfl, rfl, fun _ h => h, fun _ _ => rfl⟩

theorem advances_composeSection (generation : UInt64) (frame : SectionedVisualFrame)
    (s : DensePresentationState) (d : SectionDescriptor)
    : s.Advances (composeSection generation frame s d) := by
  unfold composeSection
  split
  . apply Advances.foldl
    apply advances_composeRow
  . exact Advances.refl s

theorem advances_composeSections (s : DensePresentationState) (generation : UInt64)
    (frame : SectionedVisualFrame)
    : s.Advances (s.composeSections generation frame).1 := by
  unfold composeSections
  dsimp only
  split
  . exact Advances.refl s
  . split
    . exact Advances.refl s
    . have hcounted : s.Advances { s with unresolvedRows := 0 } :=
        ⟨rfl, rfl, fun _ h => h, fun _ _ => rfl⟩
      apply hcounted.trans
      apply Advances.foldl
      apply advances_composeSection

/-! ### What an output displays -/

def physical (p : Platform) (s : DensePresentationState) : List RenderValues :=
  (List.range s.bindings.length).map (s.renderValues p)

theorem renderValues_congr {p : Platform} {index : Nat} (hbindings : s'.bindings = s.bindings)
    (hstate : (s'.state index).settled = (s.state index).settled)
    : s'.renderValues p index = s.renderValues p index := by
  simp only [OutputState.settled, OutputState.mk.injEq] at hstate
  simp only [renderValues, hbindings, hstate]

theorem settled_finishSnapshot (s : DensePresentationState) (generation : UInt64) (index : Nat)
    : ((s.finishSnapshot generation).state index).settled = (s.state index).settled := by
  unfold finishSnapshot
  split
  . rfl
  . simp only [DensePresentationState.state, List.getD_eq_getElem?_getD, getElem?_settle]
    split
    . cases s.states[index]? with
      | none => rfl
      | some state => rfl
    . rfl

theorem physical_finishSnapshot (p : Platform) (s : DensePresentationState) (generation : UInt64)
    : (s.finishSnapshot generation).physical p = s.physical p := by
  have hbindings : (s.finishSnapshot generation).bindings = s.bindings := by
    unfold finishSnapshot
    split
    . rfl
    . rfl
  unfold physical
  rw [hbindings]
  apply List.map_congr_left
  intro index _
  exact renderValues_congr hbindings (settled_finishSnapshot s generation index)

end DensePresentationState

/-! ### What the renderer was told last -/

namespace RenderGroupProjection

/-- The values that every row was emitted with last. -/
def emitted (t : RenderGroupProjection) : List RenderValues :=
  t.rows.map RenderRowAccumulator.previous

def renderLog (rows : List PreparedRenderRow) : List (Nat × RenderValues) :=
  rows.map (fun row => (row.index, row.values))

theorem emitted_set_of_previous {t : RenderGroupProjection} {index : Nat}
    {row : RenderRowAccumulator} (h : row.previous = (t.row index).previous)
    : (t.rows.set index row).map RenderRowAccumulator.previous = t.emitted := by
  unfold emitted
  rw [List.map_set, h]
  apply List.ext_getElem?
  intro other
  by_cases heq : index = other
  . rw [heq, List.getElem?_set]
    simp only [RenderGroupProjection.row, List.getD_eq_getElem?_getD, List.length_map, if_true]
    split
    next hlt => simp [List.getElem?_eq_getElem hlt]
    next hge => rw [List.getElem?_eq_none (by simpa using hge)]
  . rw [List.getElem?_set_ne heq]

theorem prepareMember_spec (p : Platform) (physical : DensePresentationState)
    (t : RenderGroupProjection) (index : Nat)
    : let t' := prepareMember p physical t index
      t'.emitted = t.emitted ∧ t'.prepared = t.prepared ∧ t'.members.length = t.members.length
        ∧ (index < t.members.length → t'.memberValues index = physical.renderValues p index)
        ∧ (∀ other, other ≠ index → t'.memberValues other = t.memberValues other) := by
  intro t'
  simp only [t', prepareMember]
  split
  next hge => exact ⟨rfl, rfl, rfl, fun hlt => absurd hlt (by omega), fun _ _ => rfl⟩
  next hlt =>
    split
    next hsame => exact ⟨rfl, rfl, rfl, fun _ => hsame.2.1, fun _ _ => rfl⟩
    next =>
      refine ⟨?_, rfl, List.length_set, ?_, ?_⟩
      . apply emitted_set_of_previous
        split
        . rfl
        . rfl
      . intro hlt
        simp [memberValues, contribution, hlt]
      . intro other hne
        simp only [memberValues, List.getD_eq_getElem?_getD]
        rw [List.getElem?_set_ne (Ne.symm hne)]

theorem prepareMembers_spec (p : Platform) (physical : DensePresentationState)
    (t : RenderGroupProjection) (indices : List Nat)
    : let t' := indices.foldl (prepareMember p physical) t
      t'.emitted = t.emitted ∧ t'.prepared = t.prepared ∧ t'.members.length = t.members.length
        ∧ ∀ index ∈ indices, index < t.members.length
          → t'.memberValues index = physical.renderValues p index := by
  induction indices using List.reverseRecOn with
  | nil => exact ⟨rfl, rfl, rfl, fun _ hmem => absurd hmem List.not_mem_nil⟩
  | append_singleton indices last ih =>
    simp only [List.foldl_append, List.foldl_cons, List.foldl_nil]
    have hlast := prepareMember_spec p physical (indices.foldl (prepareMember p physical) t) last
    refine ⟨hlast.1.trans ih.1, hlast.2.1.trans ih.2.1, hlast.2.2.1.trans ih.2.2.1, ?_⟩
    intro index hmem hlt
    by_cases heq : index = last
    . rw [heq] at hlt ⊢
      apply hlast.2.2.2.1
      rw [ih.2.2.1]
      exact hlt
    . rw [hlast.2.2.2.2 index heq]
      apply ih.2.2.2 index _ hlt
      cases List.mem_append.mp hmem with
      | inl hmem => exact hmem
      | inr hmem => exact absurd (List.mem_singleton.mp hmem) heq

theorem prepareRow_spec (p : Platform) (physical : DensePresentationState)
    (t : RenderGroupProjection) (index : Nat) {start : List RenderValues}
    (h : t.emitted = writeAll start (renderLog t.prepared))
    : let t' := prepareRow p physical t index
      t'.members = t.members ∧ t'.emitted = writeAll start (renderLog t'.prepared) := by
  simp only [prepareRow]
  generalize (if (t.row index).presentation = .aggregated then _ else _) = values
  split
  . refine ⟨rfl, ?_⟩
    simp only [renderLog, List.map_append, List.map_cons, List.map_nil]
    rw [writeAll_append, writeAll_singleton]
    change (List.set _ _ _).map _ = (writeAll start (renderLog t.prepared)).set index _
    rw [List.map_set, ← h]
    rfl
  . refine ⟨rfl, ?_⟩
    apply Eq.trans _ h
    exact @emitted_set_of_previous t index _ rfl

theorem prepareRows_spec (p : Platform) (physical : DensePresentationState)
    (t : RenderGroupProjection) (indices : List Nat) {start : List RenderValues}
    (h : t.emitted = writeAll start (renderLog t.prepared))
    : let t' := indices.foldl (prepareRow p physical) t
      t'.members = t.members ∧ t'.emitted = writeAll start (renderLog t'.prepared) := by
  induction indices generalizing t with
  | nil => exact ⟨rfl, h⟩
  | cons index indices ih =>
    have hrow := prepareRow_spec p physical t index h
    have hrest := ih (prepareRow p physical t index) hrow.2
    exact ⟨hrest.1.trans hrow.1, hrest.2⟩

theorem prepare_spec (p : Platform) (physical : DensePresentationState)
    (t : RenderGroupProjection)
    : let t' := t.prepare p physical
      t'.emitted = writeAll t.emitted (renderLog t'.prepared)
        ∧ ∀ index ∈ physical.dirty, index < t.members.length
          → t'.memberValues index = physical.renderValues p index := by
  have hmembers := prepareMembers_spec p physical { t with prepared := [], dirtyRows := [] }
    physical.dirty
  dsimp only at hmembers
  unfold prepare
  generalize physical.dirty.foldl (prepareMember p physical) _ = marked at hmembers ⊢
  obtain ⟨hemitted, hprepared, hlength, hvalues⟩ := hmembers
  have hstart : marked.emitted = writeAll t.emitted (renderLog marked.prepared) := by
    rw [hprepared]
    exact hemitted
  have hrows := prepareRows_spec p physical marked marked.dirtyRows hstart
  refine ⟨hrows.2, ?_⟩
  intro index hmem hlt
  have hsame := hvalues index hmem hlt
  unfold memberValues at hsame ⊢
  rw [hrows.1]
  exact hsame

end RenderGroupProjection

/-! ### Snapshots as deltas -/

def physicalLog (rows : List PreparedOutput) : List (Nat × RenderValues) :=
  rows.map (fun row => (row.index, row.values))

/-- What a reader displays: the values of the physical outputs, and those of the render rows. -/
structure Displayed where
  physical : List RenderValues
  rows : List RenderValues
  deriving DecidableEq

def Displayed.show (shown : Displayed) (snapshot : CompletedPresentationSnapshot) : Displayed where
  physical := writeAll shown.physical (physicalLog snapshot.physicalRows)
  rows := writeAll shown.rows (RenderGroupProjection.renderLog snapshot.renderRows)

def RenderSession.displayed (p : Platform) (r : RenderSession) : Displayed where
  physical := r.state.physical p
  rows := r.projection.emitted

theorem consumeDirect_eq_some {p : Platform} {now : ℚ} {core : Runtime.Core}
    {state : DensePresentationState} {projection : RenderGroupProjection} {generation : UInt64}
    {schemaGeneration : Int32} {result : DirectResult}
    (h : consumeDirect p now core state projection generation schemaGeneration = some result)
    : projection.members.length = state.bindings.length
        ∧ result.state = (state.composeSections generation result.frame).1
        ∧ result.projection = projection.prepare p result.state := by
  unfold consumeDirect at h
  split at h
  . cases h
  next hvalid =>
    dsimp only at h
    split at h
    . cases h
    . cases h
      refine ⟨?_, rfl, rfl⟩
      by_contra hlength
      exact hvalid (Or.inr (Or.inr hlength))

theorem writeAll_physicalRows {p : Platform} {now : ℚ} {core : Runtime.Core}
    {state : DensePresentationState} {projection : RenderGroupProjection} {generation : UInt64}
    {schemaGeneration : Int32} {result : DirectResult}
    (h : consumeDirect p now core state projection generation schemaGeneration = some result)
    : writeAll (state.physical p) (physicalLog (physicalRows result)) = result.state.physical p := by
  obtain ⟨hlength, hstate, hprojection⟩ := consumeDirect_eq_some h
  have hadvances := DensePresentationState.advances_composeSections state generation result.frame
  rw [← hstate] at hadvances
  apply writeAll_eq_of_changes
  . simp [DensePresentationState.physical, hadvances.bindings]
  . intro index values hentry hlt
    obtain ⟨row, hrow, heq⟩ := List.mem_map.mp hentry
    obtain ⟨dirty, hdirty, rfl⟩ := List.mem_map.mp hrow
    cases heq
    have hbound : dirty < state.bindings.length := by
      simpa [DensePresentationState.physical] using hlt
    have hvalues := (RenderGroupProjection.prepare_spec p result.state projection).2 dirty hdirty
      (by rw [hlength]; exact hbound)
    rw [hprojection, hvalues]
    simp [DensePresentationState.physical, hadvances.bindings, hbound]
  . intro index hlt hclean
    have hbound : index < state.bindings.length := by
      simpa [DensePresentationState.physical] using hlt
    have hdirty : index ∉ result.state.dirty := by
      intro hmem
      apply hclean
      simp only [physicalLog, physicalRows, List.map_map, List.mem_map]
      exact ⟨index, hmem, rfl⟩
    have hsame := DensePresentationState.renderValues_congr (p := p) hadvances.bindings
      (congrArg OutputState.settled (hadvances.clean index hdirty))
    simp [DensePresentationState.physical, hadvances.bindings, hbound, hsame]

theorem completeSection_rows (measured : Bool) (schema : VisualFrameSchema)
    (frame : SectionedVisualFrame) (snapshot : CompletedPresentationSnapshot)
    (d : SectionDescriptor)
    : (completeSection measured schema frame snapshot d).physicalRows = snapshot.physicalRows
        ∧ (completeSection measured schema frame snapshot d).renderRows = snapshot.renderRows := by
  unfold completeSection
  split
  . exact ⟨rfl, rfl⟩
  . dsimp only
    split
    . apply List.foldl_keeps
        (I := fun s : CompletedPresentationSnapshot => s.physicalRows = snapshot.physicalRows
          ∧ s.renderRows = snapshot.renderRows)
      . intro row _ s h
        exact h
      . exact ⟨rfl, rfl⟩
    . exact ⟨rfl, rfl⟩

theorem complete_rows (measured : Bool) (now : ℚ) (schemaGeneration : Int32) (binding : UInt64)
    (result : DirectResult)
    : (complete measured now schemaGeneration binding result).1.physicalRows = physicalRows result
        ∧ (complete measured now schemaGeneration binding result).1.renderRows
          = result.projection.prepared := by
  unfold complete
  apply List.foldl_keeps
    (I := fun s : CompletedPresentationSnapshot => s.physicalRows = physicalRows result
      ∧ s.renderRows = result.projection.prepared)
  . intro d _ s h
    have hsection := completeSection_rows measured result.core.schema result.frame s d
    exact ⟨hsection.1.trans h.1, hsection.2.trans h.2⟩
  . exact ⟨rfl, rfl⟩

theorem told (p : Platform) (conditions : Nat → RenderSession.Conditions)
    : AsyncPipeline.Told (RenderSession.pipelineCore p conditions)
        (fun c => c.presentation.displayed p) Displayed.show := by
  constructor
  . intro c universeId data
    change (Presented.submit c universeId data).presentation.displayed p = _
    unfold Presented.submit
    split
    . rfl
    . rfl
  . intro c c' snapshot hconsume
    obtain ⟨result, hresult, heq⟩ := Option.map_eq_some_iff.mp hconsume
    have hphysical := writeAll_physicalRows hresult
    have hprepared := (RenderGroupProjection.prepare_spec p result.state
      c.presentation.projection).1
    rw [← (consumeDirect_eq_some hresult).2.2] at hprepared
    have hrows := complete_rows (conditions c.presentation.completed).measured
      (conditions c.presentation.completed).completedAt c.presentation.schema
      c.presentation.binding result
    have hstate := DensePresentationState.physical_finishSnapshot p result.state
      c.presentation.binding
    cases heq
    simp only [RenderSession.displayed, Displayed.show, Displayed.mk.injEq]
    refine ⟨?_, ?_⟩
    . apply (hstate.trans hphysical.symm).trans
      exact congrArg (fun rows => writeAll (c.presentation.state.physical p) (physicalLog rows))
        hrows.1.symm
    . apply hprepared.trans
      exact congrArg (fun rows => writeAll c.presentation.projection.emitted
        (RenderGroupProjection.renderLog rows)) hrows.2.symm

/--
A reader who starts with the values at the start of the session and takes over the rows of the
acquired snapshots displays what there was when the last of them was completed.
-/
theorem acquired_snapshots_suffice (p : Platform) (conditions : Nat → RenderSession.Conditions)
    (c : Presented RenderSession) (events : List AsyncPipeline.Event)
    : let M := AsyncPipeline.machine (RenderSession.pipelineCore p conditions) c
      let seen := AsyncPipeline.acquired (M.trace M.init events)
      (∃ front, front <+: events ∧ AsyncPipeline.produced (M.trace M.init front) = seen)
        ∧ ∀ front, front <+: events → AsyncPipeline.produced (M.trace M.init front) = seen
          → AsyncPipeline.read Displayed.show (c.presentation.displayed p) seen
            = (M.run M.init front).core.presentation.displayed p := by
  have hread := AsyncPipeline.run_read (told p conditions) c events
  refine ⟨hread.1, ?_⟩
  intro front _ hfront
  exact hread.2 front hfront

end Peraviz.Presentation
