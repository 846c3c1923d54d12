import Peraviz.Presentation.RenderState.Emission

/-!
This module contains the invariant of a lighting state and its projection: the projection has seen
what the state showed at the last projection, and every row was emitted with what that gives.
-/

namespace Peraviz.Presentation

open Peraviz.Runtime
open Setup (RenderPresentationClass)

/-! ### The lighting state -/

namespace DensePresentationState

variable {s : DensePresentationState}

theorem advances_updateFloats (s : DensePresentationState) (generation : UInt64) (index : Nat)
    (lightingSection : Int32) (mask : UInt32) (v : Option (List CallerFloat))
    : s.Advances (s.updateFloats generation index lightingSection mask v).1 := by
  unfold updateFloats
  split
  . exact Advances.refl s
  . apply advances_update

theorem advances_updateTargetFloats (s : DensePresentationState) (generation : UInt64)
    (lightingSection target : Int32) (mask : UInt32) (v : Option (List CallerFloat))
    : s.Advances (s.updateTargetFloats generation lightingSection target mask v).1 := by
  unfold updateTargetFloats
  split
  . exact Advances.refl s
  . split
    . exact Advances.refl s
    . apply List.foldl_keeps (I := fun result : DensePresentationState × Bool =>
        s.Advances result.1)
      . intro index _ result hresult
        exact hresult.trans (advances_updateFloats result.1 generation index lightingSection mask v)
      . exact Advances.refl s

theorem advances_composeRowFloats (generation : UInt64) (integers : List Int32)
    (floats : List CallerFloat) (d : SectionDescriptor) (s : DensePresentationState) (row : Nat)
    : s.Advances (composeRowFloats generation integers floats d s row) := by
  unfold composeRowFloats
  dsimp only
  split
  . apply advances_updateTargetFloats
  . apply Advances.trans (advances_updateTargetFloats s generation _ _ _ _)
    exact ⟨rfl, rfl, fun _ h => h, fun _ _ => rfl⟩

theorem advances_composeBuffers (s : DensePresentationState) (generation : UInt64)
    (descriptors integers : CallerBuffer Int32) (floats : CallerBuffer CallerFloat)
    : s.Advances (s.composeBuffers generation descriptors integers floats).1 := by
  unfold composeBuffers
  dsimp only
  split
  . exact Advances.refl s
  . split
    . exact Advances.refl s
    . have hcounted : s.Advances { s with unresolvedRows := 0 } :=
        ⟨rfl, rfl, fun _ h => h, fun _ _ => rfl⟩
      apply hcounted.trans
      apply Advances.foldl
      intro s d
      unfold composeSectionFloats
      split
      . apply Advances.foldl
        apply advances_composeRowFloats
      . exact Advances.refl s

theorem advances_apply (s : DensePresentationState) {operation : Operation}
    (h : operation.Writes) : s.Advances (s.apply operation).1 := by
  cases operation with
  | update => apply advances_updateFloats
  | updateTarget => apply advances_updateTargetFloats
  | compose => apply advances_composeBuffers
  | trace => exact ⟨rfl, rfl, fun _ h => h, fun _ _ => rfl⟩
  | install => cases h
  | installGroups => cases h
  | invalidate => cases h
  | finish => cases h

theorem Advances.states_length {s' : DensePresentationState} (h : s.Advances s')
    : s'.states.length = s.states.length := by
  rw [s'.sized, s.sized, h.bindings]

theorem Advances.renderValues {s' : DensePresentationState} (h : s.Advances s') (p : Platform)
    {index : Nat} (hclean : index ∉ s'.dirty)
    : s'.renderValues p index = s.renderValues p index :=
  renderValues_congr h.bindings (congrArg OutputState.settled (h.clean index hclean))

theorem Tracks.lt (h : s.Tracks) {index : Nat} (hdirty : index ∈ s.dirty)
    : index < s.states.length := by
  by_contra hge
  apply h.pending index hdirty
  rw [pendingMask, DensePresentationState.state, List.getD_eq_getElem?_getD,
    List.getElem?_eq_none (Nat.not_lt.mp hge)]
  rfl

def replayOutput (s : DensePresentationState) (index : Nat) : DensePresentationState :=
  (s.write index { s.state index with
    mask := (s.state index).mask ||| VisualChangeBeamTopology }).noteCandidate

theorem invalidateRenderer_eq (s : DensePresentationState)
    : s.invalidateRenderer
        = ((List.range s.states.length).foldl replayOutput s).noteHighWater := rfl

theorem advances_replayOutput (s : DensePresentationState) (index : Nat)
    : s.Advances (s.replayOutput index) :=
  (advances_write s index _).trans (advances_noteCandidate _)

theorem advances_invalidateRenderer (s : DensePresentationState)
    : s.Advances s.invalidateRenderer :=
  (Advances.foldl advances_replayOutput s _).trans (advances_noteHighWater _)

theorem mem_dirty_replayOutput (s : DensePresentationState) (index : Nat)
    : index ∈ (s.replayOutput index).dirty := by
  apply (advances_noteCandidate _).dirty
  simp only [write]
  split
  . exact List.mem_append_right _ (List.mem_singleton_self index)
  next hpending => exact s.tracked index hpending

theorem mem_dirty_invalidateRenderer (s : DensePresentationState) {index : Nat}
    (hindex : index < s.states.length) : index ∈ s.invalidateRenderer.dirty := by
  have hupTo : ∀ n, ∀ i < n, i ∈ ((List.range n).foldl replayOutput s).dirty := by
    intro n
    induction n with
    | zero => exact fun i hi => absurd hi (Nat.not_lt_zero i)
    | succ n ih =>
      intro i hi
      rw [List.range_succ, List.foldl_concat]
      cases Nat.lt_or_eq_of_le (Nat.le_of_lt_succ hi) with
      | inl hlt => exact (advances_replayOutput _ n).dirty i (ih i hlt)
      | inr heq =>
        rw [heq]
        apply mem_dirty_replayOutput
  rw [invalidateRenderer_eq]
  exact (advances_noteHighWater _).dirty index (hupTo _ index hindex)

theorem settled_write {index : Nat} {state : OutputState}
    (h : state.settled = (s.state index).settled) (other : Nat)
    : ((s.write index state).state other).settled = (s.state other).settled := by
  simp only [DensePresentationState.state, write, List.getD_eq_getElem?_getD, List.getElem?_set]
  split
  next heq =>
    split
    next hlt =>
      rw [← heq]
      simpa [DensePresentationState.state, hlt] using h
    next hge => rw [List.getElem?_eq_none (by rw [← heq]; exact Nat.not_lt.mp hge)]
  next => rfl

theorem settled_invalidateRenderer (s : DensePresentationState) (index : Nat)
    : (s.invalidateRenderer.state index).settled = (s.state index).settled := by
  have hnote : ∀ s : DensePresentationState, s.noteHighWater.state index = s.state index := by
    intro s
    unfold noteHighWater
    split
    . rfl
    . rfl
  have hcandidate : ∀ s : DensePresentationState, s.noteCandidate.state index = s.state index := by
    intro s
    unfold noteCandidate
    split
    . rfl
    . rfl
  rw [invalidateRenderer_eq, hnote]
  apply List.foldl_keeps (I := fun s' : DensePresentationState =>
    (s'.state index).settled = (s.state index).settled)
  . intro i _ s' hs'
    rw [replayOutput, hcandidate]
    refine (settled_write ?_ index).trans hs'
    rfl
  . rfl

theorem renderValues_invalidateRenderer (p : Platform) (s : DensePresentationState) (index : Nat)
    : s.invalidateRenderer.renderValues p index = s.renderValues p index :=
  renderValues_congr (advances_invalidateRenderer s).bindings (settled_invalidateRenderer s index)

end DensePresentationState
/-! ### The invariant -/

/-- What a row shows of the values that the projection has seen, a dark one holds its chromaticity. -/
def RenderRowAccumulator.shown (p : Platform) (seen : Nat → RenderValues)
    (row : RenderRowAccumulator) : RenderValues :=
  if row.presentation = .aggregated then
    { row with committed := true }.aggregate p (seen row.representative)
  else
    seen row.representative

namespace RenderPair

/-- `seen` is what the outputs showed at the last projection. -/
structure Coherent (p : Platform) (pair : RenderPair) (seen : Nat → RenderValues) : Prop where
  tracks : pair.physical.Tracks
  exact : pair.projection.Exact p
  idle : pair.projection.Idle
  representative : ∀ r < pair.projection.rows.length,
    (pair.projection.row r).representative = pair.projection.physicalToRow.idxOf r
      ∧ r ∈ pair.projection.physicalToRow
  inside : ∀ i, (pair.projection.member i).valid → i < pair.physical.states.length
  values : ∀ i, (pair.projection.member i).valid → (pair.projection.member i).values = seen i
  clean : ∀ i, i ∉ pair.physical.dirty → pair.physical.renderValues p i = seen i
  untouched : ∀ i < pair.projection.members.length, i ∉ pair.physical.dirty
    → (pair.projection.member i).valid = false → (pair.physical.state i).settled = {}
  committed : ∀ r, (pair.projection.row r).committed → (lastEmitted pair.log r).isSome
  shown : ∀ r v, lastEmitted pair.log r = some v
    → (pair.projection.row r).previous = v ∧ v = (pair.projection.row r).shown p seen
  emitted : ∀ r, (lastEmitted pair.log r).isSome
    → ∃ i ∈ rowMembers pair.projection.physicalToRow r, (pair.projection.member i).valid
  pending : ∀ r, (pair.projection.row r).committed = false
    → ∀ i ∈ rowMembers pair.projection.physicalToRow r, (pair.projection.member i).valid
    → i ∈ pair.physical.dirty

variable {p : Platform} {pair : RenderPair} {seen : Nat → RenderValues}

theorem Coherent.write (h : pair.Coherent p seen) {operation : DensePresentationState.Operation}
    (hwrites : operation.Writes) : (pair.step p (.write operation hwrites)).Coherent p seen := by
  have hadvances := DensePresentationState.advances_apply pair.physical hwrites
  have hclean : ∀ i, i ∉ (pair.physical.apply operation).1.dirty → i ∉ pair.physical.dirty :=
    fun i hi hdirty => hi (hadvances.dirty i hdirty)
  exact {
    h with
    tracks := h.tracks.apply operation
    inside := fun i hi => by
      change i < (pair.physical.apply operation).1.states.length
      rw [hadvances.states_length]
      exact h.inside i hi
    clean := fun i hi => (hadvances.renderValues p hi).trans (h.clean i (hclean i hi))
    untouched := fun i hlt hi hunseen =>
      (congrArg OutputState.settled (hadvances.clean i hi)).trans
        (h.untouched i hlt (hclean i hi) hunseen)
    pending := fun r hr i hi hvalid => hadvances.dirty i (h.pending r hr i hi hvalid)
  }

theorem row_invalidate (t : RenderGroupProjection) (r : Nat)
    : t.invalidate.row r = { t.row r with committed := false } := by
  simp only [RenderGroupProjection.row, RenderGroupProjection.invalidate,
    List.getD_eq_getElem?_getD, List.getElem?_map]
  cases t.rows[r]? with
  | none => rfl
  | some row => rfl

theorem shown_invalidate (t : RenderGroupProjection) (r : Nat)
    : (t.invalidate.row r).shown p seen = (t.row r).shown p seen := by
  rw [row_invalidate]
  rfl

theorem exact_invalidate {t : RenderGroupProjection} (h : t.Exact p) : t.invalidate.Exact p where
  lengths := h.lengths
  mapped i hi := Nat.lt_of_lt_of_eq (h.mapped i hi) (List.length_map _).symm
  scratch := h.scratch
  sums r hr := by
    rw [row_invalidate] at hr ⊢
    exact h.sums r hr

theorem Coherent.invalidate (h : pair.Coherent p seen)
    : (pair.step p .invalidate).Coherent p seen := by
  have hadvances := DensePresentationState.advances_invalidateRenderer pair.physical
  have hclean : ∀ i, i ∉ pair.physical.invalidateRenderer.dirty → i ∉ pair.physical.dirty :=
    fun i hi hdirty => hi (hadvances.dirty i hdirty)
  constructor
  . exact h.tracks.invalidateRenderer
  . exact exact_invalidate h.exact
  . intro r
    change (pair.projection.invalidate.row r).mask = 0
    rw [row_invalidate]
    exact h.idle r
  . intro r hr
    change (pair.projection.invalidate.row r).representative = _ ∧ _
    rw [row_invalidate]
    exact h.representative r (Nat.lt_of_lt_of_eq hr (List.length_map _))
  . intro i hi
    change i < pair.physical.invalidateRenderer.states.length
    rw [hadvances.states_length]
    exact h.inside i hi
  . exact h.values
  . intro i hi
    exact (hadvances.renderValues p hi).trans (h.clean i (hclean i hi))
  . intro i hlt hi hunseen
    exact (DensePresentationState.settled_invalidateRenderer pair.physical i).trans
      (h.untouched i hlt (hclean i hi) hunseen)
  . intro r hr
    change (pair.projection.invalidate.row r).committed = true at hr
    rw [row_invalidate] at hr
    cases hr
  . intro r v hv
    change (pair.projection.invalidate.row r).previous = v
      ∧ v = (pair.projection.invalidate.row r).shown p seen
    rw [shown_invalidate, row_invalidate]
    exact h.shown r v hv
  . exact h.emitted
  . intro r _ i _ hvalid
    exact DensePresentationState.mem_dirty_invalidateRenderer pair.physical (h.inside i hvalid)

/-! ### A projection -/

section Prepare

open RenderGroupProjection

abbrev between (p : Platform) (pair : RenderPair) : RenderGroupProjection :=
  pair.projection.marked p pair.physical

theorem member_of_le {t : RenderGroupProjection} {i : Nat} (h : t.members.length ≤ i)
    : t.member i = {} := by
  rw [member, List.getD_eq_getElem?_getD, List.getElem?_eq_none h, Option.getD_none]

theorem Coherent.marking (h : pair.Coherent p seen)
    : Marking p pair.physical pair.projection.opened (pair.between p) pair.physical.dirty :=
  (marking_marked h.exact h.idle).1

theorem Coherent.emitting (h : pair.Coherent p seen)
    : Emitting p pair.physical (pair.between p) (pair.prepare p).projection
        (pair.between p).dirtyRows :=
  emitting_prepare h.exact h.idle

theorem Coherent.member_prepare (h : pair.Coherent p seen) (i : Nat)
    : (pair.prepare p).projection.member i = (pair.between p).member i := by
  rw [member, h.emitting.members]
  rfl

theorem Coherent.mapping_prepare (h : pair.Coherent p seen)
    : (pair.prepare p).projection.physicalToRow = pair.projection.physicalToRow :=
  h.emitting.mapping.trans h.marking.mapping

theorem Coherent.values_prepare (h : pair.Coherent p seen) {i : Nat}
    (hvalid : ((pair.prepare p).projection.member i).valid)
    : ((pair.prepare p).projection.member i).values = pair.physical.renderValues p i
        ∧ i < pair.physical.states.length := by
  rw [h.member_prepare] at hvalid ⊢
  by_cases hdirty : i ∈ pair.physical.dirty
  . refine ⟨?_, h.tracks.lt hdirty⟩
    cases Nat.lt_or_ge i pair.projection.members.length with
    | inl hlt => exact (h.marking.seen i hdirty hlt).2
    | inr hge =>
      rw [member_of_le (by rw [h.marking.membersLength]; exact hge)] at hvalid
      cases hvalid
  . rw [h.marking.kept i hdirty] at hvalid ⊢
    exact ⟨(h.values i hvalid).trans (h.clean i hdirty).symm, h.inside i hvalid⟩

theorem Coherent.valid_prepare (h : pair.Coherent p seen) {i : Nat}
    (hseen : (pair.projection.member i).valid
      ∨ (i ∈ pair.physical.dirty ∧ i < pair.projection.members.length))
    : ((pair.prepare p).projection.member i).valid := by
  rw [h.member_prepare]
  have hdirtyCase : i ∈ pair.physical.dirty → i < pair.projection.members.length
      → ((pair.between p).member i).valid := fun hdirty hlt => (h.marking.seen i hdirty hlt).1
  cases hseen with
  | inr hboth => exact hdirtyCase hboth.1 hboth.2
  | inl hvalid =>
    by_cases hdirty : i ∈ pair.physical.dirty
    . apply hdirtyCase hdirty
      by_contra hge
      rw [member_of_le (Nat.not_lt.mp hge)] at hvalid
      cases hvalid
    . rw [h.marking.kept i hdirty]
      exact hvalid

theorem Coherent.row_prepare_dirty (h : pair.Coherent p seen) {r : Nat}
    (hr : r ∈ (pair.between p).dirtyRows)
    : (pair.prepare p).projection.row r = ((pair.between p).row r).settle
        (((pair.between p).row r).drawn p pair.physical) := by
  rw [h.emitting.row, if_pos hr]

theorem Coherent.row_prepare_clean (h : pair.Coherent p seen) {r : Nat}
    (hr : r ∉ (pair.between p).dirtyRows)
    : (pair.prepare p).projection.row r = pair.projection.row r := by
  rw [h.emitting.row, if_neg hr]
  exact h.marking.clean r hr

theorem Coherent.lastEmitted_prepare (h : pair.Coherent p seen) (r : Nat)
    : lastEmitted (pair.prepare p).log r
        = (if r ∈ (pair.between p).dirtyRows
            ∧ Emits ((pair.between p).row r) (((pair.between p).row r).drawn p pair.physical) then
          some (((pair.between p).row r).drawn p pair.physical)
        else
          none).or (lastEmitted pair.log r) := by
  change lastEmitted (pair.log ++ renderLog (pair.prepare p).projection.prepared) r = _
  rw [lastEmitted_append, h.emitting.prepared, h.marking.prepared]
  rw [show pair.projection.opened.prepared = [] from rfl, List.nil_append,
    lastEmitted_emissions h.marking.nodup]

theorem Coherent.lastEmitted_dirty (h : pair.Coherent p seen) {r : Nat}
    (hr : r ∈ (pair.between p).dirtyRows)
    : lastEmitted (pair.prepare p).log r
        = some (((pair.between p).row r).drawn p pair.physical) := by
  rw [h.lastEmitted_prepare]
  split
  . rfl
  next hquiet =>
    have hnot : ¬ Emits ((pair.between p).row r)
        (((pair.between p).row r).drawn p pair.physical) := fun hemits => hquiet ⟨hr, hemits⟩
    unfold Emits at hnot
    rw [not_or, not_or, Bool.not_eq_true', Bool.not_eq_false, not_not] at hnot
    have hsame := h.marking.same r
    have hcommitted : (pair.projection.row r).committed = true :=
      hsame.committed.symm.trans hnot.1
    obtain ⟨v, hv⟩ := Option.isSome_iff_exists.mp (h.committed r hcommitted)
    have hprevious : (pair.projection.row r).previous
        = ((pair.between p).row r).drawn p pair.physical := hsame.previous.symm.trans hnot.2.1
    rw [Option.none_or, hv, ← (h.shown r v hv).1, hprevious]

theorem Coherent.lastEmitted_clean (h : pair.Coherent p seen) {r : Nat}
    (hr : r ∉ (pair.between p).dirtyRows)
    : lastEmitted (pair.prepare p).log r = lastEmitted pair.log r := by
  rw [h.lastEmitted_prepare, if_neg (fun hboth => hr hboth.1), Option.none_or]

theorem Coherent.committed_prepare (h : pair.Coherent p seen) {r i : Nat}
    (hi : i ∈ rowMembers pair.projection.physicalToRow r)
    (hvalid : ((pair.prepare p).projection.member i).valid)
    : ((pair.prepare p).projection.row r).committed = true := by
  by_cases hr : r ∈ (pair.between p).dirtyRows
  . rw [h.row_prepare_dirty hr]
    rfl
  . rw [h.row_prepare_clean hr]
    by_contra huncommitted
    have huncommitted := Bool.eq_false_iff.mpr huncommitted
    obtain ⟨hlt, hrow⟩ := mem_rowMembers.mp hi
    rw [← h.exact.lengths] at hlt
    by_cases hdirty : i ∈ pair.physical.dirty
    . apply hr
      have hforced := h.marking.forced i hdirty hlt
      change (pair.projection.row (pair.projection.physicalToRow.getD i 0)).committed = false
        → pair.projection.physicalToRow.getD i 0 ∈ _ at hforced
      rw [hrow] at hforced
      exact hforced huncommitted
    . rw [h.member_prepare, h.marking.kept i hdirty] at hvalid
      exact hdirty (h.pending r huncommitted i hi hvalid)

theorem Coherent.representative_clean (h : pair.Coherent p seen) {r : Nat}
    (hr : r ∉ (pair.between p).dirtyRows) (hlt : r < pair.projection.rows.length)
    : pair.physical.renderValues p (pair.projection.row r).representative
        = seen (pair.projection.row r).representative := by
  obtain ⟨hrepresentative, hmem⟩ := h.representative r hlt
  rw [hrepresentative]
  by_cases hdirty : pair.projection.physicalToRow.idxOf r ∈ pair.physical.dirty
  . have hindex := List.idxOf_lt_length_of_mem hmem
    have hrow : pair.projection.physicalToRow.getD (pair.projection.physicalToRow.idxOf r) 0 = r := by
      rw [List.getD_eq_getElem?_getD, List.getElem?_eq_getElem hindex, List.getElem_idxOf]
      rfl
    rw [← h.exact.lengths] at hindex
    have hpassed := h.marking.passed _ hdirty hindex
    change pair.projection.physicalToRow.getD _ 0 ∉ _
      → (pair.projection.member _).valid = true ∧ (pair.projection.member _).values = _ at hpassed
    rw [hrow] at hpassed
    obtain ⟨hvalid, hvalues⟩ := hpassed hr
    rw [← hvalues]
    exact h.values _ hvalid
  . exact h.clean _ hdirty

theorem shown_settle (row : RenderRowAccumulator)
    : (row.settle (row.drawn p pair.physical)).shown p (pair.physical.renderValues p)
        = row.drawn p pair.physical := by
  unfold RenderRowAccumulator.shown RenderRowAccumulator.drawn RenderRowAccumulator.settle
  dsimp only
  split
  . unfold RenderRowAccumulator.aggregate
    dsimp only
    simp only [if_true, RenderValues.mk.injEq, true_and, and_true]
    refine ⟨?_, ?_, ?_⟩
    . split
      . rfl
      . rfl
    . split
      . rfl
      . rfl
    . split
      . rfl
      . rfl
  . rfl

theorem Coherent.shown_prepare (h : pair.Coherent p seen) {r : Nat} {v : RenderValues}
    (hv : lastEmitted (pair.prepare p).log r = some v)
    : ((pair.prepare p).projection.row r).previous = v
        ∧ v = ((pair.prepare p).projection.row r).shown p (pair.physical.renderValues p) := by
  by_cases hr : r ∈ (pair.between p).dirtyRows
  . rw [h.lastEmitted_dirty hr] at hv
    rw [h.row_prepare_dirty hr, ← Option.some.inj hv, shown_settle]
    exact ⟨rfl, rfl⟩
  . rw [h.lastEmitted_clean hr] at hv
    rw [h.row_prepare_clean hr]
    obtain ⟨hprevious, hshown⟩ := h.shown r v hv
    obtain ⟨i, hi, _⟩ := h.emitted r (by rw [hv]; rfl)
    obtain ⟨hindex, hrow⟩ := mem_rowMembers.mp hi
    have hlt := h.exact.mapped i hindex
    rw [hrow] at hlt
    refine ⟨hprevious, ?_⟩
    unfold RenderRowAccumulator.shown at hshown ⊢
    rw [h.representative_clean hr hlt]
    exact hshown

theorem Coherent.prepare (h : pair.Coherent p seen)
    : (pair.prepare p).Coherent p (pair.physical.renderValues p) := by
  constructor
  . exact h.tracks
  . exact h.exact.prepare h.idle
  . exact Idle.prepare h.exact h.idle
  . intro r hr
    have hlength : (pair.prepare p).projection.rows.length = pair.projection.rows.length :=
      h.emitting.rowsLength.trans h.marking.rowsLength
    rw [hlength] at hr
    rw [h.mapping_prepare]
    have hrepresentative := h.representative r hr
    by_cases hmem : r ∈ (pair.between p).dirtyRows
    . rw [h.row_prepare_dirty hmem]
      exact ⟨(h.marking.same r).representative.trans hrepresentative.1, hrepresentative.2⟩
    . rw [h.row_prepare_clean hmem]
      exact hrepresentative
  . intro i hi
    exact (h.values_prepare hi).2
  . intro i hi
    exact (h.values_prepare hi).1
  . intro i _
    rfl
  . intro i hlt hdirty hunseen
    rw [h.member_prepare, h.marking.kept i hdirty] at hunseen
    apply h.untouched i _ hdirty hunseen
    rw [h.emitting.members, h.marking.membersLength] at hlt
    exact hlt
  . intro r hr
    by_cases hmem : r ∈ (pair.between p).dirtyRows
    . rw [h.lastEmitted_dirty hmem]
      rfl
    . rw [h.row_prepare_clean hmem] at hr
      rw [h.lastEmitted_clean hmem]
      exact h.committed r hr
  . intro r v hv
    exact h.shown_prepare hv
  . intro r hr
    rw [h.mapping_prepare]
    by_cases hmem : r ∈ (pair.between p).dirtyRows
    . obtain ⟨i, hlt, hdirty, hrow⟩ := h.marking.source r hmem
      refine ⟨i, mem_rowMembers.mpr ⟨?_, hrow⟩, h.valid_prepare (Or.inr ⟨hdirty, hlt⟩)⟩
      rw [← h.exact.lengths]
      exact hlt
    . rw [h.lastEmitted_clean hmem] at hr
      obtain ⟨i, hi, hvalid⟩ := h.emitted r hr
      exact ⟨i, hi, h.valid_prepare (Or.inl hvalid)⟩
  . intro r huncommitted i hi hvalid
    rw [h.mapping_prepare] at hi
    rw [h.committed_prepare hi hvalid] at huncommitted
    cases huncommitted

theorem Coherent.snapshot (h : pair.Coherent p seen) (generation : UInt64)
    : (pair.step p (.snapshot generation)).Coherent p (pair.physical.renderValues p) := by
  have hprepared := h.prepare
  have hbindings : (pair.physical.finishSnapshot generation).bindings = pair.physical.bindings := by
    unfold DensePresentationState.finishSnapshot
    split
    . rfl
    . rfl
  have hlength : (pair.physical.finishSnapshot generation).states.length
      = pair.physical.states.length := by
    rw [(pair.physical.finishSnapshot generation).sized, pair.physical.sized, hbindings]
  exact {
    hprepared with
    tracks := h.tracks.finishSnapshot generation
    inside := fun i hi => Nat.lt_of_lt_of_eq (hprepared.inside i hi) hlength.symm
    clean := fun i _ => DensePresentationState.renderValues_congr hbindings
      (DensePresentationState.settled_finishSnapshot pair.physical generation i)
    untouched := fun i hlt _ hunseen => by
      change (((pair.physical.finishSnapshot generation).state i)).settled = {}
      rw [DensePresentationState.settled_finishSnapshot]
      apply hprepared.untouched i hlt _ hunseen
      intro hdirty
      have hsame : (pair.prepare p).projection.members.length = pair.projection.members.length := by
        rw [h.emitting.members]
        exact h.marking.membersLength
      have hmembers : i < pair.projection.members.length := Nat.lt_of_lt_of_eq hlt hsame
      change ((pair.prepare p).projection.member i).valid = false at hunseen
      rw [h.valid_prepare (Or.inr ⟨hdirty, hmembers⟩)] at hunseen
      cases hunseen
    pending := fun r huncommitted i hi hvalid => by
      change ((pair.prepare p).projection.row r).committed = false at huncommitted
      change i ∈ rowMembers (pair.prepare p).projection.physicalToRow r at hi
      rw [h.mapping_prepare] at hi
      rw [h.committed_prepare hi hvalid] at huncommitted
      cases huncommitted
  }

end Prepare

/-! ### Runs -/

theorem Coherent.step (h : pair.Coherent p seen) (operation : RenderOperation)
    : ∃ seen, (pair.step p operation).Coherent p seen := by
  cases operation with
  | write operation hwrites => exact ⟨seen, h.write hwrites⟩
  | invalidate => exact ⟨seen, h.invalidate⟩
  | prepare => exact ⟨_, h.prepare⟩
  | snapshot generation => exact ⟨_, h.snapshot generation⟩

theorem Coherent.run (h : pair.Coherent p seen) (operations : List RenderOperation)
    : ∃ seen, (pair.run p operations).Coherent p seen := by
  induction operations generalizing pair seen with
  | nil => exact ⟨seen, h⟩
  | cons operation operations ih =>
    obtain ⟨seen, hstep⟩ := h.step operation
    exact ih hstep

/-! ### The start -/

theorem install_physical {s physical : DensePresentationState} {fresh : UInt64}
    {outputs : List RequestedOutput} {targets : List TargetBinding}
    (h : DensePresentationState.installOutputs s fresh outputs targets = (physical, true))
    : physical.dirty = [] ∧ ∀ i, (physical.state i).settled = {} := by
  unfold DensePresentationState.installOutputs at h
  split at h
  . cases h
  . unfold DensePresentationState.install at h
    split at h
    . cases h
    . split at h
      . cases h
      . cases h
        refine ⟨rfl, ?_⟩
        intro i
        simp only [DensePresentationState.state, List.getD_eq_getElem?_getD, List.getElem?_replicate]
        split
        . rfl
        . rfl

theorem mem_of_validClasses {mapping : List Nat} {classes : List RenderPresentationClass}
    (h : RenderGroupProjection.validClasses mapping classes = true) {r : Nat}
    (hr : r < classes.length) : r ∈ mapping := by
  unfold RenderGroupProjection.validClasses at h
  rw [Bool.and_eq_true, List.all_eq_true, List.all_eq_true] at h
  have hclass := h.2 r (List.mem_range.mpr hr)
  have hcount : mapping.countP (· == r) ≠ 0 := by
    intro hzero
    dsimp only at hclass
    rw [hzero] at hclass
    split at hclass
    . cases hclass
    . cases hclass
    . cases hclass
  obtain ⟨row, hrow, heq⟩ := List.countP_pos_iff.mp (Nat.pos_of_ne_zero hcount)
  rw [← beq_iff_eq.mp heq]
  exact hrow

theorem row_install {t projection : RenderGroupProjection} {mapping : List Nat}
    {classes : List RenderPresentationClass} (h : t.install mapping classes = (projection, true))
    : RenderGroupProjection.validClasses mapping classes = true
        ∧ projection.physicalToRow = mapping
        ∧ projection.members = List.replicate mapping.length {}
        ∧ projection.rows.length = classes.length
        ∧ (∀ r < classes.length, projection.row r = {
          representative := mapping.idxOf r
          presentation := classes.getD r .individual })
        ∧ ∀ r, classes.length ≤ r → projection.row r = {} := by
  unfold RenderGroupProjection.install at h
  split at h
  next hvalid =>
    cases h
    refine ⟨hvalid, rfl, rfl, by simp, ?_, ?_⟩
    . intro r hr
      simp [RenderGroupProjection.row, List.getD_eq_getElem?_getD, hr]
    . intro r hr
      rw [RenderGroupProjection.row, List.getD_eq_getElem?_getD, List.getElem?_eq_none (by simpa)]
      rfl
  next => cases h

theorem Installed.coherent (h : pair.Installed)
    : pair.Coherent p (pair.physical.renderValues p) := by
  obtain ⟨⟨s, fresh, outputs, targets, hphysical⟩, ⟨t, mapping, classes, hinstall⟩, hlog⟩ := h
  obtain ⟨hdirty, huntouched⟩ := install_physical hphysical
  obtain ⟨hvalid, hmapping, hmembers, hlength, hrow, hnone⟩ := row_install hinstall
  have hmember : ∀ i, pair.projection.member i = {} := by
    intro i
    rw [RenderGroupProjection.member, hmembers, List.getD_eq_getElem?_getD, List.getElem?_replicate]
    split
    . rfl
    . rfl
  have hfresh : ∀ r, (pair.projection.row r).mask = 0 ∧ (pair.projection.row r).sums = 0
      ∧ (pair.projection.row r).committed = false := by
    intro r
    cases Nat.lt_or_ge r classes.length with
    | inl hlt =>
      rw [hrow r hlt]
      exact ⟨rfl, rfl, rfl⟩
    | inr hge =>
      rw [hnone r hge]
      exact ⟨rfl, rfl, rfl⟩
  constructor
  . constructor
    . rw [hdirty]
      exact List.nodup_nil
    . rw [hdirty]
      intro i hi
      cases hi
  . constructor
    . rw [hmembers, hmapping, List.length_replicate]
    . rw [hmapping, hlength]
      intro i hi
      unfold RenderGroupProjection.validClasses at hvalid
      rw [Bool.and_eq_true, List.all_eq_true] at hvalid
      rw [List.getD_eq_getElem?_getD, List.getElem?_eq_getElem hi]
      exact of_decide_eq_true (hvalid.1 _ (List.getElem_mem hi))
    . intro i
      rw [hmember]
      rfl
    . intro r _
      simp only [hmember]
      rw [(hfresh r).2.1]
      exact (Finset.sum_eq_zero (fun _ _ => rfl)).symm
  . intro r
    exact (hfresh r).1
  . intro r hr
    rw [hlength] at hr
    rw [hrow r hr, hmapping]
    exact ⟨rfl, mem_of_validClasses hvalid hr⟩
  . intro i hi
    rw [hmember] at hi
    cases hi
  . intro i hi
    rw [hmember] at hi
    cases hi
  . intro i _
    rfl
  . intro i _ _ _
    exact huntouched i
  . intro r hr
    rw [(hfresh r).2.2] at hr
    cases hr
  . intro r v hv
    rw [hlog] at hv
    cases hv
  . intro r hr
    rw [hlog] at hr
    cases hr
  . intro r _ i _ hvalidMember
    rw [hmember] at hvalidMember
    cases hvalidMember

end RenderPair
end Peraviz.Presentation
