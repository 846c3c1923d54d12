import Peraviz.Presentation.RenderState.Dense
import Peraviz.Runtime.Domains.Rules

/-!
This module contains the bookkeeping of the held lighting state: in every reachable state the dirty
list has an output once while its mask is pending and not at all otherwise, and what is rejected
leaves the state alone.
-/

namespace Peraviz.Presentation.DensePresentationState

open Peraviz.Runtime

/-- With `tracked`, the dirty list has exactly the outputs with a pending mask, each of them once. -/
structure Tracks (s : DensePresentationState) : Prop where
  nodup : s.dirty.Nodup
  pending : ∀ index ∈ s.dirty, s.pendingMask index ≠ 0

variable {s : DensePresentationState}

theorem Tracks.count (h : s.Tracks) (index : Nat)
    : s.dirty.count index = if s.pendingMask index = 0 then 0 else 1 := by
  split
  next hzero =>
    apply List.count_eq_zero.mpr
    intro hmem
    exact h.pending index hmem hzero
  next hmask => exact List.count_eq_one_of_mem h.nodup (s.tracked index hmask)

theorem tracks_init : Tracks {} := by
  constructor
  . exact List.nodup_nil
  . intro index hmem
    cases hmem

theorem Tracks.write (h : s.Tracks) {index : Nat} (hindex : index < s.states.length)
    {state : OutputState} (hmask : state.mask ≠ 0) : (s.write index state).Tracks := by
  have hmasks : ∀ other, (s.write index state).pendingMask other
      = if index = other then state.mask else s.pendingMask other := by
    intro other
    simp only [pendingMask, DensePresentationState.state, DensePresentationState.write,
      List.getD_eq_getElem?_getD, List.getElem?_set]
    split
    . rfl
    . rfl
  constructor
  . simp only [DensePresentationState.write]
    split
    next hclean =>
      rw [List.nodup_append]
      refine ⟨h.nodup, List.nodup_singleton index, ?_⟩
      intro a ha b hb hab
      rw [List.mem_singleton.mp hb] at hab
      rw [hab] at ha
      exact h.pending index ha hclean
    next => exact h.nodup
  . intro other hmem
    rw [hmasks]
    split
    . exact hmask
    next hne =>
      apply h.pending
      simp only [DensePresentationState.write] at hmem
      split at hmem
      . cases List.mem_append.mp hmem with
        | inl hold => exact hold
        | inr hnew => exact absurd (List.mem_singleton.mp hnew).symm hne
      . exact hmem

theorem Tracks.of_eq {s' : DensePresentationState} (h : s.Tracks) (hdirty : s'.dirty = s.dirty)
    (hstates : s'.states = s.states) : s'.Tracks := by
  constructor
  . rw [hdirty]
    exact h.nodup
  . intro index hmem
    rw [hdirty] at hmem
    simp only [pendingMask, DensePresentationState.state, hstates]
    exact h.pending index hmem

theorem Tracks.noteCandidate (h : s.Tracks) : s.noteCandidate.Tracks := by
  unfold DensePresentationState.noteCandidate
  split
  . exact h.of_eq rfl rfl
  . exact h

theorem Tracks.noteHighWater (h : s.Tracks) : s.noteHighWater.Tracks := by
  unfold DensePresentationState.noteHighWater
  split
  . exact h.of_eq rfl rfl
  . exact h

theorem noteCandidate_states : s.noteCandidate.states = s.states := by
  unfold noteCandidate
  split
  . rfl
  . rfl

theorem or_ne_zero {a b : UInt32} (h : b ≠ 0) : a ||| b ≠ 0 := by
  intro hzero
  apply h
  have hnat := congrArg UInt32.toNat hzero
  rw [UInt32.toNat_or] at hnat
  have hright : b.toNat ≤ a.toNat ||| b.toNat := Nat.right_le_or
  apply UInt32.toNat_inj.mp
  have hzeroNat : (0 : UInt32).toNat = 0 := rfl
  omega

theorem sectionMask_ne_zero (lightingSection : Int32) : sectionMask lightingSection ≠ 0 := by
  unfold sectionMask
  split
  . decide
  . split
    . decide
    . decide

/-! ### The operations -/

theorem Tracks.update (h : s.Tracks) (generation : UInt64) (index : Nat) (lightingSection : Int32)
    (mask : UInt32) (v : List ℚ) : (s.update generation index lightingSection mask v).1.Tracks := by
  unfold DensePresentationState.update
  split
  . exact h
  next haccepted =>
    have hindex : index < s.noteCandidate.states.length := by
      rw [noteCandidate_states]
      exact Nat.not_le.mp (fun hle => haccepted (Or.inr (Or.inl hle)))
    apply Tracks.noteHighWater
    apply h.noteCandidate.write hindex
    exact or_ne_zero (or_ne_zero (sectionMask_ne_zero lightingSection))

theorem Tracks.updateFloats (h : s.Tracks) (generation : UInt64) (index : Nat)
    (lightingSection : Int32) (mask : UInt32) (v : Option (List CallerFloat))
    : (s.updateFloats generation index lightingSection mask v).1.Tracks := by
  unfold DensePresentationState.updateFloats
  split
  . exact h
  . exact h.update generation index lightingSection mask _

theorem Tracks.updateTargetFloats (h : s.Tracks) (generation : UInt64)
    (lightingSection target : Int32) (mask : UInt32) (v : Option (List CallerFloat))
    : (s.updateTargetFloats generation lightingSection target mask v).1.Tracks := by
  unfold DensePresentationState.updateTargetFloats
  split
  . exact h
  . split
    . exact h
    . apply List.foldl_keeps (I := fun result : DensePresentationState × Bool => result.1.Tracks)
      . intro index _ result hresult
        exact hresult.updateFloats generation index lightingSection mask v
      . exact h

theorem Tracks.composeRowFloats (h : s.Tracks) (generation : UInt64) (integers : List Int32)
    (floats : List CallerFloat) (d : SectionDescriptor) (row : Nat)
    : (composeRowFloats generation integers floats d s row).Tracks := by
  unfold DensePresentationState.composeRowFloats
  dsimp only
  split
  . apply h.updateTargetFloats
  . exact Tracks.of_eq (h.updateTargetFloats generation d.sectionType _ _ _) rfl rfl

theorem Tracks.composeSectionFloats (h : s.Tracks) (generation : UInt64) (integers : List Int32)
    (floats : List CallerFloat) (d : SectionDescriptor)
    : (composeSectionFloats generation integers floats s d).Tracks := by
  unfold DensePresentationState.composeSectionFloats
  split
  . apply List.foldl_keeps (I := Tracks)
    . intro row _ s hs
      exact hs.composeRowFloats generation integers floats d row
    . exact h
  . exact h

theorem Tracks.composeBuffers (h : s.Tracks) (generation : UInt64)
    (descriptors integers : CallerBuffer Int32) (floats : CallerBuffer CallerFloat)
    : (s.composeBuffers generation descriptors integers floats).1.Tracks := by
  unfold DensePresentationState.composeBuffers
  dsimp only
  split
  . exact h
  . split
    . exact h
    . apply List.foldl_keeps (I := Tracks)
      . intro d _ s hs
        exact hs.composeSectionFloats generation integers.items floats.items d
      . exact h.of_eq rfl rfl

theorem Tracks.invalidateRenderer (h : s.Tracks) : s.invalidateRenderer.Tracks := by
  unfold DensePresentationState.invalidateRenderer
  apply Tracks.noteHighWater
  have hkeeps : ((List.range s.states.length).foldl (fun s index =>
      (s.write index { s.state index with
        mask := (s.state index).mask ||| VisualChangeBeamTopology }).noteCandidate) s).Tracks
      ∧ ((List.range s.states.length).foldl (fun s index =>
        (s.write index { s.state index with
          mask := (s.state index).mask ||| VisualChangeBeamTopology }).noteCandidate)
        s).states.length = s.states.length := by
    apply List.foldl_keeps (I := fun s' : DensePresentationState =>
      s'.Tracks ∧ s'.states.length = s.states.length)
    . intro index hindex s' hs'
      rw [List.mem_range, ← hs'.2] at hindex
      constructor
      . apply Tracks.noteCandidate
        apply hs'.1.write hindex
        exact or_ne_zero (by decide)
      . rw [noteCandidate_states, DensePresentationState.write, List.length_set]
        exact hs'.2
    . exact ⟨h, rfl⟩
  exact hkeeps.1

theorem Tracks.finishSnapshot (h : s.Tracks) (generation : UInt64)
    : (s.finishSnapshot generation).Tracks := by
  unfold DensePresentationState.finishSnapshot
  split
  . exact h
  . constructor
    . exact List.nodup_nil
    . intro index hmem
      cases hmem

theorem Tracks.install (h : s.Tracks) (fresh : UInt64) (outputs : List OutputBinding)
    (targets : List TargetBinding) : (s.install fresh outputs targets).1.Tracks := by
  unfold DensePresentationState.install
  split
  . exact h
  . split
    . exact h
    . constructor
      . exact List.nodup_nil
      . intro index hmem
        cases hmem

theorem Tracks.apply (h : s.Tracks) (operation : Operation) : (s.apply operation).1.Tracks := by
  cases operation with
  | install fresh outputs targets =>
    simp only [DensePresentationState.apply, installOutputs]
    split
    . exact h
    . exact h.install fresh _ targets
  | installGroups representatives =>
    simp only [DensePresentationState.apply, DensePresentationState.installGroups]
    split
    . apply Tracks.invalidateRenderer
      exact h.of_eq rfl rfl
    . exact h
  | invalidate => exact h.invalidateRenderer
  | update generation index lightingSection mask v =>
    exact h.updateFloats generation index lightingSection mask v
  | updateTarget generation lightingSection target mask v =>
    exact h.updateTargetFloats generation lightingSection target mask v
  | compose generation descriptors integers floats =>
    exact h.composeBuffers generation descriptors integers floats
  | finish generation => exact h.finishSnapshot generation
  | trace enabled => exact h.of_eq rfl rfl

theorem install_rejected {fresh : UInt64} {outputs : List OutputBinding}
    {targets : List TargetBinding} (hrejected : (s.install fresh outputs targets).2 = false)
    : (s.install fresh outputs targets).1 = s := by
  revert hrejected
  unfold install
  split
  . intro _
    rfl
  . split
    . intro _
      rfl
    . intro hrejected
      cases hrejected

theorem apply_rejected {operation : Operation} (hatomic : operation.Atomic)
    (hrejected : (s.apply operation).2 = false) : (s.apply operation).1 = s := by
  cases operation with
  | install fresh outputs targets =>
    simp only [DensePresentationState.apply, installOutputs] at hrejected ⊢
    cases hbindings : outputs.mapM RequestedOutput.binding with
    | none => rfl
    | some bindings =>
      rw [hbindings] at hrejected
      exact install_rejected hrejected
  | installGroups representatives =>
    revert hrejected
    simp only [DensePresentationState.apply, installGroups]
    split
    . intro hrejected
      cases hrejected
    . intro _
      rfl
  | compose generation descriptors integers floats =>
    revert hrejected
    simp only [DensePresentationState.apply, composeBuffers]
    split
    . intro _
      rfl
    . split
      . intro _
        rfl
      . intro hrejected
        cases hrejected
  | invalidate => cases hatomic
  | update => cases hatomic
  | updateTarget => cases hatomic
  | finish => cases hatomic
  | trace => cases hatomic

theorem tracks_run (operations : List Operation) : (runOperations operations).Tracks := by
  unfold runOperations
  apply List.foldl_keeps (I := Tracks)
  . intro operation _ s hs
    exact hs.apply operation
  . exact tracks_init

/--
After any operations the dirty list has an output once if its mask is pending and not at all if it
is zero, and an installation or a composition that is then rejected changes nothing.
-/
theorem run_tracks_dirty (operations : List Operation)
    : (∀ index, (runOperations operations).dirty.count index
          = if (runOperations operations).pendingMask index = 0 then 0 else 1)
        ∧ ∀ operation : Operation, operation.Atomic
          → ((runOperations operations).apply operation).2 = false
          → ((runOperations operations).apply operation).1 = runOperations operations := by
  constructor
  . intro index
    exact (tracks_run operations).count index
  . intro operation hatomic hrejected
    exact apply_rejected hatomic hrejected

/-- A section of one row whose last float is not finite is rejected as a whole. -/
theorem run_tracks_dirty_rejected
    : let operations := [Operation.install 1 [{ canonicalId := 1 }] [⟨2, 7, 0⟩],
        .update 1 0 3 0 (some [some 1, some 0, some 0, some 1])]
      let section' := Operation.compose 1 (.filled [2, 1, 0, 0, 0]) (.filled [1, 7, 2])
        (.filled [some 1, some 1, some 1, some 1, none])
      ((runOperations operations).apply section').1 = runOperations operations :=
  (run_tracks_dirty _).2 _ trivial (by decide +kernel)

end Peraviz.Presentation.DensePresentationState
