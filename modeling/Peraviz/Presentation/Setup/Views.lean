import Mathlib.Tactic.Tauto
import Peraviz.KeyedIndex.Basic
import Peraviz.Presentation.Setup.Types

/-!
This module contains the two ways in which the presentation setup reads a compiled scene: the
linear search through its tables and the setup index. A `BeamView` is what either of them finds
for one beam; the searches of the code that ask `index ? ... : ...` are its fields.
-/

namespace Peraviz.Presentation.Setup

open Peraviz.Runtime

section

variable {σ : Type} [Scalar σ]

structure PaletteProof where
  slots : List Int32 := []
  rejection : Option String := none

def isUnit (value : σ) : Bool :=
  Scalar.isFinite value && !Scalar.lt value Scalar.zero && !Scalar.lt Scalar.one value

def validateSlots (proof : PaletteProof) : List (CompiledWheelPaletteSlot σ) → PaletteProof
  | [] => proof
  | slot :: slots =>
    if slot.uniformColorPresentation = false ∨ slot.mediaFileName ≠ "" then
      { proof with rejection := some "wheel_unproven_or_patterned_slot" }
    else if slot.slotIndex ≤ 0 ∨ slot.slotIndex ∈ proof.slots then
      { proof with rejection := some "wheel_invalid_palette" }
    else if [slot.linearRed, slot.linearGreen, slot.linearBlue, slot.srgbRed, slot.srgbGreen,
        slot.srgbBlue, slot.gain].all isUnit = true then
      validateSlots { proof with slots := proof.slots ++ [slot.slotIndex] } slots
    else { proof with rejection := some "wheel_invalid_palette" }

def validatePalette (palette : CompiledWheelPalette σ) : PaletteProof :=
  validateSlots {} palette.slots

def ownedBy (fixtureId beamRenderTargetId : Int32) (beam : CompiledBeamOpticalProfile σ) : Bool :=
  (fixtureId ≤ 0 || fixtureId = beam.fixtureId) &&
    (beamRenderTargetId ≤ 0 || beamRenderTargetId = beam.renderTargetId)

def hasProjectorDependency (scene : CompiledRuntimeScene σ) (beam : CompiledBeamOpticalProfile σ)
    : Bool :=
  scene.goboBindings.any (fun b => ownedBy b.fixtureId b.beamRenderTargetId beam) ||
    scene.goboMotionBindings.any (fun b => ownedBy b.fixtureId b.beamRenderTargetId beam)

structure BeamView (σ : Type) where
  source : Int32 → Option (CompiledDmxSourceProgram σ)
  sourceCount : Int32 → Nat
  palette : Int32 → Option (CompiledWheelPalette σ × PaletteProof)
  paletteCount : Int32 → Nat
  properties : List CompiledComponentProperty
  colors : List (CompiledColorTargetProgram σ)
  bindings : List (CompiledWheelTargetBinding σ)
  projector : Bool

/-- The loops over properties, colors and bindings skip the entries of other beams. -/
def isProperty (beam : CompiledBeamOpticalProfile σ) (property : CompiledComponentProperty)
    : Bool :=
  property.fixtureId = beam.fixtureId

def isColor (beam : CompiledBeamOpticalProfile σ) (target : CompiledColorTargetProgram σ) : Bool :=
  target.fixtureId = beam.fixtureId && target.beamRenderTargetId = beam.renderTargetId

def isBinding (beam : CompiledBeamOpticalProfile σ) (binding : CompiledWheelTargetBinding σ)
    : Bool :=
  !(0 < binding.fixtureId && binding.fixtureId ≠ beam.fixtureId) &&
    !(0 < binding.beamRenderTargetId && binding.beamRenderTargetId ≠ beam.renderTargetId)

def referenceView (scene : CompiledRuntimeScene σ) (beam : CompiledBeamOpticalProfile σ)
    : BeamView σ where
  source id := scene.sourcePrograms.find? (fun p => p.programId = id)
  sourceCount id := scene.sourcePrograms.countP (fun p => p.programId = id)
  palette id := (scene.wheelPalettes.find? (fun p => p.wheelRendererId = id)).map
    (fun p => (p, validatePalette p))
  paletteCount id := scene.wheelPalettes.countP (fun p => p.wheelRendererId = id)
  properties := scene.properties.filter (isProperty beam)
  colors := scene.colorTargets.filter (isColor beam)
  bindings := scene.wheelBindings.filter (isBinding beam)
  projector := hasProjectorDependency scene beam

structure SetupIndex (σ : Type) where
  projectorOwners : List (Int32 × Int32)
  properties : Int32 → List CompiledComponentProperty
  colors : Int32 → List (CompiledColorTargetProgram σ)
  sources : Int32 → Option (CompiledDmxSourceProgram σ)
  sourceCounts : Int32 → Nat
  palettes : Int32 → Option (CompiledWheelPalette σ)
  paletteProofs : Int32 → Option PaletteProof
  paletteCounts : Int32 → Nat
  wheels : Int32 → Option (List (CompiledWheelTargetBinding σ))

def positivePart (x : Int32) : Int32 :=
  if 0 < x then x else 0

def projectorOwner (b : CompiledGoboBinding) : Int32 × Int32 :=
  (positivePart b.fixtureId, positivePart b.beamRenderTargetId)

/-- The bindings with their addresses, the order that the unresolved ones are merged by. -/
def addressedBindings (scene : CompiledRuntimeScene σ)
    : List (CompiledWheelTargetBinding σ × Nat) :=
  scene.wheelBindings.zipIdx

def ownedBindings (scene : CompiledRuntimeScene σ) : List (CompiledWheelTargetBinding σ × Nat) :=
  (addressedBindings scene).filter (fun b => 0 < b.1.fixtureId)

def unresolvedBindings (scene : CompiledRuntimeScene σ)
    : List (CompiledWheelTargetBinding σ × Nat) :=
  (addressedBindings scene).filter (fun b => !decide (0 < b.1.fixtureId))

/-- The fixtures with an entry: those of a binding and, if a binding is unresolved, those of a
beam. -/
def presentFixtures (scene : CompiledRuntimeScene σ) : List Int32 :=
  (ownedBindings scene).map (fun b => b.1.fixtureId) ++
    (if (unresolvedBindings scene).isEmpty then []
      else scene.beamProfiles.map (fun beam => beam.fixtureId))

def mergedBindings (scene : CompiledRuntimeScene σ) (fixtureId : Int32)
    : List (CompiledWheelTargetBinding σ × Nat) :=
  let bindings := KeyedIndex.group (fun b => b.1.fixtureId) (ownedBindings scene) fixtureId
  if (unresolvedBindings scene).isEmpty then bindings
  else (bindings ++ unresolvedBindings scene).mergeSort (fun a b => a.2 ≤ b.2)

def wheelsByFixture (scene : CompiledRuntimeScene σ) (fixtureId : Int32)
    : Option (List (CompiledWheelTargetBinding σ)) :=
  if fixtureId ∈ presentFixtures scene then
    some ((mergedBindings scene fixtureId).map Prod.fst)
  else none

def SetupIndex.ofScene (scene : CompiledRuntimeScene σ) : SetupIndex σ where
  projectorOwners :=
    scene.goboBindings.map projectorOwner ++ scene.goboMotionBindings.map projectorOwner
  properties := KeyedIndex.group (fun p => p.fixtureId) scene.properties
  colors := KeyedIndex.group (fun c => c.beamRenderTargetId) scene.colorTargets
  sources := KeyedIndex.firsts (fun p => p.programId) id scene.sourcePrograms
  sourceCounts := KeyedIndex.counts (fun p => p.programId) scene.sourcePrograms
  palettes := KeyedIndex.firsts (fun p => p.wheelRendererId) id scene.wheelPalettes
  paletteProofs := KeyedIndex.firsts (fun p => p.wheelRendererId) validatePalette
    scene.wheelPalettes
  paletteCounts := KeyedIndex.counts (fun p => p.wheelRendererId) scene.wheelPalettes
  wheels := wheelsByFixture scene

def SetupIndex.projector (index : SetupIndex σ) (beam : CompiledBeamOpticalProfile σ) : Bool :=
  (0, 0) ∈ index.projectorOwners || (0, beam.renderTargetId) ∈ index.projectorOwners ||
    (beam.fixtureId, 0) ∈ index.projectorOwners ||
    (beam.fixtureId, beam.renderTargetId) ∈ index.projectorOwners

def SetupIndex.view (index : SetupIndex σ) (beam : CompiledBeamOpticalProfile σ)
    : BeamView σ where
  source := index.sources
  sourceCount := index.sourceCounts
  palette id :=
    match index.palettes id, index.paletteProofs id with
    | some palette, some proof => some (palette, proof)
    | _, _ => none
  paletteCount := index.paletteCounts
  properties := (index.properties beam.fixtureId).filter (isProperty beam)
  colors := (index.colors beam.renderTargetId).filter (isColor beam)
  bindings := ((index.wheels beam.fixtureId).getD []).filter (isBinding beam)
  projector := index.projector beam

def viewOf (scene : CompiledRuntimeScene σ) (indexed : Bool)
    (beam : CompiledBeamOpticalProfile σ) : BeamView σ :=
  if indexed then (SetupIndex.ofScene scene).view beam else referenceView scene beam

theorem palette_view (scene : CompiledRuntimeScene σ) (beam : CompiledBeamOpticalProfile σ)
    : ((SetupIndex.ofScene scene).view beam).palette = (referenceView scene beam).palette := by
  funext id
  simp only [SetupIndex.view, SetupIndex.ofScene, referenceView, KeyedIndex.firsts_eq_find]
  cases scene.wheelPalettes.find? (fun p => p.wheelRendererId = id) with
  | none => rfl
  | some palette => rfl

theorem positivePart_iff (x y : Int32)
    : (x ≤ 0 ∨ x = y) ↔ (positivePart x = 0 ∨ positivePart x = y) := by
  rw [positivePart]
  split
  next hpos =>
    have hle : ¬ x ≤ 0 := Int32.not_le.mpr hpos
    have hne : x ≠ 0 := by
      rintro rfl
      exact absurd hpos (by decide)
    simp [hle, hne]
  next hpos => simp [Int32.not_lt.mp hpos]

omit [Scalar σ] in
theorem ownedBy_iff {b : CompiledGoboBinding} {beam : CompiledBeamOpticalProfile σ}
    : ownedBy b.fixtureId b.beamRenderTargetId beam = true ↔
      ((projectorOwner b = (0, 0) ∨ projectorOwner b = (0, beam.renderTargetId)) ∨
        projectorOwner b = (beam.fixtureId, 0)) ∨
        projectorOwner b = (beam.fixtureId, beam.renderTargetId) := by
  simp only [ownedBy, projectorOwner, Bool.and_eq_true, Bool.or_eq_true, decide_eq_true_eq,
    positivePart_iff, Prod.mk.injEq]
  tauto

theorem projector_view (scene : CompiledRuntimeScene σ) (beam : CompiledBeamOpticalProfile σ)
    : (SetupIndex.ofScene scene).projector beam = hasProjectorDependency scene beam := by
  rw [Bool.eq_iff_iff]
  simp only [SetupIndex.projector, SetupIndex.ofScene, hasProjectorDependency,
    Bool.or_eq_true, decide_eq_true_eq, ← List.map_append, List.mem_map, ← List.any_append,
    List.any_eq_true, ownedBy_iff, and_or_left, exists_or]

omit [Scalar σ] in
theorem sorted_addressedBindings (scene : CompiledRuntimeScene σ)
    : (addressedBindings scene).Pairwise (fun a b => a.2 < b.2) := by
  have hrange : ((addressedBindings scene).map Prod.snd).Pairwise (· < ·) := by
    rw [addressedBindings, List.zipIdx_map_snd]
    exact List.pairwise_lt_range'
  exact List.pairwise_map.mp hrange

omit [Scalar σ] in
-- Dropping the addresses from a part of the bindings leaves the part of the bindings.
theorem map_filter_addressedBindings (scene : CompiledRuntimeScene σ)
    (keep : CompiledWheelTargetBinding σ → Bool)
    : ((addressedBindings scene).filter (keep ∘ Prod.fst)).map Prod.fst
        =
      scene.wheelBindings.filter keep := by
  rw [← List.filter_map, addressedBindings, List.zipIdx_map_fst]

/-- The bindings that the index keeps for a fixture: its own ones and the unresolved ones. -/
def isIndexed (fixtureId : Int32) (binding : CompiledWheelTargetBinding σ) : Bool :=
  decide (0 < binding.fixtureId) && decide (binding.fixtureId = fixtureId) ||
    !decide (0 < binding.fixtureId)

omit [Scalar σ] in
theorem isIndexed_of_isBinding {beam : CompiledBeamOpticalProfile σ}
    {binding : CompiledWheelTargetBinding σ} (h : isBinding beam binding = true)
    : isIndexed beam.fixtureId binding = true := by
  simp only [isBinding, isIndexed, Bool.and_eq_true, Bool.not_eq_true', Bool.or_eq_true,
    Bool.and_eq_false_iff, decide_eq_true_eq, decide_eq_false_iff_not] at h ⊢
  tauto

omit [Scalar σ] in
theorem pos_of_resolved {scene : CompiledRuntimeScene σ}
    (h : (unresolvedBindings scene).isEmpty = true) {b : CompiledWheelTargetBinding σ × Nat}
    (hb : b ∈ addressedBindings scene)
    : 0 < b.1.fixtureId := by
  have := List.filter_eq_nil_iff.mp (List.isEmpty_iff.mp h) b hb
  simpa using this

omit [Scalar σ] in
theorem mergedBindings_eq (scene : CompiledRuntimeScene σ) (fixtureId : Int32)
    : mergedBindings scene fixtureId
        = (addressedBindings scene).filter (isIndexed fixtureId ∘ Prod.fst) := by
  simp only [mergedBindings, KeyedIndex.group_eq_filter, ownedBindings, List.filter_filter]
  split
  next hresolved =>
    apply List.filter_congr
    intro b hb
    simp [isIndexed, pos_of_resolved hresolved hb]
  next =>
    rw [unresolvedBindings, KeyedIndex.mergeSort_filter_append (sorted_addressedBindings scene)]
    . apply List.filter_congr
      intro b _
      simp [isIndexed, Bool.and_comm]
    . intro b _ hb
      simp only [Bool.and_eq_true, decide_eq_true_eq] at hb
      simp [hb.2]

omit [Scalar σ] in
theorem not_isIndexed_of_absent {scene : CompiledRuntimeScene σ}
    {beam : CompiledBeamOpticalProfile σ} (hbeam : beam ∈ scene.beamProfiles)
    (habsent : beam.fixtureId ∉ presentFixtures scene)
    {b : CompiledWheelTargetBinding σ × Nat} (hb : b ∈ addressedBindings scene)
    : isIndexed beam.fixtureId b.1 = false := by
  simp only [presentFixtures, List.mem_append, not_or] at habsent
  obtain ⟨howned, hbeams⟩ := habsent
  split at hbeams
  next hresolved =>
    have hpos := pos_of_resolved hresolved hb
    have hne : b.1.fixtureId ≠ beam.fixtureId := by
      intro heq
      apply howned
      rw [← heq]
      apply List.mem_map_of_mem
      exact List.mem_filter.mpr ⟨hb, decide_eq_true hpos⟩
    simp [isIndexed, hpos, hne]
  next => exact absurd (List.mem_map_of_mem hbeam) hbeams

omit [Scalar σ] in
theorem wheelsByFixture_eq {scene : CompiledRuntimeScene σ}
    {beam : CompiledBeamOpticalProfile σ} (hbeam : beam ∈ scene.beamProfiles)
    : (wheelsByFixture scene beam.fixtureId).getD []
        =
      scene.wheelBindings.filter (isIndexed beam.fixtureId) := by
  rw [← map_filter_addressedBindings, wheelsByFixture]
  split
  next => rw [Option.getD_some, mergedBindings_eq]
  next habsent =>
    symm
    rw [Option.getD_none, List.map_eq_nil_iff, List.filter_eq_nil_iff]
    intro b hb
    simp [not_isIndexed_of_absent hbeam habsent hb]

omit [Scalar σ] in
theorem filter_wheelsByFixture {scene : CompiledRuntimeScene σ}
    {beam : CompiledBeamOpticalProfile σ} (hbeam : beam ∈ scene.beamProfiles)
    : ((wheelsByFixture scene beam.fixtureId).getD []).filter (isBinding beam)
        =
      scene.wheelBindings.filter (isBinding beam) := by
  rw [wheelsByFixture_eq hbeam, List.filter_filter]
  apply List.filter_congr
  intro binding _
  cases h : isBinding beam binding with
  | true => simp [isIndexed_of_isBinding h]
  | false => rfl

theorem viewOf_indexed {scene : CompiledRuntimeScene σ} {beam : CompiledBeamOpticalProfile σ}
    (hbeam : beam ∈ scene.beamProfiles)
    : viewOf scene true beam = viewOf scene false beam := by
  simp only [viewOf, if_true, Bool.false_eq_true, if_false]
  rw [referenceView, SetupIndex.view, BeamView.mk.injEq]
  refine ⟨?_, ?_, palette_view scene beam, ?_, ?_, ?_, filter_wheelsByFixture hbeam,
    projector_view scene beam⟩
  . funext id
    simp [SetupIndex.ofScene, KeyedIndex.firsts_eq_find]
  . funext id
    simp [SetupIndex.ofScene, KeyedIndex.counts_eq_countP]
  . funext id
    simp [SetupIndex.ofScene, KeyedIndex.counts_eq_countP]
  . simp only [SetupIndex.ofScene, KeyedIndex.group_eq_filter, List.filter_filter]
    apply List.filter_congr
    simp [isProperty]
  . simp only [SetupIndex.ofScene, KeyedIndex.group_eq_filter, List.filter_filter]
    apply List.filter_congr
    intro target _
    simp only [isColor]
    cases decide (target.beamRenderTargetId = beam.renderTargetId) <;> simp

end

end Peraviz.Presentation.Setup
