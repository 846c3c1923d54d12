import Peraviz.Presentation.Setup.RenderPartition
import Mathlib.Analysis.Complex.Trigonometric
import Mathlib.Analysis.Real.Sqrt

/-!
This module contains the geometry of the aggregated groups in exact real arithmetic: who is in one
group, and that its aperture encloses the apertures of its members.
-/

namespace Peraviz.Presentation.Setup

open Peraviz.Runtime

/-- The bits of a number, by which the shutters are compared. Exact arithmetic leaves them open. -/
class RealBits where
  bits : ℝ → Int

open Classical in
noncomputable instance exactScalar [RealBits] : SpatialScalar ℝ where
  zero := 0
  one := 1
  isFinite _ := true
  lt a b := decide (a < b)
  eq a b := decide (a = b)
  bits := RealBits.bits
  ofRat q := q
  le a b := decide (a ≤ b)
  add a b := a + b
  sub a b := a - b
  mul a b := a * b
  div a b := a / b
  sqrt := Real.sqrt
  abs a := |a|
  cos := Real.cos

noncomputable def distance (a b : EmitterVector ℝ) : ℝ :=
  Real.sqrt ((a.1 - b.1) ^ 2 + (a.2.1 - b.2.1) ^ 2 + (a.2.2 - b.2.2) ^ 2)

variable [RealBits]

/-! ### The laws of exact arithmetic that are used -/

theorem maxOf_eq_max (a b : ℝ) : maxOf a b = max a b := by
  change (if decide (a < b) = true then b else a) = max a b
  rw [max_def_lt]
  simp

theorem dot_comm (a b : EmitterVector ℝ) : dot a b = dot b a := by
  change a.1 * b.1 + a.2.1 * b.2.1 + a.2.2 * b.2.2 = b.1 * a.1 + b.2.1 * a.2.1 + b.2.2 * a.2.2
  rw [mul_comm a.1, mul_comm a.2.1, mul_comm a.2.2]

theorem isNear_comm (a b : ℝ) : isNear a b = isNear b a := by
  change decide (|a - b| ≤ _) = decide (|b - a| ≤ _)
  rw [abs_sub_comm]

theorem length_offsetFrom (origin : EmitterVector ℝ) (e : Emitter ℝ)
    : length (offsetFrom origin e) = distance e.2.origin origin := by
  have hpart : ∀ a b : ℝ, (a + b * ((-1 : ℚ) : ℝ)) * (a + b * ((-1 : ℚ) : ℝ)) = (a - b) ^ 2 := by
    intro a b
    push_cast
    ring
  change Real.sqrt _ = Real.sqrt _
  apply congrArg
  exact congrArg₂ _ (congrArg₂ _ (hpart _ _) (hpart _ _)) (hpart _ _)

theorem isPositive_iff (a : ℝ) : isPositive a = true ↔ 0 < a := by
  change (true && !decide (a ≤ ((0 : ℚ) : ℝ))) = true ↔ 0 < a
  simp

/-! ### A maximum over the members -/

theorem foldl_maxOf (size : Emitter ℝ → ℝ) (candidate : List (Emitter ℝ)) (start : ℝ)
    : let largest := candidate.foldl (fun largest e => maxOf largest (size e)) start
      start ≤ largest ∧ (∀ e ∈ candidate, size e ≤ largest)
        ∧ (largest = start ∨ ∃ e ∈ candidate, largest = size e) := by
  induction candidate generalizing start with
  | nil => exact ⟨le_refl start, by simp, Or.inl rfl⟩
  | cons first candidate ih =>
    obtain ⟨hstart, hmembers, hreached⟩ := ih (maxOf start (size first))
    have hmax := maxOf_eq_max start (size first)
    have hleft : start ≤ maxOf start (size first) := hmax ▸ le_max_left _ _
    have hright : size first ≤ maxOf start (size first) := hmax ▸ le_max_right _ _
    refine ⟨le_trans hleft hstart, ?_, ?_⟩
    . intro e he
      cases List.mem_cons.mp he with
      | inl heq =>
        rw [heq]
        exact le_trans hright hstart
      | inr hmem => exact hmembers e hmem
    . cases hreached with
      | inl hkept =>
        cases max_choice start (size first) with
        | inl hchoice => exact Or.inl (hkept.trans (hmax.trans hchoice))
        | inr hchoice => exact Or.inr ⟨first, List.mem_cons_self, hkept.trans (hmax.trans hchoice)⟩
      | inr hmember =>
        obtain ⟨e, he, heq⟩ := hmember
        exact Or.inr ⟨e, List.mem_cons_of_mem _ he, heq⟩

theorem le_largestOf {size : Emitter ℝ → ℝ} {candidate : List (Emitter ℝ)} {e : Emitter ℝ}
    (he : e ∈ candidate) : size e ≤ largestOf size candidate :=
  (foldl_maxOf size candidate _).2.1 e he

theorem exists_largestOf {size : Emitter ℝ → ℝ} {candidate : List (Emitter ℝ)}
    (hnonempty : candidate ≠ []) (hpositive : ∀ e ∈ candidate, 0 < size e)
    : ∃ e ∈ candidate, largestOf size candidate = size e := by
  obtain ⟨_, hmembers, hreached⟩ := foldl_maxOf size candidate (SpatialScalar.ofRat 0)
  cases hreached with
  | inr hmember => exact hmember
  | inl hzero =>
    obtain ⟨e, he⟩ := List.exists_mem_of_ne_nil _ hnonempty
    have hsize := hmembers e he
    rw [hzero] at hsize
    have hzero : (SpatialScalar.ofRat 0 : ℝ) = 0 := Rat.cast_zero
    rw [hzero] at hsize
    exact absurd (hpositive e he) (not_lt.mpr hsize)

/-! ### Compatible emitters -/

theorem compatible_comm (scene : CompiledRuntimeScene ℝ) (indexed : Bool) {a b : Emitter ℝ}
    (h : compatible scene indexed a b = true) : compatible scene indexed b a = true := by
  have hcolor : ∀ x y : ℝ, Scalar.eq x y = true → Scalar.eq y x = true := by
    intro x y heq
    have heq : decide (x = y) = true := heq
    exact decide_eq_true (of_decide_eq_true heq).symm
  simp only [compatible, Bool.and_eq_true, decide_eq_true_eq] at h ⊢
  obtain ⟨⟨⟨⟨⟨⟨⟨⟨⟨⟨⟨⟨⟨ha, hb⟩, hfixture⟩, hanchor⟩, hlineage⟩, hshutter⟩, htype⟩, hbeam⟩, hfield⟩,
    htemperature⟩, hbeamAngle⟩, hfieldAngle⟩, hzoom⟩, hdirection⟩ := h
  rw [isNear_comm] at hbeamAngle hfieldAngle
  rw [dot_comm] at hdirection
  exact ⟨⟨⟨⟨⟨⟨⟨⟨⟨⟨⟨⟨⟨hb, ha⟩, hfixture.symm⟩, hanchor.symm⟩, hlineage.symm⟩, hshutter.symm⟩,
    htype.symm⟩, hbeam.symm⟩, hfield.symm⟩, hcolor _ _ htemperature⟩, hbeamAngle⟩, hfieldAngle⟩,
    hzoom.symm⟩, hdirection⟩

theorem compatible_reliable {scene : CompiledRuntimeScene ℝ} {indexed : Bool} {a b : Emitter ℝ}
    (h : compatible scene indexed a b = true) : a.2.reliable = true := by
  simp only [compatible, Bool.and_eq_true] at h
  tauto

omit [RealBits] in
theorem exists_other {R : Emitter ℝ → Emitter ℝ → Prop} {part : List (Emitter ℝ)}
    (hsymmetric : ∀ a b, R a b → R b a) (h : part.Pairwise R) (hlength : 2 ≤ part.length)
    {e : Emitter ℝ} (he : e ∈ part) : ∃ other, R e other := by
  cases part with
  | nil => cases he
  | cons first rest =>
    obtain ⟨hfirst, _⟩ := List.pairwise_cons.mp h
    cases List.mem_cons.mp he with
    | inr hrest => exact ⟨first, hsymmetric _ _ (hfirst e hrest)⟩
    | inl heq =>
      cases rest with
      | nil => simp at hlength
      | cons second rest =>
        rw [heq]
        exact ⟨second, hfirst second List.mem_cons_self⟩

theorem isPositive_of_rejectionOf {view : BeamView ℝ} {beam : CompiledBeamOpticalProfile ℝ}
    {rigid : Bool} (h : rejectionOf view beam rigid = "") : isPositive beam.beamRadiusM = true := by
  unfold rejectionOf at h
  split at h
  next => exact absurd h (by decide)
  next =>
    split at h
    next => exact absurd h (by decide)
    next =>
      split at h
      next => exact absurd h (by decide)
      next =>
        split at h
        next => exact absurd h (by decide)
        next =>
          split at h
          next => exact absurd h (by decide)
          next hradius => simpa using (not_or.mp hradius).2

theorem isPositive_of_reliable {scene : CompiledRuntimeScene ℝ} {model : List (SceneNode ℝ)}
    {indexed : Bool} {beam : CompiledBeamOpticalProfile ℝ}
    (h : (describeEmitter scene model indexed beam).reliable = true)
    : isPositive beam.beamRadiusM = true := by
  rw [describeEmitter] at h
  split at h
  next => cases h
  next =>
    dsimp only at h
    split at h
    next => cases h
    next =>
      split at h
      next => cases h
      next => exact isPositive_of_rejectionOf (of_decide_eq_true h)

theorem describeEmitter_data (scene : CompiledRuntimeScene ℝ) (model : List (SceneNode ℝ))
    (indexed : Bool) (beam : CompiledBeamOpticalProfile ℝ)
    : (describeEmitter scene model indexed beam).physicalId = beam.renderTargetId
        ∧ (describeEmitter scene model indexed beam).apertureRadius = beam.beamRadiusM := by
  rw [describeEmitter]
  split
  next => exact ⟨rfl, rfl⟩
  next =>
    dsimp only
    split
    next => exact ⟨rfl, rfl⟩
    next =>
      split
      next => exact ⟨rfl, rfl⟩
      next => exact ⟨rfl, rfl⟩

/-! ### The aggregated groups -/

/-- What an aggregated group is, with `part` the positions of its beam profiles. -/
structure Aggregates (scene : CompiledRuntimeScene ℝ) (model : List (SceneNode ℝ))
    (indexed : Bool) (group : RenderEmitterGroup ℝ) (part : List (Fin scene.beamProfiles.length))
    : Prop where
  enough : AggregationPolicy.minimumMembers ≤ part.length
  ofFixture : ∀ i ∈ part, (scene.beamProfiles.get i).fixtureId = group.fixtureId
  reliable : ∀ i ∈ part, (describeEmitter scene model indexed (scene.beamProfiles.get i)).reliable
  compatible : ∀ i ∈ part, ∀ j ∈ part, i ≠ j
    → compatible scene indexed (emitterOf scene model indexed (scene.beamProfiles.get i))
      (emitterOf scene model indexed (scene.beamProfiles.get j)) = true
  encloses : ∀ i ∈ part, distance
      (describeEmitter scene model indexed (scene.beamProfiles.get i)).origin group.origin
      + (scene.beamProfiles.get i).beamRadiusM ≤ group.apertureRadius
  bounded : ∃ i ∈ part, (∀ j ∈ part, (scene.beamProfiles.get j).beamRadiusM
      ≤ (scene.beamProfiles.get i).beamRadiusM)
    ∧ group.apertureRadius
      ≤ AggregationPolicy.maximumRadiusRatio * (scene.beamProfiles.get i).beamRadiusM

/-- The emitter of a beam profile as it stands in a part. -/
structure SameBeam (scene : CompiledRuntimeScene ℝ) (model : List (SceneNode ℝ)) (indexed : Bool)
    (i : Fin scene.beamProfiles.length) (e : Emitter ℝ) : Prop where
  beam : e.1 = scene.beamProfiles.get i
  fixtureId : e.2.fixtureId = (scene.beamProfiles.get i).fixtureId
  physicalId : e.2.physicalId = (scene.beamProfiles.get i).renderTargetId
  apertureRadius : e.2.apertureRadius = (scene.beamProfiles.get i).beamRadiusM
  origin : e.2.origin = (describeEmitter scene model indexed (scene.beamProfiles.get i)).origin
  reliable : e.2.reliable
    = (describeEmitter scene model indexed (scene.beamProfiles.get i)).reliable

section

variable {scene : CompiledRuntimeScene ℝ} {model : List (SceneNode ℝ)} {indexed : Bool}
variable {indices : List (Fin scene.beamProfiles.length)} {part : List (Emitter ℝ)}

theorem IsBeam.same {i : Fin scene.beamProfiles.length} {e : Emitter ℝ}
    (h : IsBeam scene model indexed i e) : SameBeam scene model indexed i e := by
  obtain ⟨hphysicalId, hradius⟩ :=
    describeEmitter_data scene model indexed (scene.beamProfiles.get i)
  have hfixtureId := fixtureId_describeEmitter scene model indexed (scene.beamProfiles.get i)
  constructor
  . exact congrArg (fun e => e.1) h
  . exact (congrArg (fun e => e.2.fixtureId) h).trans hfixtureId
  . exact (congrArg (fun e => e.2.physicalId) h).trans hphysicalId
  . exact (congrArg (fun e => e.2.apertureRadius) h).trans hradius
  . exact congrArg (fun e => e.2.origin) h
  . exact congrArg (fun e => e.2.reliable) h

theorem map_core_of_beams (h : List.Forall₂ (IsBeam scene model indexed) indices part)
    : part.map Emitter.core = indices.map
        (fun i => (emitterOf scene model indexed (scene.beamProfiles.get i)).core) := by
  rw [← List.forall₂_eq_eq_eq, List.forall₂_map_left_iff, List.forall₂_map_right_iff]
  exact h.flip

theorem pairwise_indices (h : List.Forall₂ (IsBeam scene model indexed) indices part)
    (hpaired : part.Pairwise (fun a b => compatible scene indexed a b = true))
    : indices.Pairwise (fun i j =>
        compatible scene indexed (emitterOf scene model indexed (scene.beamProfiles.get i))
          (emitterOf scene model indexed (scene.beamProfiles.get j)) = true) := by
  have hcores : (part.map Emitter.core).Pairwise
      (fun a b => compatible scene indexed a b = true) := by
    rw [List.pairwise_map]
    exact hpaired
  rw [map_core_of_beams h, List.pairwise_map] at hcores
  exact hcores

theorem exists_index (h : List.Forall₂ (IsBeam scene model indexed) indices part) {e : Emitter ℝ}
    (he : e ∈ part) : ∃ i ∈ indices, SameBeam scene model indexed i e := by
  have hcore : e.core ∈ part.map Emitter.core := List.mem_map_of_mem he
  rw [map_core_of_beams h] at hcore
  obtain ⟨i, hi, heq⟩ := List.mem_map.mp hcore
  exact ⟨i, hi, IsBeam.same heq.symm⟩

theorem exists_emitter (h : List.Forall₂ (IsBeam scene model indexed) indices part)
    {i : Fin scene.beamProfiles.length} (hi : i ∈ indices)
    : ∃ e ∈ part, SameBeam scene model indexed i e := by
  have hcore : (emitterOf scene model indexed (scene.beamProfiles.get i)).core
      ∈ part.map Emitter.core := by
    rw [map_core_of_beams h]
    exact List.mem_map.mpr ⟨i, hi, rfl⟩
  obtain ⟨e, he, heq⟩ := List.mem_map.mp hcore
  exact ⟨e, he, IsBeam.same heq⟩

theorem physicalIds_of_beams (h : List.Forall₂ (IsBeam scene model indexed) indices part)
    : part.map (fun e => e.2.physicalId)
        = indices.map (fun i => (scene.beamProfiles.get i).renderTargetId) := by
  induction h with
  | nil => rfl
  | cons hfirst _ ih =>
    rw [List.map_cons, List.map_cons, ih, hfirst.same.physicalId]

theorem aggregates_of_built {controls : List PresentationControlGroup}
    {group : RenderEmitterGroup ℝ} (hbuilt : BuiltOf controls group part)
    (hbeams : List.Forall₂ (IsBeam scene model indexed) indices part)
    (hpaired : part.Pairwise (fun a b => compatible scene indexed a b = true))
    (haggregated : group.presentation = .aggregated)
    : Aggregates scene model indexed group indices := by
  obtain ⟨first, hfirst, hcompact, hgroup⟩ := hbuilt.aggregated haggregated
  simp only [isCompact, Bool.and_eq_true, decide_eq_true_eq] at hcompact
  obtain ⟨⟨⟨⟨henough, _⟩, _⟩, hratio⟩, _⟩ := hcompact
  have htwo : 2 ≤ part.length := Nat.le_of_succ_le henough
  have hmember : first ∈ part := List.mem_of_mem_head? hfirst
  have hother : ∀ e ∈ part, ∃ other, compatible scene indexed e other = true := by
    intro e he
    exact exists_other (fun a b => compatible_comm scene indexed) hpaired htwo he
  have hreliable : ∀ i ∈ indices,
      (describeEmitter scene model indexed (scene.beamProfiles.get i)).reliable = true := by
    intro i hi
    obtain ⟨e, he, hsame⟩ := exists_emitter hbeams hi
    obtain ⟨other, hcompatible⟩ := hother e he
    rw [← hsame.reliable]
    exact compatible_reliable hcompatible
  have hpositive : ∀ e ∈ part, 0 < e.2.apertureRadius := by
    intro e he
    obtain ⟨i, hi, hsame⟩ := exists_index hbeams he
    rw [hsame.apertureRadius]
    exact (isPositive_iff _).mp (isPositive_of_reliable (hreliable i hi))
  have hsymmetric : Std.Symm (fun i j : Fin scene.beamProfiles.length =>
      compatible scene indexed (emitterOf scene model indexed (scene.beamProfiles.get i))
        (emitterOf scene model indexed (scene.beamProfiles.get j)) = true) :=
    ⟨fun i j => compatible_comm scene indexed⟩
  have hall := (pairwise_indices hbeams hpaired).forall
  constructor
  . rw [hbeams.length_eq]
    exact henough
  . intro i hi
    obtain ⟨k, hk, hsame⟩ := exists_index hbeams hmember
    have hfixture : group.fixtureId = first.2.fixtureId := by
      rw [hgroup]
      rfl
    rw [hfixture, hsame.fixtureId]
    by_cases heq : i = k
    . rw [heq]
    . exact compatible_fixture (hall hi hk heq)
  . exact hreliable
  . intro i hi j hj hne
    exact hall hi hj hne
  . intro i hi
    obtain ⟨e, he, hsame⟩ := exists_emitter hbeams hi
    have hbound := @le_largestOf _ (fun e => SpatialScalar.add
      (length (offsetFrom (groupOrigin part) e)) e.2.apertureRadius) _ _ he
    rw [length_offsetFrom, hsame.origin, hsame.apertureRadius] at hbound
    rw [hgroup]
    exact hbound
  . obtain ⟨largest, hlargest, heq⟩ := @exists_largestOf _ (fun e => e.2.apertureRadius) _
      (List.ne_nil_of_mem hmember) hpositive
    obtain ⟨i, hi, hsame⟩ := exists_index hbeams hlargest
    refine ⟨i, hi, ?_, ?_⟩
    . intro j hj
      obtain ⟨e, he, hsameE⟩ := exists_emitter hbeams hj
      have hbound := @le_largestOf _ (fun e => e.2.apertureRadius) _ _ he
      rw [heq, hsame.apertureRadius, hsameE.apertureRadius] at hbound
      exact hbound
    . have hratio : groupRadius part
          ≤ largestRadius part * AggregationPolicy.maximumRadiusRatio := of_decide_eq_true hratio
      rw [largestRadius, heq, hsame.apertureRadius, mul_comm] at hratio
      rw [hgroup]
      exact hratio

theorem groups_of_parts {controls : List PresentationControlGroup}
    {groups : List (RenderEmitterGroup ℝ)} {parts : List (List (Emitter ℝ))}
    {members : List (List (Fin scene.beamProfiles.length))}
    (hbuilt : List.Forall₂ (BuiltOf controls) groups parts)
    (hbeams : List.Forall₂ (List.Forall₂ (IsBeam scene model indexed)) members parts)
    (hpaired : ∀ part ∈ parts, part.Pairwise (fun a b => compatible scene indexed a b = true))
    : List.Forall₂ (fun group part =>
        group.physicalIds = part.map (fun i => (scene.beamProfiles.get i).renderTargetId)
          ∧ (group.presentation = .aggregated → Aggregates scene model indexed group part))
        groups members := by
  induction hbuilt generalizing members with
  | nil =>
    cases hbeams
    exact List.Forall₂.nil
  | cons hfirst _ ih =>
    cases hbeams with
    | cons hpart hrest =>
      apply List.Forall₂.cons
      . rw [hfirst.physicalIds, physicalIds_of_beams hpart]
        exact ⟨rfl, aggregates_of_built hfirst hpart (hpaired _ List.mem_cons_self)⟩
      . exact ih hrest (fun part hmem => hpaired part (List.mem_cons_of_mem _ hmem))

end

/--
The groups are numbered from 1 and share out the beam profiles. An aggregated one has enough members
of one fixture, compatible in pairs, and its aperture encloses theirs within the permitted ratio.
-/
theorem compileRenderEmitterGroups_correct (scene : CompiledRuntimeScene ℝ)
    (model : List (SceneNode ℝ)) (controls : List PresentationControlGroup) (indexed : Bool)
    : let groups := compileRenderEmitterGroups scene model controls indexed
      groups.map RenderEmitterGroup.id
          = (List.range groups.length).map (fun position => Int32.ofNat (position + 1))
        ∧ (groups.length < 2 ^ 31 → groups.map (fun group => group.id.toInt)
          = (List.range groups.length).map (fun position : Nat => (position : Int) + 1))
        ∧ ∃ members : List (List (Fin scene.beamProfiles.length)),
          members.flatten.Perm (List.finRange scene.beamProfiles.length)
            ∧ List.Forall₂ (fun group part =>
              group.physicalIds = part.map (fun i => (scene.beamProfiles.get i).renderTargetId)
                ∧ (group.presentation = .aggregated
                  → Aggregates scene model indexed group part)) groups members := by
  intro groups
  obtain ⟨hnumbered, parts, members, hperm, hbuilt, hbeams, hpaired⟩ :=
    compileRenderEmitterGroups_parts scene model controls indexed
  refine ⟨hnumbered, ?_, members, hperm, groups_of_parts hbuilt hbeams hpaired⟩
  intro hlt
  have hids := congrArg (List.map Int32.toInt) hnumbered
  rw [List.map_map, List.map_map] at hids
  apply hids.trans
  apply List.map_congr_left
  intro position hposition
  have hfits : position + 1 < 2 ^ 31 := Nat.lt_of_le_of_lt (List.mem_range.mp hposition) hlt
  exact Int32.toInt_ofNat_of_lt hfits

end Peraviz.Presentation.Setup
