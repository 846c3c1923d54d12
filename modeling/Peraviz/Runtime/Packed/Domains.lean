import Peraviz.Coupling.Basic
import Peraviz.Runtime.Packed.Tables

/-!
This module contains the domains of a universe on what the packed form leaves of its bindings. The
channel sets lose the physical range that no selection reads, and the inputs of the colors lose the
resources that they may name.
-/

namespace Peraviz.Runtime

open Codec

section

variable {ctx : SourceContext}

theorem find?_inRange (sets : List CompiledWheelChannelSet) (rawValue : UInt32)
    : (sets.map transportChannelSet).find? (fun set => inRange rawValue set.dmxFrom set.dmxTo)
        = (sets.find? (fun set => inRange rawValue set.dmxFrom set.dmxTo)).map
          transportChannelSet := by
  rw [List.find?_map]
  rfl

def SelectionScan.packed (scan : SelectionScan) : SelectionScan :=
  { scan with selected := scan.selected.map (Prod.map transportGoboBinding transportChannelSet) }

theorem scanGoboBinding_packed (bindings : List GoboBindingRuntime) (scan : SelectionScan)
    (index : Nat)
    : Coupled Eq (fun a b => a = b.packed)
        (ctx.scanGoboBinding (bindings.map (fun gobo => { gobo with
          binding := transportGoboBinding gobo.binding })) scan.packed index)
        (ctx.scanGoboBinding bindings scan index) := by
  unfold SourceContext.scanGoboBinding
  rw [List.getElem?_map]
  cases bindings[index]? with
  | none => exact Coupled.pure rfl
  | some gobo =>
    apply (Coupled.same _).bind_eq
    intro active
    apply Coupled.ite
    . intro _
      exact Coupled.pure rfl
    . intro _
      apply (Coupled.same _).bind_eq
      intro value
      have hset : activeSet (transportGoboBinding gobo.binding).channelSets value.rawValue
          = (activeSet gobo.binding.channelSets value.rawValue).map transportChannelSet :=
        find?_inRange _ _
      dsimp only
      rw [hset]
      cases activeSet gobo.binding.channelSets value.rawValue with
      | none => exact Coupled.pure rfl
      | some set =>
        apply Coupled.pure
        unfold SelectionScan.packed
        cases scan.selected <;> rfl

theorem updateGoboSelections_packed (layout : GoboLayout)
    : ctx.updateGoboSelections layout.packed = ctx.updateGoboSelections layout := by
  funext goboAsset held keys
  apply Coupled.eq
  apply Coupled.foldlM_eq
  intro key _ update
  unfold SourceContext.updateGoboSelection
  have hscan : Coupled Eq (fun a b : SelectionScan => a = b.packed)
      ((layout.packed.layers key).foldlM (ctx.scanGoboBinding layout.packed.bindings) {})
      ((layout.layers key).foldlM (ctx.scanGoboBinding layout.bindings) {}) := by
    apply Coupled.foldlM
    . rfl
    . intro index _ scan scan' hscan
      rw [hscan]
      exact scanGoboBinding_packed layout.bindings scan' index
  apply hscan.bind
  intro scan scan' hscan
  rw [hscan]
  unfold SelectionScan.packed
  cases scan'.selected with
  | none => exact Coupled.same _
  | some selected => exact Coupled.same _

def MotionScan.packed (scan : MotionScan) : MotionScan :=
  { scan with
    pos := scan.pos.map (Prod.map packedMotion id)
    rotate := scan.rotate.map (Prod.map packedMotion id) }

theorem active_packedMotion (binding : CompiledGoboMotionBinding)
    (program : CompiledDmxSourceProgram) (rawValue : UInt32) (active : Bool)
    (h : binding.semanticKind = .listed .pos ∨ binding.semanticKind = .listed .posRotate)
    : (evaluateActiveGoboMotionScalar (packedMotion binding) program rawValue active).active
          = (evaluateActiveGoboMotionScalar binding program rawValue active).active
        ∧ (evaluateActiveGoboMotionScalar (packedMotion binding) program rawValue
            active).physicalValue
          = (evaluateActiveGoboMotionScalar binding program rawValue active).physicalValue := by
  have hkind : ¬ (binding.semanticKind = .listed .selectSpin
      ∨ binding.semanticKind = .listed .selectShake) := by
    rcases h with h | h <;> rw [h] <;> decide
  unfold evaluateActiveGoboMotionScalar packedMotion transportGoboMotion
  dsimp only
  rw [if_neg hkind, if_neg hkind]
  split <;> exact ⟨rfl, rfl⟩

theorem add_packedMotion (scan : MotionScan) (binding : CompiledGoboMotionBinding)
    (program : CompiledDmxSourceProgram) (rawValue : UInt32) (active : Bool)
    : scan.packed.add (packedMotion binding)
          (evaluateActiveGoboMotionScalar (packedMotion binding) program rawValue active)
        = (scan.add binding (evaluateActiveGoboMotionScalar binding program rawValue
          active)).packed := by
  by_cases h : binding.semanticKind = .listed .pos ∨ binding.semanticKind = .listed .posRotate
  . obtain ⟨hactive, hvalue⟩ := active_packedMotion binding program rawValue active h
    unfold MotionScan.add
    rw [hactive, hvalue]
    split
    . rfl
    . have hsemantic : (packedMotion binding).semanticKind = binding.semanticKind := rfl
      rw [hsemantic]
      split
      . unfold MotionScan.packed
        cases scan.pos <;> rfl
      . split
        . unfold MotionScan.packed
          cases scan.rotate <;> rfl
        . rfl
  . rw [not_or] at h
    have hskip (scan : MotionScan) (b : CompiledGoboMotionBinding)
        (hb : b.semanticKind = binding.semanticKind) (scalar : EvaluatedGoboScalar)
        : scan.add b scalar = scan := by
      unfold MotionScan.add
      rw [hb, if_neg h.1, if_neg h.2, ite_self]
    rw [hskip scan.packed (packedMotion binding) rfl, hskip scan binding rfl]

theorem scanGoboMotion_packed (bindings : List GoboMotionRuntime) (scan : MotionScan)
    (index : Nat)
    : Coupled Eq (fun a b => a = b.packed)
        (ctx.scanGoboMotion (bindings.map (fun motion => { motion with
          binding := packedMotion motion.binding })) scan.packed index)
        (ctx.scanGoboMotion bindings scan index) := by
  unfold SourceContext.scanGoboMotion
  rw [List.getElem?_map]
  cases bindings[index]? with
  | none => exact Coupled.pure rfl
  | some motion =>
    apply (Coupled.same _).bind_eq
    intro active
    apply (Coupled.same _).bind_eq
    intro value
    apply Coupled.pure
    exact add_packedMotion scan motion.binding _ value.rawValue active

theorem stepRotation_packed (p : Platform) (state : GoboRotationState) (scan : MotionScan) (now : ℚ)
    : stepRotation p state scan.packed now = stepRotation p state scan now := by
  obtain ⟨pos, rotate, _, _⟩ := scan
  unfold stepRotation MotionScan.packed
  cases pos <;> cases rotate <;> rfl

theorem motionIdentity_packed (layout : GoboLayout) (layer : List Nat) (scan : MotionScan)
    : motionIdentity layout.packed.motionBindings layer scan.packed
        = (motionIdentity layout.motionBindings layer scan).map packedMotion := by
  unfold motionIdentity MotionScan.packed GoboLayout.packed
  cases scan.rotate with
  | some rotate => rfl
  | none =>
    cases scan.pos with
    | some pos => rfl
    | none =>
      cases layer.head? with
      | none => rfl
      | some index =>
        simp only [Option.bind_some, List.getElem?_map]
        cases layout.motionBindings[index]? <;> rfl

theorem updateGoboMotions_packed (layout : GoboLayout)
    : ctx.updateGoboMotions layout.packed = ctx.updateGoboMotions layout := by
  funext now held keys
  apply Coupled.eq
  apply Coupled.foldlM_eq
  intro key _ update
  unfold SourceContext.updateGoboMotion
  have hscan : Coupled Eq (fun a b : MotionScan => a = b.packed)
      ((layout.packed.motionLayers key).foldlM
        (ctx.scanGoboMotion layout.packed.motionBindings) {})
      ((layout.motionLayers key).foldlM (ctx.scanGoboMotion layout.motionBindings) {}) := by
    apply Coupled.foldlM
    . rfl
    . intro index _ scan scan' hscan
      rw [hscan]
      exact scanGoboMotion_packed layout.motionBindings scan' index
  apply hscan.bind
  intro scan scan' hscan
  have hidentity := motionIdentity_packed layout (layout.motionLayers key) scan'
  have hlayer : layout.packed.motionLayers = layout.motionLayers := rfl
  have hpos : scan'.packed.pos.isNone = scan'.pos.isNone := Option.isNone_map
  have hrotate : scan'.packed.rotate.isNone = scan'.rotate.isNone := Option.isNone_map
  have hreport (held : GoboHeld) : reportMotion held scan'.packed = reportMotion held scan' := by
    unfold reportMotion MotionScan.packed
    simp only [Option.isSome_map]
  rw [hscan]
  dsimp only
  rw [stepRotation_packed, hlayer, hidentity, hpos, hrotate]
  simp only [hreport]
  apply Coupled.ite
  . intro _
    exact Coupled.same _
  . intro _
    apply Coupled.ite
    . intro _
      exact Coupled.same _
    . intro _
      apply (Coupled.same _).bind_eq
      intro held
      cases motionIdentity layout.motionBindings (layout.motionLayers key) scan' with
      | none => exact Coupled.same _
      | some identity => exact Coupled.same _

theorem scanWheel_packed (bindings : List WheelBindingRuntime)
    (active : Option (CompiledWheelTargetBinding × EvaluatedSourceValue)) (index : Nat)
    : Coupled Eq (fun a b => a = b.map (Prod.map packedWheel id))
        (ctx.scanWheel (bindings.map (fun wheel => { wheel with
          binding := packedWheel wheel.binding })) (active.map (Prod.map packedWheel id)) index)
        (ctx.scanWheel bindings active index) := by
  unfold SourceContext.scanWheel
  rw [List.getElem?_map]
  cases bindings[index]? with
  | none => exact Coupled.pure rfl
  | some candidate =>
    apply (Coupled.same _).bind_eq
    intro evaluated
    dsimp only
    rw [Option.isSome_map]
    apply Coupled.ite
    . intro _
      exact Coupled.pure rfl
    . intro _
      apply Coupled.ite
      . intro _
        apply (Coupled.same _).bind_eq
        intro _
        exact Coupled.pure rfl
      . intro _
        exact Coupled.pure rfl

theorem resolveWheel_packed (p : Platform) (binding : CompiledWheelTargetBinding)
    (slots : List CompiledWheelPaletteSlot) (evaluated : EvaluatedSourceValue)
    : resolveWheel p (packedWheel binding) slots evaluated
        = resolveWheel p binding slots evaluated := by
  have hselect (rawValue : UInt32) : resolveSelect p (packedWheel binding) slots rawValue
      = resolveSelect p binding slots rawValue := by
    have hset : (packedWheel binding).channelSets.find? (fun set =>
        inRange rawValue set.dmxFrom set.dmxTo) = (binding.channelSets.find? (fun set =>
          inRange rawValue set.dmxFrom set.dmxTo)).map transportChannelSet := find?_inRange _ _
    unfold resolveSelect
    rw [hset]
    cases binding.channelSets.find? (fun set => inRange rawValue set.dmxFrom set.dmxTo) <;> rfl
  unfold resolveWheel
  rw [hselect]
  rfl

theorem updateWheels_packed (layout : WheelLayout)
    : ctx.updateWheels layout.packed = ctx.updateWheels layout := by
  funext palettes states dirtyWheels
  have hdirty : dirtyPhysicalWheels layout.packed dirtyWheels
      = dirtyPhysicalWheels layout dirtyWheels := by
    unfold dirtyPhysicalWheels WheelLayout.packed
    simp only [List.getElem?_map, Option.map_map]
    rfl
  unfold SourceContext.updateWheels
  rw [hdirty]
  apply Coupled.eq
  apply Coupled.foldlM_eq
  intro key _ update
  unfold SourceContext.updateWheel
  have hactive : Coupled Eq (fun a b => a = b.map (Prod.map packedWheel id))
      ((layout.packed.indicesByPhysicalKey key).foldlM
        (ctx.scanWheel layout.packed.bindings) none)
      ((layout.indicesByPhysicalKey key).foldlM (ctx.scanWheel layout.bindings) none) := by
    apply Coupled.foldlM
    . rfl
    . intro index _ active active' hactive
      rw [hactive]
      exact scanWheel_packed layout.bindings active' index
  apply hactive.bind
  intro active active' hactive
  rw [hactive]
  cases active' with
  | none => exact Coupled.same _
  | some found =>
    simp only [Option.map_some, Prod.map]
    rw [show (packedWheel found.1).wheelRendererId = found.1.wheelRendererId from rfl]
    cases palettes found.1.wheelRendererId with
    | none => exact Coupled.same _
    | some palette =>
      dsimp only
      rw [id_eq, resolveWheel_packed]
      exact Coupled.same _

/-- An input that is mixed by its semantic: it names neither a valid emitter nor a valid filter. -/
def ColorResources.Unnamed (resources : ColorResources) (input : CompiledColorInputBinding)
    : Prop :=
  (resources.emitter? input.emitterResourceId).filter (·.valid) = none
    ∧ (resources.filter? input.filterResourceId).filter (·.valid) = none

theorem cookEmitterColor_unnamed {p : Platform} {resources : ColorResources}
    {target : CompiledColorTargetProgram} {inputs : List (CompiledColorInputBinding × ℚ)}
    (h : ∀ input ∈ inputs, resources.Unnamed input.1)
    : cookEmitterColor p {} target inputs = cookEmitterColor p resources target inputs := by
  have hmix (mix : EmitterMix)
      : inputs.foldl (EmitterMix.addInput {}) mix
        = inputs.foldl (EmitterMix.addInput resources) mix := by
    induction inputs generalizing mix with
    | nil => rfl
    | cons input inputs ih =>
      rw [List.forall_mem_cons] at h
      have hinput : EmitterMix.addInput {} mix input = EmitterMix.addInput resources mix input := by
        unfold EmitterMix.addInput
        rw [h.1.1, h.1.2]
        rfl
      rw [List.foldl_cons, List.foldl_cons, hinput]
      exact ih h.2 _
  unfold cookEmitterColor
  rw [hmix]

theorem updateColors_unnamed {resources : ColorResources} {layout : ColorLayout}
    (wheels : WheelLayout)
    (h : ∀ target ∈ layout.targets, ∀ input ∈ target.inputs, resources.Unnamed input.binding)
    (update : ColorUpdate) (indices : List Nat)
    : ctx.updateColors {} layout wheels.packed none update indices
        = ctx.updateColors resources layout wheels none update indices := by
  apply Coupled.eq
  apply Coupled.foldlM_eq
  intro index _ update
  unfold SourceContext.updateColor
  cases htarget : layout.targets[index]? with
  | none => exact Coupled.pure rfl
  | some target =>
    apply (Coupled.same _).bind_eq
    intro read
    apply Coupled.ite
    . intro _
      exact Coupled.pure rfl
    . intro _
      apply Coupled.pure
      dsimp only [Option.bind_none, Option.elim_none]
      rw [cookEmitterColor_unnamed]
      . rfl
      . intro input hinput
        obtain ⟨entry, hentry, rfl⟩ := List.mem_map.mp hinput
        exact h target (List.mem_of_getElem? htarget) entry.1 (List.fst_mem_of_mem_zipIdx hentry)

end

end Peraviz.Runtime
