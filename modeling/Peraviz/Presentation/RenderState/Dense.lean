import Mathlib.Data.List.Induction
import Peraviz.Runtime.Rows

/-!
This module contains the held lighting state of the physical outputs, with the outputs that were
touched since the last snapshot, and the values that the renderer needs of an output. Its callers
hand over pointers that may be null and floats that may not be finite, and install the groups that
share a renderer.
-/

namespace Peraviz.Presentation

open Peraviz.Runtime

structure OutputBinding where
  canonicalId : Int32 := 0
  projectedScale : ℚ := 1
  deriving DecidableEq

structure TargetBinding where
  lightingSection : Int32 := 0
  targetId : Int32 := 0
  outputIndex : Nat := 0
  deriving DecidableEq

structure RenderValues where
  dimmer : ℚ := 0
  red : ℚ := 0
  green : ℚ := 0
  blue : ℚ := 0
  beamEnergy : ℚ := 0
  spotEnergy : ℚ := 0
  beamIntensity : ℚ := 0
  materialEnergy : ℚ := 0
  halfAngle : ℚ := 0
  fullAngle : ℚ := 0
  colorGain : ℚ := 0
  visible : ℚ := 0
  deriving DecidableEq

structure OutputState where
  dimmer : ℚ := 0
  beamEnergy : ℚ := 0
  spotEnergy : ℚ := 0
  beamIntensity : ℚ := 0
  materialEnergy : ℚ := 0
  red : ℚ := 1
  green : ℚ := 1
  blue : ℚ := 1
  gain : ℚ := 1
  halfAngle : ℚ := 25 / 2
  fullAngle : ℚ := 25
  mask : UInt32 := 0
  deriving DecidableEq

def OutputState.settled (state : OutputState) : OutputState := { state with mask := 0 }

structure DensePresentationState where
  generation : UInt64 := 0
  bindings : List OutputBinding := []
  states : List OutputState := []
  dirty : List Nat := []
  routes : List ((Int32 × Int32) × List Nat) := []
  /-- The output whose renderer an output shares, -1 for none. -/
  representatives : List Int32 := []
  groupMasks : List UInt32 := []
  highWater : Nat := 0
  candidates : Nat := 0
  unresolvedRows : Nat := 0
  traceEnabled : Bool := false
  sized : states.length = bindings.length := by rfl
  /-- A pending mask is the membership bit of the dirty outputs. -/
  tracked : ∀ index, (states.getD index {}).mask ≠ 0 → index ∈ dirty := by simp

namespace DensePresentationState

variable (s : DensePresentationState)

def state (index : Nat) : OutputState := s.states.getD index {}

def pendingMask (index : Nat) : UInt32 := (s.state index).mask

/-! ### Installation -/

def validOutputs : List Int32 → List OutputBinding → Bool
  | _, [] => true
  | ids, output :: outputs =>
    0 < output.canonicalId && output.canonicalId ∉ ids && 0 ≤ output.projectedScale
      && validOutputs (output.canonicalId :: ids) outputs

def isLighting (lightingSection : Int32) : Bool :=
  lightingSection == 2 || lightingSection == 3 || lightingSection == 4

def addRoute (routes : List ((Int32 × Int32) × List Nat)) (target : TargetBinding)
    : List ((Int32 × Int32) × List Nat) :=
  let key := (target.lightingSection, target.targetId)
  match routes.lookup key with
  | none => routes ++ [(key, [target.outputIndex])]
  | some indices =>
    if target.outputIndex ∈ indices then
      routes
    else
      routes.map (fun route =>
        if route.1 = key then (key, route.2 ++ [target.outputIndex]) else route)

/-- `fresh` is the next number of the process-wide count of generations. -/
def install (fresh : UInt64) (outputs : List OutputBinding) (targets : List TargetBinding)
    : DensePresentationState × Bool :=
  if !validOutputs [] outputs then
    (s, false)
  else if targets.any (fun target => outputs.length ≤ target.outputIndex || target.targetId ≤ 0
      || !isLighting target.lightingSection) then
    (s, false)
  else
    ({
        generation := fresh
        bindings := outputs
        states := List.replicate outputs.length {}
        routes := targets.foldl addRoute []
        traceEnabled := s.traceEnabled
        sized := List.length_replicate
        tracked := by
          intro index hmask
          apply absurd _ hmask
          rw [List.getD_eq_getElem?_getD, List.getElem?_replicate]
          split
          . rfl
          . rfl
      }, true)

/-! ### Updates -/

theorem mask_set {states : List OutputState} {dirty : List Nat} {index : Nat} {state : OutputState}
    (htracked : ∀ other, (states.getD other {}).mask ≠ 0 → other ∈ dirty)
    : ∀ other, ((states.set index state).getD other {}).mask ≠ 0
      → other ∈ (if (states.getD index {}).mask = 0 then dirty ++ [index] else dirty) := by
  intro other hmask
  by_cases heq : index = other
  . cases heq
    split
    . simp
    next hold => exact htracked index hold
  . have hother : other ∈ dirty := by
      apply htracked
      rw [List.getD_eq_getElem?_getD, List.getElem?_set_ne heq] at hmask
      rw [List.getD_eq_getElem?_getD]
      exact hmask
    split
    . exact List.mem_append_left _ hother
    . exact hother

/-- Stores the state of an output, which becomes dirty where nothing was pending of it. -/
def write (index : Nat) (state : OutputState) : DensePresentationState :=
  { s with
    states := s.states.set index state
    dirty := if (s.states.getD index {}).mask = 0 then s.dirty ++ [index] else s.dirty
    sized := by rw [List.length_set]; exact s.sized
    tracked := mask_set s.tracked
  }

def noteCandidate : DensePresentationState :=
  if s.traceEnabled then { s with candidates := s.candidates + 1 } else s

def noteHighWater : DensePresentationState :=
  if s.traceEnabled then { s with highWater := max s.highWater s.dirty.length } else s

/-- The held state after a renderer was replaced. -/
def invalidateRenderer : DensePresentationState :=
  ((List.range s.states.length).foldl (fun s index =>
    (s.write index { s.state index with
      mask := (s.state index).mask ||| VisualChangeBeamTopology }).noteCandidate) s).noteHighWater

def sectionMask (lightingSection : Int32) : UInt32 :=
  if lightingSection = 2 then VisualChangeDimmer
  else if lightingSection = 3 then VisualChangeColor
  else VisualChangeZoom

end DensePresentationState

/-- The values of one section row over the held ones. -/
def OutputState.put (state : OutputState) (lightingSection : Int32) (v : List ℚ) : OutputState :=
  if lightingSection = 2 then
    { state with
      dimmer := v.getD 0 0
      beamEnergy := v.getD 1 0
      spotEnergy := v.getD 2 0
      beamIntensity := v.getD 3 0
      materialEnergy := v.getD 4 0
    }
  else if lightingSection = 3 then
    { state with
      red := v.getD 0 0
      green := v.getD 1 0
      blue := v.getD 2 0
      gain := max (v.getD 3 0) 0
    }
  else
    { state with
      halfAngle := v.getD 0 0
      fullAngle := v.getD 1 0
    }

namespace DensePresentationState

variable (s : DensePresentationState)

def update (generation : UInt64) (index : Nat) (lightingSection : Int32) (mask : UInt32)
    (v : List ℚ) : DensePresentationState × Bool :=
  if generation ≠ s.generation ∨ s.states.length ≤ index ∨ !isLighting lightingSection then
    (s, false)
  else
    let written := (s.state index).put lightingSection v
    (((s.noteCandidate).write index { written with
        mask := written.mask ||| (mask ||| sectionMask lightingSection) }).noteHighWater, true)

def updateTarget (generation : UInt64) (lightingSection target : Int32) (mask : UInt32)
    (v : List ℚ) : DensePresentationState × Bool :=
  if generation ≠ s.generation then
    (s, false)
  else
    match s.routes.lookup (lightingSection, target) with
    | none => (s, false)
    | some indices =>
      indices.foldl (fun (s, result) index =>
        let (s, updated) := s.update generation index lightingSection mask v
        (s, updated && result)) (s, true)

def sectionStride (lightingSection : Int32) : Nat :=
  if lightingSection = 2 then 5 else if lightingSection = 3 then 4 else 3

/-- The rows of a lighting section lie inside of the buffers, every other section passes. -/
def sectionFits (frame : SectionedVisualFrame) (d : SectionDescriptor) : Bool :=
  !isLighting d.sectionType
    || (0 ≤ d.rowCount && 0 ≤ d.intOffset && 0 ≤ d.floatOffset
      && d.intOffset.toInt + d.rowCount.toInt * 3 ≤ frame.integers.length
      && d.floatOffset.toInt + d.rowCount.toInt * sectionStride d.sectionType
        ≤ frame.floats.length)

def composeRow (generation : UInt64) (frame : SectionedVisualFrame) (d : SectionDescriptor)
    (s : DensePresentationState) (row : Nat) : DensePresentationState :=
  let integers := frame.integers.drop (d.intOffset.toNatClampNeg + row * 3)
  let stride := sectionStride d.sectionType
  let v := (frame.floats.drop (d.floatOffset.toNatClampNeg + row * stride)).take stride
  let (s, updated) := s.updateTarget generation d.sectionType (integers.getD 1 0)
    (integers.getD 2 0).toUInt32 v
  if updated then s else { s with unresolvedRows := s.unresolvedRows + 1 }

def composeSection (generation : UInt64) (frame : SectionedVisualFrame)
    (s : DensePresentationState) (d : SectionDescriptor) : DensePresentationState :=
  if isLighting d.sectionType then
    (List.range d.rowCount.toNatClampNeg).foldl (composeRow generation frame d) s
  else
    s

/-- Every section is checked before the first row is written. -/
def composeSections (generation : UInt64) (frame : SectionedVisualFrame)
    : DensePresentationState × Bool :=
  let descriptors := (List.range frame.sectionCount).map frame.descriptor
  if generation ≠ s.generation
      ∨ frame.descriptors.length % kVisualSectionDescriptorStride ≠ 0 then
    (s, false)
  else if !descriptors.all (sectionFits frame) then
    (s, false)
  else
    (descriptors.foldl (composeSection generation frame) { s with unresolvedRows := 0 }, true)

/-! ### Snapshots -/

def visualGain (p : Platform) (gain : ℚ) : ℚ :=
  if gain ≤ p.toFloat (1 / 1000000) then
    0
  else
    let exponent := p.toFloat (1 / p.toFloat (22 / 10))
    p.toFloat (1 / 4 + p.toFloat (3 / 4 * p.toFloat (p.pow (clamp gain 0 1) exponent)))

def renderValues (p : Platform) (index : Nat) : RenderValues :=
  let state := s.state index
  let scale := (s.bindings.getD index {}).projectedScale
  let attenuated := clamp (p.toFloat (state.beamIntensity * visualGain p state.gain)) 0 50
  {
    dimmer := state.dimmer
    red := state.red
    green := state.green
    blue := state.blue
    beamEnergy := p.toFloat (p.toFloat (state.beamEnergy * state.gain) * scale)
    spotEnergy := p.toFloat (p.toFloat (state.spotEnergy * state.gain) * scale)
    -- the presentation clamps before and after the projected scale
    beamIntensity := clamp (p.toFloat (attenuated * scale)) 0 50
    materialEnergy := p.toFloat (state.materialEnergy * state.gain)
    halfAngle := state.halfAngle
    fullAngle := state.fullAngle
    colorGain := state.gain
    visible :=
      if p.toFloat (1 / 10000) < state.dimmer ∧ 0 < scale
          ∧ p.toFloat (1 / 1000000) < attenuated then 1 else 0
  }

theorem getElem?_settle (states : List OutputState) (dirty : List Nat) (index : Nat)
    : (dirty.foldl (fun states index => states.modify index OutputState.settled) states)[index]?
        = if index ∈ dirty then states[index]?.map OutputState.settled else states[index]? := by
  induction dirty using List.reverseRecOn with
  | nil => rfl
  | append_singleton dirty last ih =>
    rw [List.foldl_append, List.foldl_cons, List.foldl_nil, List.getElem?_modify, ih]
    by_cases heq : last = index
    . rw [heq]
      by_cases hmem : index ∈ dirty
      . simp [hmem, OutputState.settled, Function.comp_def]
        rfl
      . simp [hmem]
    . simp [heq, Ne.symm heq]

theorem length_settle (states : List OutputState) (dirty : List Nat)
    : (dirty.foldl (fun states index => states.modify index OutputState.settled) states).length
        = states.length := by
  induction dirty using List.reverseRecOn with
  | nil => rfl
  | append_singleton dirty last ih =>
    rw [List.foldl_append, List.foldl_cons, List.foldl_nil, List.length_modify]
    exact ih

theorem mask_settle {states : List OutputState} {dirty : List Nat}
    (htracked : ∀ index, (states.getD index {}).mask ≠ 0 → index ∈ dirty)
    : ∀ index, ((dirty.foldl (fun states index => states.modify index OutputState.settled)
      states).getD index {}).mask ≠ 0 → index ∈ ([] : List Nat) := by
  intro index hmask
  apply absurd _ hmask
  rw [List.getD_eq_getElem?_getD, getElem?_settle]
  split
  . cases states[index]? with
    | none => rfl
    | some state => rfl
  next hclean =>
    rw [← List.getD_eq_getElem?_getD]
    by_contra hpending
    exact hclean (htracked index hpending)

def finishSnapshot (generation : UInt64) : DensePresentationState :=
  if generation ≠ s.generation then
    s
  else
    { s with
      states := s.dirty.foldl (fun states index => states.modify index OutputState.settled) s.states
      dirty := []
      candidates := 0
      sized := (length_settle _ _).trans s.sized
      tracked := mask_settle s.tracked
    }

end DensePresentationState
end Peraviz.Presentation

/-! ### The callers -/

namespace Peraviz.Presentation

open Peraviz.Runtime

/-- A float of a caller, `none` where it is not finite. -/
abbrev CallerFloat := Option ℚ

/-- A pointer of a caller with the count of what it points to. -/
inductive CallerBuffer (α : Type) where
  | null (count : Nat)
  | filled (items : List α)

namespace CallerBuffer

def count {α : Type} : CallerBuffer α → Nat
  | null count => count
  | filled items => items.length

def items {α : Type} : CallerBuffer α → List α
  | null _ => []
  | filled items => items

/-- A null pointer that is said to point to something. -/
def missing {α : Type} : CallerBuffer α → Bool
  | null count => count ≠ 0
  | filled _ => false

end CallerBuffer

structure RequestedOutput where
  canonicalId : Int32 := 0
  projectedScale : CallerFloat := some 1
  deriving DecidableEq

def RequestedOutput.binding (output : RequestedOutput) : Option OutputBinding :=
  output.projectedScale.map (OutputBinding.mk output.canonicalId)

namespace DensePresentationState

variable (s : DensePresentationState)

def installOutputs (fresh : UInt64) (outputs : List RequestedOutput) (targets : List TargetBinding)
    : DensePresentationState × Bool :=
  match outputs.mapM RequestedOutput.binding with
  | none => (s, false)
  | some bindings => s.install fresh bindings targets

/-- A representative stands for itself and has the scale of those it stands for. -/
def validRepresentatives (representatives : List Int32) : Bool :=
  representatives.length == s.states.length
    && (List.range representatives.length).all (fun i =>
      let r := representatives.getD i 0
      let place := r.toInt.toNat
      r.toInt < s.states.length && -1 ≤ r
        && (r < 0 || (representatives.getD place 0 == r
          && (s.bindings.getD i {}).projectedScale == (s.bindings.getD place {}).projectedScale)))

def installGroups (representatives : List Int32) : DensePresentationState × Bool :=
  if s.validRepresentatives representatives then
    let grouped : DensePresentationState := { s with
      representatives := representatives
      groupMasks := List.replicate s.states.length 0
    }
    (grouped.invalidateRenderer, true)
  else
    (s, false)

/-- The floats of a row, when all that are read are finite. -/
def finiteRow (lightingSection : Int32) (v : List CallerFloat) : Option (List ℚ) :=
  (v.take (sectionStride lightingSection)).mapM id

def updateFloats (generation : UInt64) (index : Nat) (lightingSection : Int32) (mask : UInt32)
    (v : Option (List CallerFloat)) : DensePresentationState × Bool :=
  match v.bind (finiteRow lightingSection) with
  | none => (s, false)
  | some v => s.update generation index lightingSection mask v

def updateTargetFloats (generation : UInt64) (lightingSection target : Int32) (mask : UInt32)
    (v : Option (List CallerFloat)) : DensePresentationState × Bool :=
  if generation ≠ s.generation then
    (s, false)
  else
    match s.routes.lookup (lightingSection, target) with
    | none => (s, false)
    | some indices =>
      indices.foldl (fun (s, result) index =>
        let (s, updated) := s.updateFloats generation index lightingSection mask v
        (s, updated && result)) (s, true)

/-- The rows of a lighting section lie inside of the buffers and their floats are finite. -/
def sectionAccepted (integers : List Int32) (floats : List CallerFloat) (d : SectionDescriptor)
    : Bool :=
  !isLighting d.sectionType
    || (0 ≤ d.rowCount && 0 ≤ d.intOffset && 0 ≤ d.floatOffset
      && d.intOffset.toInt + d.rowCount.toInt * 3 ≤ integers.length
      && d.floatOffset.toInt + d.rowCount.toInt * sectionStride d.sectionType ≤ floats.length
      && ((floats.drop d.floatOffset.toNatClampNeg).take
        (d.rowCount.toNatClampNeg * sectionStride d.sectionType)).all Option.isSome)

def composeRowFloats (generation : UInt64) (integers : List Int32) (floats : List CallerFloat)
    (d : SectionDescriptor) (s : DensePresentationState) (row : Nat) : DensePresentationState :=
  let ints := integers.drop (d.intOffset.toNatClampNeg + row * 3)
  let v := floats.drop (d.floatOffset.toNatClampNeg + row * sectionStride d.sectionType)
  let (s, updated) := s.updateTargetFloats generation d.sectionType (ints.getD 1 0)
    (ints.getD 2 0).toUInt32 (some v)
  if updated then s else { s with unresolvedRows := s.unresolvedRows + 1 }

def composeSectionFloats (generation : UInt64) (integers : List Int32) (floats : List CallerFloat)
    (s : DensePresentationState) (d : SectionDescriptor) : DensePresentationState :=
  if isLighting d.sectionType then
    (List.range d.rowCount.toNatClampNeg).foldl (composeRowFloats generation integers floats d) s
  else
    s

def sectionDescriptors (descriptors : List Int32) : List SectionDescriptor :=
  let frame : SectionedVisualFrame := { descriptors := descriptors }
  (List.range frame.sectionCount).map frame.descriptor

def composeBuffers (generation : UInt64) (descriptors integers : CallerBuffer Int32)
    (floats : CallerBuffer CallerFloat) : DensePresentationState × Bool :=
  let sections := sectionDescriptors descriptors.items
  if generation ≠ s.generation ∨ descriptors.count % kVisualSectionDescriptorStride ≠ 0
      ∨ descriptors.missing ∨ integers.missing ∨ floats.missing then
    (s, false)
  else if !sections.all (sectionAccepted integers.items floats.items) then
    (s, false)
  else
    (sections.foldl (composeSectionFloats generation integers.items floats.items)
      { s with unresolvedRows := 0 }, true)

/-! ### The operations -/

/-- What a caller asks of the state, `fresh` is the number of the generation that it may start. -/
inductive Operation where
  | install (fresh : UInt64) (outputs : List RequestedOutput) (targets : List TargetBinding)
  | installGroups (representatives : List Int32)
  | invalidate
  | update (generation : UInt64) (index : Nat) (lightingSection : Int32) (mask : UInt32)
      (v : Option (List CallerFloat))
  | updateTarget (generation : UInt64) (lightingSection target : Int32) (mask : UInt32)
      (v : Option (List CallerFloat))
  | compose (generation : UInt64) (descriptors integers : CallerBuffer Int32)
      (floats : CallerBuffer CallerFloat)
  | finish (generation : UInt64)
  | trace (enabled : Bool)

/-- The state after an operation and what the operation answers. -/
def apply (s : DensePresentationState) : Operation → DensePresentationState × Bool
  | .install fresh outputs targets => s.installOutputs fresh outputs targets
  | .installGroups representatives => s.installGroups representatives
  | .invalidate => (s.invalidateRenderer, true)
  | .update generation index lightingSection mask v =>
    s.updateFloats generation index lightingSection mask v
  | .updateTarget generation lightingSection target mask v =>
    s.updateTargetFloats generation lightingSection target mask v
  | .compose generation descriptors integers floats =>
    s.composeBuffers generation descriptors integers floats
  | .finish generation => (s.finishSnapshot generation, true)
  | .trace enabled => ({ s with traceEnabled := enabled }, true)

/-- The operations that change everything they are asked for or nothing. -/
def Operation.Atomic : Operation → Prop
  | .install .. | .installGroups .. | .compose .. => True
  | _ => False

def runOperations (operations : List Operation) : DensePresentationState :=
  operations.foldl (fun s operation => (s.apply operation).1) {}

end DensePresentationState
end Peraviz.Presentation
