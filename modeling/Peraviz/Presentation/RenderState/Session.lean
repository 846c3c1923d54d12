import Peraviz.Presentation.RenderState.Projection
import Peraviz.Runtime.Async.Retirement

/-!
This module contains the transaction of a session: a runtime core is consumed, its lighting rows are
composed into the physical outputs, these are projected onto the renderer, and what has changed is
completed into a snapshot.
-/

namespace Peraviz.Presentation

open Peraviz.Runtime

/-! ### The serial transaction -/

structure DirectResult where
  core : Runtime.Core
  frame : SectionedVisualFrame
  state : DensePresentationState
  projection : RenderGroupProjection

/-- A stale binding is rejected in front of the transaction. -/
def consumeDirect (p : Platform) (now : ℚ) (core : Runtime.Core) (state : DensePresentationState)
    (projection : RenderGroupProjection) (generation : UInt64) (schemaGeneration : Int32)
    : Option DirectResult :=
  if generation ≠ state.generation ∨ schemaGeneration ≠ core.schema.schemaGeneration
      ∨ projection.members.length ≠ state.bindings.length then
    none
  else
    let (core, frame) := consumeLatestVisualFrame p core now
    let (state, composed) := state.composeSections generation frame
    if !composed then
      none
    else
      some ⟨core, frame, state, projection.prepare p state⟩

/-! ### Completion -/

structure CompletedPresentationSnapshot where
  schemaGeneration : Int32
  bindingGeneration : UInt64
  runtimeNowSeconds : ℚ
  physicalRows : List PreparedOutput := []
  renderRows : List PreparedRenderRow := []
  domains : SectionedVisualFrame := {}
  updatedFixtures : List Int32 := []
  lightingSummary : List Int32 := List.replicate 9 0
  lightingRows : Int := 0
  intermediateBytesAvoided : Int := 0
  unresolvedRows : Nat := 0
  candidates : Nat := 0
  deriving DecidableEq

def bump (summary : List Int32) (index : Nat) (count : Int32) : List Int32 :=
  summary.modify index (· + count)

/-- A row of a lighting section, whose fixture was updated. -/
def completeRow (measured : Bool) (frame : SectionedVisualFrame) (d : SectionDescriptor)
    (stride : Nat) (snapshot : CompletedPresentationSnapshot) (row : Nat)
    : CompletedPresentationSnapshot :=
  let integers := frame.integers.drop (d.intOffset.toNatClampNeg + row * stride)
  let bits := (List.range 6).filter (fun bit =>
    (integers.getD 2 0).toUInt32 &&& 1 <<< UInt32.ofNat bit ≠ 0)
  { snapshot with
    updatedFixtures := snapshot.updatedFixtures ++ [integers.getD 0 0]
    lightingSummary :=
      if measured then
        bits.foldl (fun summary bit => bump summary (bit + 3) 1) snapshot.lightingSummary
      else
        snapshot.lightingSummary
  }

/-- Lighting sections are counted, the others are copied. -/
def completeSection (measured : Bool) (schema : VisualFrameSchema) (frame : SectionedVisualFrame)
    (snapshot : CompletedPresentationSnapshot) (d : SectionDescriptor)
    : CompletedPresentationSnapshot :=
  match schema.sections.find? (fun installed => installed.sectionType == d.sectionType) with
  | none => snapshot
  | some installed =>
    let count := d.rowCount.toNatClampNeg
    let ints := installed.rowStrideInts.toNatClampNeg
    let floats := installed.rowStrideFloats.toNatClampNeg
    if DensePresentationState.isLighting d.sectionType then
      (List.range count).foldl (completeRow measured frame d ints) { snapshot with
        lightingRows := snapshot.lightingRows + count
        intermediateBytesAvoided :=
          snapshot.intermediateBytesAvoided + (20 + count * (ints + floats) * 4)
        lightingSummary :=
          bump snapshot.lightingSummary (d.sectionType - 2).toNatClampNeg d.rowCount
      }
    else
      let domains := snapshot.domains
      { snapshot with domains := { domains with
          descriptors := domains.descriptors ++ [d.sectionType, d.rowCount,
            Int32.ofNat domains.integers.length, Int32.ofNat domains.floats.length, d.flags]
          integers := domains.integers
            ++ (frame.integers.drop d.intOffset.toNatClampNeg).take (count * ints)
          floats := domains.floats
            ++ (frame.floats.drop d.floatOffset.toNatClampNeg).take (count * floats)
      } }

/-- The pending mask and the composed values of every dirty output. -/
def physicalRows (result : DirectResult) : List PreparedOutput :=
  result.state.dirty.map (fun index =>
    ⟨index, result.state.pendingMask index, result.projection.memberValues index⟩)

def complete (measured : Bool) (now : ℚ) (schemaGeneration : Int32) (binding : UInt64)
    (result : DirectResult) : CompletedPresentationSnapshot × DensePresentationState :=
  let frame := result.frame
  let rows := physicalRows result
  let snapshot := ((List.range frame.sectionCount).map frame.descriptor).foldl
    (completeSection measured result.core.schema frame) {
      schemaGeneration := schemaGeneration
      bindingGeneration := binding
      runtimeNowSeconds := now
      physicalRows := rows
      renderRows := result.projection.prepared
      domains := { schemaGeneration := schemaGeneration }
      unresolvedRows := result.state.unresolvedRows
      candidates := max result.state.candidates rows.length
    }
  ({ snapshot with updatedFixtures := sortUnique snapshot.updatedFixtures },
    result.state.finishSnapshot binding)

/-! ### The session -/

/-- What the coordinator owns besides the core. -/
structure RenderSession where
  state : DensePresentationState
  projection : RenderGroupProjection
  binding : UInt64
  schema : Int32
  /-- The number of the completed snapshots. -/
  completed : Nat := 0

namespace RenderSession

def start (core : Runtime.Core) (state : DensePresentationState)
    (projection : RenderGroupProjection) : RenderSession where
  state := state
  projection := projection
  binding := state.generation
  schema := core.schema.schemaGeneration

/-- What one transaction finds: its time, the time of its end, and whether it is traced. -/
structure Conditions where
  now : ℚ
  completedAt : ℚ
  measured : Bool
  deriving DecidableEq

def consume (p : Platform) (conditions : Nat → Conditions) (c : Presented RenderSession)
    : Option (Presented RenderSession × CompletedPresentationSnapshot) :=
  let r := c.presentation
  let found := conditions r.completed
  (consumeDirect p found.now c.core { r.state with traceEnabled := found.measured } r.projection
    r.binding r.schema).map (fun result =>
      let (snapshot, state) := complete found.measured found.completedAt r.schema r.binding result
      (⟨(consumeLatestVisualFrame p c.core found.now).1, { r with
          state := state
          projection := result.projection
          completed := r.completed + 1
        }, Presented.distinct_step c.distinct (.consume found.now)⟩, snapshot))

def pipelineCore (p : Platform) (conditions : Nat → Conditions)
    : Core (Presented RenderSession) CompletedPresentationSnapshot where
  heldUniverses c := c.core.heldUniverses
  submitUniverseFrame := Presented.submit
  consume := consume p conditions
  schemaGeneration c := c.core.schema.schemaGeneration
  nodup_heldUniverses := Presented.nodup_heldUniverses

end RenderSession
end Peraviz.Presentation
