import Peraviz.Runtime.Color
import Peraviz.Runtime.Frame.Impl

/-!
This module contains the rows that the domains of the runtime put out during one consume, and the
packing of these rows into a frame.
-/

namespace Peraviz.Runtime

def VisualChangeNone : UInt32 := 0
def VisualChangeTransform : UInt32 := 1 <<< (0 : UInt32)
def VisualChangeDimmer : UInt32 := 1 <<< (1 : UInt32)
def VisualChangeColor : UInt32 := 1 <<< (2 : UInt32)
def VisualChangeZoom : UInt32 := 1 <<< (3 : UInt32)
def VisualChangeGobo : UInt32 := 1 <<< (4 : UInt32)
def VisualChangeGoboRotation : UInt32 := 1 <<< (5 : UInt32)
def VisualChangePrism : UInt32 := 1 <<< (6 : UInt32)
def VisualChangeStrobe : UInt32 := 1 <<< (7 : UInt32)
def VisualChangeMaterial : UInt32 := 1 <<< (8 : UInt32)
def VisualChangeBeamTopology : UInt32 := 1 <<< (9 : UInt32)

structure ComponentState where
  pan : ℚ := 0
  tilt : ℚ := 0
  dimmer : ℚ := 0
  zoom : ℚ := 0
  zoomNormalized : ℚ := 0
  hasZoomPhysical : Bool := false
  beamEnergy : ℚ := 0
  spotEnergy : ℚ := 0
  beamHalfAngle : ℚ := 25 / 2
  beamAngle : ℚ := 25
  beamIntensity : ℚ := 0
  materialEnergy : ℚ := 0
  initialized : Bool := false
  deriving DecidableEq

structure PendingRow where
  fixtureId : Int32 := 0
  renderTargetId : Int32 := 0
  changedVisualMask : UInt32 := 0
  state : ComponentState := {}
  color : CookedEmitterColor := {}
  wheelId : Int32 := 0
  slotA : Int32 := 0
  slotB : Int32 := 0
  normalizedPhase : ℚ := 0
  splitFraction : ℚ := 0
  boundaryAngleDegrees : ℚ := 0
  wheelMode : CompiledWheelMode := .listed .select
  revision : Int32 := 0
  wheelRow : Bool := false
  deriving DecidableEq

def PendingRow.changes (row : PendingRow) (mask : UInt32) : Bool :=
  row.changedVisualMask &&& mask != 0

inductive GoboRotationMode where
  | indexed
  | continuous
  | hold
  deriving DecidableEq

def GoboRotationMode.toInt32 : GoboRotationMode → Int32
  | .indexed => 1
  | .continuous => 2
  | .hold => 3

structure GoboRow where
  fixtureId : Int32
  beamTargetId : Int32
  wheelId : Int32
  wheelInstanceIndex : Int32
  slotIndex : Int32
  assetId : Int32
  mode : CompiledGoboSelectionMode
  revision : Int32
  deriving DecidableEq

structure GoboRotationRow where
  fixtureId : Int32
  beamTargetId : Int32
  wheelId : Int32
  wheelInstanceIndex : Int32
  mode : GoboRotationMode
  phaseDegrees : ℚ
  angularVelocityDps : ℚ
  referenceSeconds : ℚ
  revision : Int32
  deriving DecidableEq

structure Emission where
  rows : List PendingRow := []
  goboRows : List GoboRow := []
  goboRotationRows : List GoboRotationRow := []
  deriving DecidableEq

/-- The component that carries the pan of a fixture, and the one that carries its tilt. -/
structure ComponentIds where
  pan : Int32 → Int32 := fun _ => 0
  tilt : Int32 → Int32 := fun _ => 0

def transformRow (ids : ComponentIds) (row : PendingRow) : SectionRow where
  integers := [row.fixtureId, ids.pan row.fixtureId, ids.tilt row.fixtureId,
    row.changedVisualMask.toInt32]
  floats := [row.state.pan, row.state.tilt]

def intensityRow (row : PendingRow) : SectionRow where
  integers := [row.fixtureId, row.renderTargetId, row.changedVisualMask.toInt32]
  floats := [row.state.dimmer, row.state.beamEnergy, row.state.spotEnergy, row.state.beamIntensity,
    row.state.materialEnergy]

def colorRow (row : PendingRow) : SectionRow where
  integers := [row.fixtureId, row.renderTargetId, row.changedVisualMask.toInt32]
  floats := [row.color.srgbRed, row.color.srgbGreen, row.color.srgbBlue, row.color.gain]

def wheelRow (row : PendingRow) : SectionRow where
  integers := [row.fixtureId, row.renderTargetId, row.wheelId, row.wheelMode.toUnderlying,
    row.slotA, row.slotB, VisualChangeColor.toInt32, row.revision]
  floats := [row.normalizedPhase, row.splitFraction, row.boundaryAngleDegrees, row.color.srgbRed,
    row.color.srgbGreen, row.color.srgbBlue, row.color.gain, 2 / 100]

def opticsRow (row : PendingRow) : SectionRow where
  integers := [row.fixtureId, row.renderTargetId, row.changedVisualMask.toInt32]
  floats := [row.state.beamHalfAngle, row.state.beamAngle, row.state.zoomNormalized]

def GoboRow.toSectionRow (row : GoboRow) : SectionRow where
  integers := [row.fixtureId, row.beamTargetId, row.wheelId, row.wheelInstanceIndex, row.slotIndex,
    row.assetId, row.mode.toUnderlying, (VisualChangeGobo ||| VisualChangeBeamTopology).toInt32,
    row.revision]
  floats := [0]

def GoboRotationRow.toSectionRow (row : GoboRotationRow) : SectionRow where
  integers := [row.fixtureId, row.beamTargetId, row.wheelId, row.wheelInstanceIndex,
    row.mode.toInt32, VisualChangeGoboRotation.toInt32, row.revision]
  floats := [row.phaseDegrees, row.angularVelocityDps, row.referenceSeconds]

namespace Emission

def transformRows (ids : ComponentIds) (e : Emission) : List SectionRow :=
  (e.rows.filter (fun row => row.changes VisualChangeTransform)).map (transformRow ids)

def intensityRows (e : Emission) : List SectionRow :=
  (e.rows.filter (fun row => row.changes (VisualChangeDimmer ||| VisualChangeMaterial
    ||| VisualChangeBeamTopology))).map intensityRow

def colorRows (e : Emission) : List SectionRow :=
  (e.rows.filter (fun row => row.changes VisualChangeColor && !row.wheelRow)).map colorRow

def wheelRows (e : Emission) : List SectionRow :=
  (e.rows.filter PendingRow.wheelRow).map Runtime.wheelRow

def opticsRows (e : Emission) : List SectionRow :=
  (e.rows.filter (fun row => row.changes VisualChangeZoom)).map opticsRow

def append (e e' : Emission) : Emission :=
  ⟨e.rows ++ e'.rows, e.goboRows ++ e'.goboRows, e.goboRotationRows ++ e'.goboRotationRows⟩

end Emission

def packSections (ids : ComponentIds) (frame : SectionedVisualFrame) (e : Emission)
    : SectionedVisualFrame :=
  let frame := appendCountedSection frame .geometryTransform (e.transformRows ids)
  let frame := appendCountedSection frame .emitterIntensity e.intensityRows
  let frame := appendCountedSection frame .emitterColor e.colorRows
  let frame := appendCountedSection frame .wheelSelection e.wheelRows
  let frame := appendCountedSection frame .beamOptics e.opticsRows
  let frame := appendSection frame .goboSelection (e.goboRows.map GoboRow.toSectionRow)
  appendSection frame .goboRotation (e.goboRotationRows.map GoboRotationRow.toSectionRow)

end Peraviz.Runtime
