import Mathlib.Data.Rat.Defs
import Mathlib.Data.List.Basic

/-!
This module contains the sectioned frame a runtime emits, the schema it advertises for it and the
check of one against the other.
-/

namespace Peraviz.Runtime

def kVisualProtocolMajor : Int32 := 2
def kVisualProtocolMinor : Int32 := 6
def kVisualSectionDescriptorStride : Nat := 5

inductive VisualSectionType where
  | geometryTransform
  | emitterIntensity
  | emitterColor
  | beamOptics
  | wheelSelection
  | wheelMotion
  | temporalOutput
  | goboSelection
  | goboRotation
  | shutterState
  deriving DecidableEq, Repr

def VisualSectionType.toInt32 : VisualSectionType → Int32
  | .geometryTransform => 1
  | .emitterIntensity => 2
  | .emitterColor => 3
  | .beamOptics => 4
  | .wheelSelection => 5
  | .wheelMotion => 6
  | .temporalOutput => 8
  | .goboSelection => 14
  | .goboRotation => 15
  | .shutterState => 16

structure VisualSectionSchema where
  sectionType : Int32 := 0
  rowStrideInts : Int32 := 0
  rowStrideFloats : Int32 := 0
  flags : Int32 := 0
  deriving DecidableEq

structure VisualFrameSchema where
  protocolMajor : Int32 := kVisualProtocolMajor
  protocolMinor : Int32 := kVisualProtocolMinor
  schemaGeneration : Int32 := 1
  sections : List VisualSectionSchema := []
  deriving DecidableEq

structure VisualFrameSchemaCapabilities where
  hasTransform : Bool := false
  hasIntensity : Bool := false
  hasColor : Bool := false
  hasOptics : Bool := false
  hasWheelSelection : Bool := false
  hasWheelMotion : Bool := false
  hasTemporal : Bool := false
  hasGoboSelection : Bool := false
  hasGoboRotation : Bool := false
  hasShutter : Bool := false
  deriving DecidableEq

structure SectionedVisualFrame where
  protocolMajor : Int32 := kVisualProtocolMajor
  protocolMinor : Int32 := kVisualProtocolMinor
  schemaGeneration : Int32 := 1
  descriptors : List Int32 := []
  integers : List Int32 := []
  floats : List ℚ := []
  deriving DecidableEq

structure VisualFrameValidationResult where
  valid : Bool := true
  message : String := ""
  deriving DecidableEq

def addSection (present : Bool) (type : VisualSectionType) (intStride floatStride : Int32)
    : List VisualSectionSchema :=
  if present then [⟨type.toInt32, intStride, floatStride, 0⟩] else []

def makeVisualFrameSchema (schemaGeneration : Int32) (capabilities : VisualFrameSchemaCapabilities)
    : VisualFrameSchema where
  schemaGeneration := schemaGeneration
  sections := addSection capabilities.hasTransform .geometryTransform 4 2
    ++ addSection capabilities.hasIntensity .emitterIntensity 3 5
    ++ addSection capabilities.hasColor .emitterColor 3 4
    ++ addSection capabilities.hasOptics .beamOptics 3 3
    ++ addSection capabilities.hasWheelSelection .wheelSelection 8 8
    ++ addSection capabilities.hasWheelMotion .wheelMotion 6 4
    ++ addSection capabilities.hasTemporal .temporalOutput 4 2
    ++ addSection capabilities.hasGoboSelection .goboSelection 9 1
    ++ addSection capabilities.hasGoboRotation .goboRotation 7 3
    ++ addSection capabilities.hasShutter .shutterState 10 7

/-- The end of a range of rows, if it fits into a buffer of `size` cells. -/
def rangeFits (offset rowCount stride : Int32) (size : Nat) : Option Int :=
  if offset < 0 ∨ rowCount < 0 ∨ stride ≤ 0 then
    none
  else
    let product := rowCount.toInt * stride.toInt
    if product > Int32.maxValue.toInt then
      none
    else
      let rangeEnd := offset.toInt + product
      if 0 ≤ rangeEnd ∧ rangeEnd ≤ size then some rangeEnd else none

structure SectionDescriptor where
  sectionType : Int32
  rowCount : Int32
  intOffset : Int32
  floatOffset : Int32
  flags : Int32
  deriving DecidableEq

def SectionedVisualFrame.descriptor (frame : SectionedVisualFrame) (index : Nat)
    : SectionDescriptor :=
  let base := index * kVisualSectionDescriptorStride
  {
    sectionType := frame.descriptors.getD base 0
    rowCount := frame.descriptors.getD (base + 1) 0
    intOffset := frame.descriptors.getD (base + 2) 0
    floatOffset := frame.descriptors.getD (base + 3) 0
    flags := frame.descriptors.getD (base + 4) 0
  }

def overlaps (a b : Int × Int) : Bool := a.1 < b.2 && b.1 < a.2

/-- What the loop of the check has collected of the sections so far. -/
structure SeenSections where
  types : List Int32 := []
  intRanges : List (Int × Int) := []
  floatRanges : List (Int × Int) := []

/-- `sections_by_type` keeps the last section of a type. -/
def VisualFrameSchema.section? (schema : VisualFrameSchema) (type : Int32)
    : Option VisualSectionSchema :=
  schema.sections.reverse.find? (fun installed => installed.sectionType == type)

def VisualSectionFlagMandatory : Int32 := 1

def validateSection (schema : VisualFrameSchema) (frame : SectionedVisualFrame)
    (seen : SeenSections) (descriptor : SectionDescriptor) : Except String SeenSections :=
  if descriptor.sectionType ∈ seen.types then
    .error "Visual frame contains a duplicate section type."
  else
    match schema.section? descriptor.sectionType with
    | none =>
      .error "Visual frame contains a section type that is not installed in this schema."
    | some installed =>
      if descriptor.flags &&& VisualSectionFlagMandatory ≠ 0
          ∧ installed.sectionType ≠ descriptor.sectionType then
        .error "Visual frame contains an unsupported mandatory section."
      else
        match rangeFits descriptor.intOffset descriptor.rowCount installed.rowStrideInts
              frame.integers.length,
            rangeFits descriptor.floatOffset descriptor.rowCount installed.rowStrideFloats
              frame.floats.length with
        | some intEnd, some floatEnd =>
          let intRange := (descriptor.intOffset.toInt, intEnd)
          let floatRange := (descriptor.floatOffset.toInt, floatEnd)
          if seen.intRanges.any (overlaps intRange) then
            .error "Visual frame integer payload regions overlap."
          else if seen.floatRanges.any (overlaps floatRange) then
            .error "Visual frame float payload regions overlap."
          else
            .ok {
              types := descriptor.sectionType :: seen.types
              intRanges := intRange :: seen.intRanges
              floatRanges := floatRange :: seen.floatRanges
            }
        | _, _ => .error "Visual frame section rows overrun a packed payload buffer."

def SectionedVisualFrame.sectionCount (frame : SectionedVisualFrame) : Nat :=
  frame.descriptors.length / kVisualSectionDescriptorStride

def validateSectionedVisualFrame (schema : VisualFrameSchema) (frame : SectionedVisualFrame)
    : VisualFrameValidationResult :=
  if frame.protocolMajor ≠ schema.protocolMajor ∨ frame.protocolMinor ≠ schema.protocolMinor then
    ⟨false, "Visual frame protocol version does not match the installed schema."⟩
  else if frame.schemaGeneration ≠ schema.schemaGeneration then
    ⟨false, "Visual frame schema generation is stale."⟩
  else if frame.descriptors.length % kVisualSectionDescriptorStride ≠ 0 then
    ⟨false, "Visual frame descriptor buffer has a malformed stride."⟩
  else if schema.sections.any (fun s => s.rowStrideInts ≤ 0 || s.rowStrideFloats ≤ 0) then
    ⟨false, "Installed schema contains an invalid row stride."⟩
  else
    match ((List.range frame.sectionCount).map frame.descriptor).foldlM
        (validateSection schema frame) {} with
    | .error message => ⟨false, message⟩
    | .ok _ => {}

/-- The cells of one row of a section. -/
structure SectionRow where
  integers : List Int32
  floats : List ℚ
  deriving DecidableEq

def appendDescriptor (frame : SectionedVisualFrame) (type : VisualSectionType)
    (rowCount intOffset floatOffset : Int32) : SectionedVisualFrame :=
  { frame with
    descriptors := frame.descriptors ++ [type.toInt32, rowCount, intOffset, floatOffset, 0] }

/-- The rows of a section and the descriptor that points at them. -/
def appendRows (frame : SectionedVisualFrame) (type : VisualSectionType) (rows : List SectionRow)
    : SectionedVisualFrame :=
  appendDescriptor
    { frame with
      integers := frame.integers ++ rows.flatMap SectionRow.integers
      floats := frame.floats ++ rows.flatMap SectionRow.floats }
    type (Int32.ofNat rows.length) (Int32.ofNat frame.integers.length)
    (Int32.ofNat frame.floats.length)

/-- A section whose rows are counted in an `int32_t` before any is written. -/
def appendCountedSection (frame : SectionedVisualFrame) (type : VisualSectionType)
    (rows : List SectionRow) : SectionedVisualFrame :=
  if Int32.ofNat rows.length > 0 then appendRows frame type rows else frame

def appendSection (frame : SectionedVisualFrame) (type : VisualSectionType)
    (rows : List SectionRow) : SectionedVisualFrame :=
  if rows.isEmpty then frame else appendRows frame type rows

end Peraviz.Runtime
