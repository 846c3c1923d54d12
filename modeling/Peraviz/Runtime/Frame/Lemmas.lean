import Mathlib.Algebra.GroupWithZero.Nat
import Mathlib.Data.List.GetD
import Peraviz.Runtime.Frame.Impl

/-!
This module contains the packing invariant of a frame: its descriptors are those of the sections
appended so far, and the buffers end where the last of them ends. A packed frame whose sections are
installed passes the check of the schema.
-/

namespace Peraviz.Runtime

def VisualSectionType.rowInts : VisualSectionType → Nat
  | .geometryTransform => 4
  | .emitterIntensity => 3
  | .emitterColor => 3
  | .beamOptics => 3
  | .wheelSelection => 8
  | .wheelMotion => 6
  | .temporalOutput => 4
  | .goboSelection => 9
  | .goboRotation => 7
  | .shutterState => 10

def VisualSectionType.rowFloats : VisualSectionType → Nat
  | .geometryTransform => 2
  | .emitterIntensity => 5
  | .emitterColor => 4
  | .beamOptics => 3
  | .wheelSelection => 8
  | .wheelMotion => 4
  | .temporalOutput => 2
  | .goboSelection => 1
  | .goboRotation => 3
  | .shutterState => 7

def VisualSectionType.schema (type : VisualSectionType) : VisualSectionSchema :=
  ⟨type.toInt32, Int32.ofNat type.rowInts, Int32.ofNat type.rowFloats, 0⟩

theorem VisualSectionType.toInt32_injective {a b : VisualSectionType} (h : a.toInt32 = b.toInt32)
    : a = b := by
  revert h
  cases a <;> cases b <;> decide

def VisualFrameSchemaCapabilities.has (capabilities : VisualFrameSchemaCapabilities)
    : VisualSectionType → Bool
  | .geometryTransform => capabilities.hasTransform
  | .emitterIntensity => capabilities.hasIntensity
  | .emitterColor => capabilities.hasColor
  | .beamOptics => capabilities.hasOptics
  | .wheelSelection => capabilities.hasWheelSelection
  | .wheelMotion => capabilities.hasWheelMotion
  | .temporalOutput => capabilities.hasTemporal
  | .goboSelection => capabilities.hasGoboSelection
  | .goboRotation => capabilities.hasGoboRotation
  | .shutterState => capabilities.hasShutter

theorem mem_addSection {present : Bool} {type : VisualSectionType} {ints floats : Int32}
    {s : VisualSectionSchema}
    : s ∈ addSection present type ints floats ↔ present = true ∧ s = ⟨type.toInt32, ints, floats, 0⟩
    := by
  cases present <;> simp [addSection]

theorem mem_makeVisualFrameSchema {generation : Int32}
    {capabilities : VisualFrameSchemaCapabilities} {s : VisualSectionSchema}
    : s ∈ (makeVisualFrameSchema generation capabilities).sections
        ↔ ∃ type, capabilities.has type = true ∧ s = type.schema := by
  simp only [makeVisualFrameSchema, List.mem_append, mem_addSection]
  constructor
  . intro h
    rcases h with ((((((((h | h) | h) | h) | h) | h) | h) | h) | h) | h
    . exact ⟨.geometryTransform, h⟩
    . exact ⟨.emitterIntensity, h⟩
    . exact ⟨.emitterColor, h⟩
    . exact ⟨.beamOptics, h⟩
    . exact ⟨.wheelSelection, h⟩
    . exact ⟨.wheelMotion, h⟩
    . exact ⟨.temporalOutput, h⟩
    . exact ⟨.goboSelection, h⟩
    . exact ⟨.goboRotation, h⟩
    . exact ⟨.shutterState, h⟩
  . intro ⟨type, hhas, hs⟩
    subst hs
    cases type <;> simp only [VisualFrameSchemaCapabilities.has] at hhas
      <;> simp [hhas, VisualSectionType.schema, VisualSectionType.rowInts,
        VisualSectionType.rowFloats, VisualSectionType.toInt32]

theorem section?_makeVisualFrameSchema {generation : Int32}
    {capabilities : VisualFrameSchemaCapabilities} {type : VisualSectionType}
    (h : capabilities.has type = true)
    : (makeVisualFrameSchema generation capabilities).section? type.toInt32 = some type.schema := by
  unfold VisualFrameSchema.section?
  generalize hfind : List.find? _ _ = found
  cases found with
  | none =>
    have hmem : type.schema ∈ (makeVisualFrameSchema generation capabilities).sections :=
      mem_makeVisualFrameSchema.mpr ⟨type, h, rfl⟩
    have := List.find?_eq_none.mp hfind _ (List.mem_reverse.mpr hmem)
    simp [VisualSectionType.schema] at this
  | some s =>
    have hmem := List.mem_of_find?_eq_some hfind
    obtain ⟨type', _, hs⟩ := mem_makeVisualFrameSchema.mp (List.mem_reverse.mp hmem)
    have htype : s.sectionType = type.toInt32 := by simpa using List.find?_some hfind
    rw [hs] at htype
    rw [hs, VisualSectionType.toInt32_injective htype]

theorem strides_makeVisualFrameSchema (generation : Int32)
    (capabilities : VisualFrameSchemaCapabilities)
    : (makeVisualFrameSchema generation capabilities).sections.any (fun s =>
        s.rowStrideInts ≤ 0 || s.rowStrideFloats ≤ 0) = false := by
  rw [List.any_eq_false]
  intro s hs
  obtain ⟨type, _, rfl⟩ := mem_makeVisualFrameSchema.mp hs
  cases type <;> decide

/-! ### Packing -/

/-- A section by its type and the number of its rows. -/
abbrev SectionShape := VisualSectionType × Nat

def intCells (shapes : List SectionShape) : Nat :=
  (shapes.map (fun shape => shape.2 * shape.1.rowInts)).sum

def floatCells (shapes : List SectionShape) : Nat :=
  (shapes.map (fun shape => shape.2 * shape.1.rowFloats)).sum

/-- The descriptors of sections that follow each other from the given offsets on. -/
def shapeDescriptors : Nat → Nat → List SectionShape → List SectionDescriptor
  | _, _, [] => []
  | ints, floats, (type, rows) :: shapes =>
    ⟨type.toInt32, Int32.ofNat rows, Int32.ofNat ints, Int32.ofNat floats, 0⟩
      :: shapeDescriptors (ints + rows * type.rowInts) (floats + rows * type.rowFloats) shapes

def SectionDescriptor.cells (d : SectionDescriptor) : List Int32 :=
  [d.sectionType, d.rowCount, d.intOffset, d.floatOffset, d.flags]

theorem shapeDescriptors_concat (ints floats : Nat) (shapes : List SectionShape)
    (type : VisualSectionType) (rows : Nat)
    : shapeDescriptors ints floats (shapes ++ [(type, rows)])
        = shapeDescriptors ints floats shapes
          ++ [⟨type.toInt32, Int32.ofNat rows, Int32.ofNat (ints + intCells shapes),
            Int32.ofNat (floats + floatCells shapes), 0⟩] := by
  induction shapes generalizing ints floats with
  | nil => simp [shapeDescriptors, intCells, floatCells]
  | cons shape shapes ih =>
    simp only [List.cons_append, shapeDescriptors, ih, intCells, floatCells, List.map_cons,
      List.sum_cons, Nat.add_assoc]

structure Packed (frame : SectionedVisualFrame) (shapes : List SectionShape) : Prop where
  descriptors : frame.descriptors
    = (shapeDescriptors 0 0 shapes).flatMap SectionDescriptor.cells
  integers : frame.integers.length = intCells shapes
  floats : frame.floats.length = floatCells shapes

def SectionRow.Fits (type : VisualSectionType) (row : SectionRow) : Prop :=
  row.integers.length = type.rowInts ∧ row.floats.length = type.rowFloats

theorem length_flatMap_integers {type : VisualSectionType} {rows : List SectionRow}
    (h : ∀ row ∈ rows, row.Fits type)
    : (rows.flatMap SectionRow.integers).length = rows.length * type.rowInts := by
  rw [List.length_flatMap, List.map_congr_left (fun row hrow => (h row hrow).1)]
  simp

theorem length_flatMap_floats {type : VisualSectionType} {rows : List SectionRow}
    (h : ∀ row ∈ rows, row.Fits type)
    : (rows.flatMap SectionRow.floats).length = rows.length * type.rowFloats := by
  rw [List.length_flatMap, List.map_congr_left (fun row hrow => (h row hrow).2)]
  simp

theorem Packed.appendRows {frame : SectionedVisualFrame} {shapes : List SectionShape}
    (h : Packed frame shapes) {type : VisualSectionType} {rows : List SectionRow}
    (hrows : ∀ row ∈ rows, row.Fits type)
    : Packed (appendRows frame type rows) (shapes ++ [(type, rows.length)]) := by
  constructor
  . simp only [Runtime.appendRows, appendDescriptor]
    rw [shapeDescriptors_concat, List.flatMap_append, h.descriptors, h.integers, h.floats]
    simp [SectionDescriptor.cells]
  . simp only [Runtime.appendRows, appendDescriptor, List.length_append, h.integers]
    rw [length_flatMap_integers hrows]
    simp [intCells]
  . simp only [Runtime.appendRows, appendDescriptor, List.length_append, h.floats]
    rw [length_flatMap_floats hrows]
    simp [floatCells]

/-! ### The check of a packed frame -/

theorem descriptor_flatMap (ds : List SectionDescriptor) (frame : SectionedVisualFrame)
    (h : frame.descriptors = ds.flatMap SectionDescriptor.cells)
    : (List.range frame.sectionCount).map frame.descriptor = ds := by
  have hlength : frame.descriptors.length = ds.length * 5 := by
    rw [h, List.length_flatMap, List.map_congr_left (fun d _ => (rfl : d.cells.length = 5))]
    simp
  have hcount : frame.sectionCount = ds.length := by
    unfold SectionedVisualFrame.sectionCount kVisualSectionDescriptorStride
    omega
  rw [hcount]
  apply List.ext_getElem
  . simp
  . intro i hi hi'
    simp only [List.getElem_map, List.getElem_range]
    have hdrop : ds.drop i = ds[i] :: ds.drop (i + 1) := List.drop_eq_getElem_cons hi'
    have hfront : ((ds.take i).flatMap SectionDescriptor.cells).length = i * 5 := by
      rw [List.length_flatMap, List.map_congr_left (fun d _ => (rfl : d.cells.length = 5))]
      simp
      omega
    have hcells : frame.descriptors = (ds.take i).flatMap SectionDescriptor.cells
        ++ (ds[i].cells ++ (ds.drop (i + 1)).flatMap SectionDescriptor.cells) := by
      rw [← List.flatMap_cons, ← hdrop, ← List.flatMap_append, List.take_append_drop, h]
    have hget (k : Nat) : frame.descriptors.getD (i * 5 + k) 0
        = (ds[i].cells ++ (ds.drop (i + 1)).flatMap SectionDescriptor.cells).getD k 0 := by
      rw [hcells, List.getD_append_right _ _ _ _ (by omega), hfront]
      congr 1
      omega
    unfold SectionedVisualFrame.descriptor kVisualSectionDescriptorStride
    have h0 := hget 0
    simp only [Nat.add_zero] at h0
    simp only [h0, hget, SectionDescriptor.cells]
    rfl

theorem toInt_ofNat_of_lt {n : Nat} (h : n < 2 ^ 31) : (Int32.ofNat n).toInt = n :=
  Int32.toInt_ofNat_of_lt h

theorem rangeFits_ofNat {offset rows stride size : Nat} (hstride : 0 < stride)
    (hstride' : stride < 2 ^ 31) (hfit : offset + rows * stride ≤ size) (hsize : size < 2 ^ 31)
    : rangeFits (Int32.ofNat offset) (Int32.ofNat rows) (Int32.ofNat stride) size
        = some ((offset : Int) + rows * stride) := by
  have hrows : rows ≤ rows * stride := Nat.le_mul_of_pos_right rows hstride
  have ho := toInt_ofNat_of_lt (n := offset) (by omega)
  have hr := toInt_ofNat_of_lt (n := rows) (by omega)
  have hs := toInt_ofNat_of_lt hstride'
  have hmax : Int32.maxValue.toInt = 2 ^ 31 - 1 := by decide
  have hzero : (0 : Int32).toInt = 0 := rfl
  have hcast : (rows : Int) * stride = ((rows * stride : Nat) : Int) := by simp
  unfold rangeFits
  simp only [Int32.lt_iff_toInt_lt, Int32.le_iff_toInt_le, ho, hr, hs, hmax, hzero, hcast]
  rw [if_neg (by omega), if_neg (by omega), if_pos (by omega)]

/-- The ranges seen so far end before the sections to come. -/
structure SeenSections.Behind (seen : SeenSections) (ints floats : Nat)
    (shapes : List SectionShape) : Prop where
  types : ∀ shape ∈ shapes, shape.1.toInt32 ∉ seen.types
  ints : ∀ range ∈ seen.intRanges, range.2 ≤ ints
  floats : ∀ range ∈ seen.floatRanges, range.2 ≤ floats

theorem overlaps_of_le {a b : Int × Int} (h : b.2 ≤ a.1) : overlaps a b = false := by
  simp [overlaps]
  omega

theorem any_overlaps_of_le {range : Int × Int} {ranges : List (Int × Int)}
    (h : ∀ r ∈ ranges, r.2 ≤ range.1) : ranges.any (overlaps range) = false := by
  rw [List.any_eq_false]
  intro r hr
  simp [overlaps_of_le (h r hr)]

theorem VisualSectionType.rowInts_pos (type : VisualSectionType)
    : 0 < type.rowInts ∧ type.rowInts < 2 ^ 31 := by
  cases type <;> decide

theorem VisualSectionType.rowFloats_pos (type : VisualSectionType)
    : 0 < type.rowFloats ∧ type.rowFloats < 2 ^ 31 := by
  cases type <;> decide

-- The sections of a packed frame pass the loop of the check from any point on.
theorem foldlM_validateSection {schema : VisualFrameSchema} {frame : SectionedVisualFrame}
    (hints : frame.integers.length < 2 ^ 31) (hfloats : frame.floats.length < 2 ^ 31)
    {shapes : List SectionShape}
    (hinstalled : ∀ shape ∈ shapes, schema.section? shape.1.toInt32 = some shape.1.schema)
    (hnodup : (shapes.map Prod.fst).Nodup) {ints floats : Nat} {seen : SeenSections}
    (hseen : seen.Behind ints floats shapes)
    (hfitInts : ints + intCells shapes ≤ frame.integers.length)
    (hfitFloats : floats + floatCells shapes ≤ frame.floats.length)
    : ∃ seen', (shapeDescriptors ints floats shapes).foldlM (validateSection schema frame) seen
        = .ok seen' := by
  induction shapes generalizing ints floats seen with
  | nil => exact ⟨seen, rfl⟩
  | cons shape shapes ih =>
    obtain ⟨type, rows⟩ := shape
    simp only [List.map_cons, List.nodup_cons] at hnodup
    simp only [intCells, floatCells, List.map_cons, List.sum_cons] at hfitInts hfitFloats
    have hsection := hinstalled (type, rows) List.mem_cons_self
    have hfresh := hseen.types (type, rows) List.mem_cons_self
    have hintRange := @rangeFits_ofNat ints rows _ _ type.rowInts_pos.1
      type.rowInts_pos.2 (by omega) hints
    have hfloatRange := @rangeFits_ofNat floats rows _ _ type.rowFloats_pos.1
      type.rowFloats_pos.2 (by omega) hfloats
    have hio := toInt_ofNat_of_lt (n := ints) (by omega)
    have hfo := toInt_ofNat_of_lt (n := floats) (by omega)
    simp only [shapeDescriptors, List.foldlM_cons]
    rw [validateSection]
    simp only [hfresh, if_false, hsection, VisualSectionType.schema]
    rw [if_neg (by simp)]
    simp only [hintRange, hfloatRange, hio, hfo]
    rw [any_overlaps_of_le hseen.ints, any_overlaps_of_le hseen.floats]
    apply ih (fun s hs => hinstalled s (List.mem_cons_of_mem _ hs)) hnodup.2
    . constructor
      . intro s hs
        simp only [List.mem_cons, not_or]
        refine ⟨?_, hseen.types s (List.mem_cons_of_mem _ hs)⟩
        intro heq
        apply hnodup.1
        rw [← VisualSectionType.toInt32_injective heq]
        exact List.mem_map_of_mem hs
      . intro r hr
        rcases List.mem_cons.mp hr with rfl | hr
        . simp
        . have := hseen.ints r hr
          push_cast
          have : (0 : Int) ≤ rows * type.rowInts := Int.mul_nonneg (by omega) (by omega)
          omega
      . intro r hr
        rcases List.mem_cons.mp hr with rfl | hr
        . simp
        . have := hseen.floats r hr
          push_cast
          have : (0 : Int) ≤ rows * type.rowFloats := Int.mul_nonneg (by omega) (by omega)
          omega
    . simp only [intCells]
      omega
    . simp only [floatCells]
      omega

/-- The sections start where the one before ends, and the last one ends with the buffers. -/
def Tiles (schema : VisualFrameSchema) (frame : SectionedVisualFrame)
    : List SectionDescriptor → Int → Int → Prop
  | [], ints, floats => ints = frame.integers.length ∧ floats = frame.floats.length
  | d :: ds, ints, floats =>
    d.intOffset.toInt = ints ∧ d.floatOffset.toInt = floats ∧ 0 ≤ d.rowCount.toInt
      ∧ ∃ installed, schema.section? d.sectionType = some installed
        ∧ Tiles schema frame ds (ints + d.rowCount.toInt * installed.rowStrideInts.toInt)
          (floats + d.rowCount.toInt * installed.rowStrideFloats.toInt)

def SectionedVisualFrame.sections (frame : SectionedVisualFrame) : List SectionDescriptor :=
  (List.range frame.sectionCount).map frame.descriptor

theorem tiles_shapeDescriptors {schema : VisualFrameSchema} {frame : SectionedVisualFrame}
    (hints : frame.integers.length < 2 ^ 31) (hfloats : frame.floats.length < 2 ^ 31)
    {shapes : List SectionShape}
    (hinstalled : ∀ shape ∈ shapes, schema.section? shape.1.toInt32 = some shape.1.schema)
    {ints floats : Nat} (hfitInts : ints + intCells shapes = frame.integers.length)
    (hfitFloats : floats + floatCells shapes = frame.floats.length)
    : Tiles schema frame (shapeDescriptors ints floats shapes) ints floats := by
  induction shapes generalizing ints floats with
  | nil =>
    simp only [intCells, floatCells, List.map_nil, List.sum_nil] at hfitInts hfitFloats
    simp only [shapeDescriptors, Tiles]
    omega
  | cons shape shapes ih =>
    obtain ⟨type, rows⟩ := shape
    simp only [intCells, floatCells, List.map_cons, List.sum_cons] at hfitInts hfitFloats
    have hrows : rows ≤ rows * type.rowInts := Nat.le_mul_of_pos_right rows type.rowInts_pos.1
    have hr := toInt_ofNat_of_lt (n := rows) (by omega)
    refine ⟨toInt_ofNat_of_lt (by omega), toInt_ofNat_of_lt (by omega), ?_, type.schema,
      hinstalled (type, rows) List.mem_cons_self, ?_⟩
    . rw [hr]
      omega
    . simp only [VisualSectionType.schema, hr, toInt_ofNat_of_lt type.rowInts_pos.2,
        toInt_ofNat_of_lt type.rowFloats_pos.2]
      apply ih (fun s hs => hinstalled s (List.mem_cons_of_mem _ hs))
      . simp only [intCells]
        omega
      . simp only [floatCells]
        omega

-- A packed frame passes the check of a schema in which its sections are installed.
theorem Packed.accepted {generation : Int32} {capabilities : VisualFrameSchemaCapabilities}
    {frame : SectionedVisualFrame} {shapes : List SectionShape} (h : Packed frame shapes)
    (hmajor : frame.protocolMajor = kVisualProtocolMajor)
    (hminor : frame.protocolMinor = kVisualProtocolMinor)
    (hgeneration : frame.schemaGeneration = generation)
    (hinstalled : ∀ shape ∈ shapes, capabilities.has shape.1 = true)
    (hnodup : (shapes.map Prod.fst).Nodup) (hints : intCells shapes < 2 ^ 31)
    (hfloats : floatCells shapes < 2 ^ 31)
    : (validateSectionedVisualFrame (makeVisualFrameSchema generation capabilities) frame).valid
          = true
        ∧ Tiles (makeVisualFrameSchema generation capabilities) frame frame.sections 0 0 := by
  have hsection (shape : SectionShape) (hs : shape ∈ shapes) :=
    @section?_makeVisualFrameSchema generation _ _ (hinstalled shape hs)
  have hds := descriptor_flatMap _ frame h.descriptors
  have hlength : frame.descriptors.length % kVisualSectionDescriptorStride = 0 := by
    rw [h.descriptors, List.length_flatMap,
      List.map_congr_left (fun d _ => (rfl : d.cells.length = 5))]
    simp [kVisualSectionDescriptorStride]
  rw [← h.integers] at hints
  rw [← h.floats] at hfloats
  constructor
  . obtain ⟨seen', hrun⟩ := @foldlM_validateSection _ _ hints hfloats _ hsection hnodup 0 0
      {} ⟨by simp, by simp, by simp⟩
      (by simp [h.integers]) (by simp [h.floats])
    unfold validateSectionedVisualFrame
    rw [if_neg (by simp [hmajor, hminor, makeVisualFrameSchema]),
      if_neg (by simp [hgeneration, makeVisualFrameSchema]), if_neg (by simp [hlength]),
      strides_makeVisualFrameSchema, hds, hrun]
    rfl
  . rw [SectionedVisualFrame.sections, hds]
    exact tiles_shapeDescriptors hints hfloats hsection (by simp [h.integers])
      (by simp [h.floats])

end Peraviz.Runtime
