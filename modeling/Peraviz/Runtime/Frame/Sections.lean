import Peraviz.Packing.Basic
import Peraviz.Runtime.Frame.Accepted

/-!
This module contains how the readers of a frame take it apart: every descriptor points at rows of the
strides that the schema has installed for its type, a type that is not installed is skipped. A
section that is written behind the buffers of a frame is read behind what was read of it so far.
-/

namespace Peraviz.Runtime

/-- A section as it is read, its rows under its type. -/
abbrev ReadSection := Int32 × List SectionRow

namespace SectionedVisualFrame

/-- The rows that a descriptor points at. -/
def rowsOf (frame : SectionedVisualFrame) (installed : VisualSectionSchema)
    (d : SectionDescriptor) : List SectionRow :=
  List.zipWith SectionRow.mk
    (Packing.readRows installed.rowStrideInts.toNatClampNeg d.intOffset.toNatClampNeg
      d.rowCount.toNatClampNeg frame.integers)
    (Packing.readRows installed.rowStrideFloats.toNatClampNeg d.floatOffset.toNatClampNeg
      d.rowCount.toNatClampNeg frame.floats)

def readSection (frame : SectionedVisualFrame) (schema : VisualFrameSchema)
    (d : SectionDescriptor) : Option ReadSection :=
  (schema.section? d.sectionType).map (fun installed => (d.sectionType, frame.rowsOf installed d))

def read (frame : SectionedVisualFrame) (schema : VisualFrameSchema) : List ReadSection :=
  frame.sections.filterMap (frame.readSection schema)

/-- The frame with one more section, its rows behind the cells of the buffers. -/
def push (frame : SectionedVisualFrame) (d : SectionDescriptor) (rows : List SectionRow)
    : SectionedVisualFrame :=
  { frame with
    descriptors := frame.descriptors ++ d.cells
    integers := frame.integers ++ rows.flatMap SectionRow.integers
    floats := frame.floats ++ rows.flatMap SectionRow.floats }

end SectionedVisualFrame

/-- A section whose cells lie in the buffers, in strides that are installed. -/
structure SectionDescriptor.Inside (d : SectionDescriptor) (installed : VisualSectionSchema)
    (frame : SectionedVisualFrame) : Prop where
  intOffset_nonneg : 0 ≤ d.intOffset.toInt
  floatOffset_nonneg : 0 ≤ d.floatOffset.toInt
  ints : d.intOffset.toNatClampNeg
    + d.rowCount.toNatClampNeg * installed.rowStrideInts.toNatClampNeg ≤ frame.integers.length
  floats : d.floatOffset.toNatClampNeg
    + d.rowCount.toNatClampNeg * installed.rowStrideFloats.toNatClampNeg ≤ frame.floats.length

theorem RowsFit.clamped {offset rowCount stride : Int32} {size : Nat}
    (h : RowsFit offset rowCount stride size)
    : (offset.toNatClampNeg : Int) = offset.toInt
        ∧ (rowCount.toNatClampNeg : Int) = rowCount.toInt
        ∧ (stride.toNatClampNeg : Int) = stride.toInt := by
  have hoffset := h.offset_nonneg
  have hrows := h.rows_nonneg
  have hstride := h.stride_pos
  unfold Int32.toNatClampNeg
  omega

theorem RowsFit.inside {offset rowCount stride : Int32} {size : Nat}
    (h : RowsFit offset rowCount stride size)
    : offset.toNatClampNeg + rowCount.toNatClampNeg * stride.toNatClampNeg ≤ size := by
  obtain ⟨hoffset, hrows, hstride⟩ := h.clamped
  have hend := h.end_le
  rw [← hoffset, ← hrows, ← hstride] at hend
  exact_mod_cast hend

/-- A frame of whole descriptors inside of its buffers, and what is read from it. -/
structure Reads (schema : VisualFrameSchema) (frame : SectionedVisualFrame)
    (content : List ReadSection) : Prop where
  whole : frame.descriptors = frame.sections.flatMap SectionDescriptor.cells
  inside : ∀ d ∈ frame.sections, ∀ installed, schema.section? d.sectionType = some installed
    → d.Inside installed frame
  content : frame.read schema = content

variable {schema : VisualFrameSchema} {frame : SectionedVisualFrame}

theorem inside_of_fits {installed : VisualSectionSchema}
    {d : SectionDescriptor} (h : d.Fits schema frame)
    (hinstalled : schema.section? d.sectionType = some installed) : d.Inside installed frame := by
  obtain ⟨found, hfound, hints, hfloats⟩ := h
  rw [hinstalled] at hfound
  cases hfound
  exact ⟨hints.offset_nonneg, hfloats.offset_nonneg, hints.inside, hfloats.inside⟩

theorem range_nonneg {d : SectionDescriptor} (h : d.Fits schema frame)
    (buffer : PayloadBuffer)
    : 0 ≤ (schema.range buffer d).2 - (schema.range buffer d).1 := by
  obtain ⟨installed, hinstalled, hints, hfloats⟩ := h
  rw [VisualFrameSchema.range_of_installed hinstalled]
  have hpos : 0 ≤ d.rowCount.toInt * (buffer.stride installed).toInt := by
    apply Int.mul_nonneg hints.rows_nonneg
    cases buffer with
    | ints => exact Int.le_of_lt hints.stride_pos
    | floats => exact Int.le_of_lt hfloats.stride_pos
  simp only
  omega

theorem rowsOf_eq_map (installed : VisualSectionSchema) (d : SectionDescriptor)
    : frame.rowsOf installed d = (List.range d.rowCount.toNatClampNeg).map (fun row => {
        integers := (frame.integers.drop (d.intOffset.toNatClampNeg
          + row * installed.rowStrideInts.toNatClampNeg)).take
            installed.rowStrideInts.toNatClampNeg
        floats := (frame.floats.drop (d.floatOffset.toNatClampNeg
          + row * installed.rowStrideFloats.toNatClampNeg)).take
            installed.rowStrideFloats.toNatClampNeg
      }) := by
  unfold SectionedVisualFrame.rowsOf Packing.readRows
  rw [List.zipWith_map_left, List.zipWith_map_right, List.zipWith_self]

theorem rowsOf_cells {installed : VisualSectionSchema} {d : SectionDescriptor}
    (hinside : d.Inside installed frame)
    : (frame.rowsOf installed d).flatMap SectionRow.integers
          = (frame.integers.drop d.intOffset.toNatClampNeg).take
            (d.rowCount.toNatClampNeg * installed.rowStrideInts.toNatClampNeg)
        ∧ (frame.rowsOf installed d).flatMap SectionRow.floats
          = (frame.floats.drop d.floatOffset.toNatClampNeg).take
            (d.rowCount.toNatClampNeg * installed.rowStrideFloats.toNatClampNeg) := by
  rw [rowsOf_eq_map, List.flatMap_def, List.flatMap_def, List.map_map, List.map_map]
  constructor
  . rw [← Packing.flatten_readRows hinside.ints]
    rfl
  . rw [← Packing.flatten_readRows hinside.floats]
    rfl

theorem sections_of_descriptors {ds : List SectionDescriptor}
    (h : frame.descriptors = ds.flatMap SectionDescriptor.cells) : frame.sections = ds :=
  descriptor_flatMap ds frame h

theorem Reads.empty (h : frame.descriptors = []) : Reads schema frame [] := by
  have hsections : frame.sections = [] := sections_of_descriptors h
  constructor
  . rw [hsections, h]
    rfl
  . simp [hsections]
  . simp [SectionedVisualFrame.read, hsections]

theorem zipWith_mk_map (rows : List SectionRow)
    : List.zipWith SectionRow.mk (rows.map SectionRow.integers) (rows.map SectionRow.floats)
        = rows := by
  induction rows with
  | nil => rfl
  | cons row rows ih => simp [ih]

/-- The widths of the rows are the strides of the section. -/
def Strided (installed : VisualSectionSchema) (rows : List SectionRow) : Prop :=
  ∀ row ∈ rows, row.integers.length = installed.rowStrideInts.toNatClampNeg
    ∧ row.floats.length = installed.rowStrideFloats.toNatClampNeg

theorem Strided.ints {installed : VisualSectionSchema} {rows : List SectionRow}
    (h : Strided installed rows)
    : ∀ cells ∈ rows.map SectionRow.integers,
        cells.length = installed.rowStrideInts.toNatClampNeg := by
  intro cells hcells
  obtain ⟨row, hrow, rfl⟩ := List.mem_map.mp hcells
  exact (h row hrow).1

theorem Strided.floats {installed : VisualSectionSchema} {rows : List SectionRow}
    (h : Strided installed rows)
    : ∀ cells ∈ rows.map SectionRow.floats,
        cells.length = installed.rowStrideFloats.toNatClampNeg := by
  intro cells hcells
  obtain ⟨row, hrow, rfl⟩ := List.mem_map.mp hcells
  exact (h row hrow).2

theorem strided_rowsOf {installed : VisualSectionSchema} {d : SectionDescriptor}
    (h : d.Inside installed frame) : Strided installed (frame.rowsOf installed d) := by
  rw [rowsOf_eq_map]
  intro row hrow
  obtain ⟨index, hindex, rfl⟩ := List.mem_map.mp hrow
  constructor
  . apply Packing.length_of_mem_readRows h.ints
    exact List.mem_map_of_mem hindex
  . apply Packing.length_of_mem_readRows h.floats
    exact List.mem_map_of_mem hindex

@[simp]
theorem length_rowsOf (installed : VisualSectionSchema) (d : SectionDescriptor)
    : (frame.rowsOf installed d).length = d.rowCount.toNatClampNeg := by
  rw [rowsOf_eq_map, List.length_map, List.length_range]

/-- A descriptor that points behind the buffers of a frame, at as many rows as are pushed. -/
structure SectionDescriptor.Points (d : SectionDescriptor) (frame : SectionedVisualFrame)
    (rows : List SectionRow) : Prop where
  rowCount : d.rowCount.toInt = rows.length
  intOffset : d.intOffset.toInt = frame.integers.length
  floatOffset : d.floatOffset.toInt = frame.floats.length

section Push

variable {d : SectionDescriptor} {rows : List SectionRow}

theorem SectionDescriptor.Points.clamped (h : d.Points frame rows)
    : d.rowCount.toNatClampNeg = rows.length
        ∧ d.intOffset.toNatClampNeg = frame.integers.length
        ∧ d.floatOffset.toNatClampNeg = frame.floats.length := by
  unfold Int32.toNatClampNeg
  rw [h.rowCount, h.intOffset, h.floatOffset]
  exact ⟨rfl, rfl, rfl⟩

theorem rowsOf_push {installed : VisualSectionSchema} (hpoints : d.Points frame rows)
    (hrows : Strided installed rows) : (frame.push d rows).rowsOf installed d = rows := by
  obtain ⟨hcount, hints, hfloats⟩ := hpoints.clamped
  unfold SectionedVisualFrame.rowsOf SectionedVisualFrame.push
  dsimp only
  rw [hcount, hints, hfloats, List.flatMap_def, List.flatMap_def]
  have hinteger := Packing.readRows_flatten_between hrows.ints frame.integers []
  have hfloat := Packing.readRows_flatten_between hrows.floats frame.floats []
  rw [List.append_nil, List.length_map] at hinteger hfloat
  rw [hinteger, hfloat, zipWith_mk_map]

theorem SectionDescriptor.Inside.push {e : SectionDescriptor} {installed : VisualSectionSchema}
    (h : e.Inside installed frame) : e.Inside installed (frame.push d rows) := by
  have hints := h.ints
  have hfloats := h.floats
  refine ⟨h.intOffset_nonneg, h.floatOffset_nonneg, ?_, ?_⟩
  . simp only [SectionedVisualFrame.push, List.length_append]
    omega
  . simp only [SectionedVisualFrame.push, List.length_append]
    omega

theorem rowsOf_push_of_inside {e : SectionDescriptor} {installed : VisualSectionSchema}
    (h : e.Inside installed frame)
    : (frame.push d rows).rowsOf installed e = frame.rowsOf installed e := by
  unfold SectionedVisualFrame.rowsOf SectionedVisualFrame.push
  dsimp only
  rw [Packing.readRows_append_right h.ints, Packing.readRows_append_right h.floats]

theorem length_flatMap_of_strided {installed : VisualSectionSchema} (hrows : Strided installed rows)
    : (rows.flatMap SectionRow.integers).length
          = rows.length * installed.rowStrideInts.toNatClampNeg
        ∧ (rows.flatMap SectionRow.floats).length
          = rows.length * installed.rowStrideFloats.toNatClampNeg := by
  constructor
  . rw [List.length_flatMap, List.map_congr_left (fun row hrow => (hrows row hrow).1)]
    simp
  . rw [List.length_flatMap, List.map_congr_left (fun row hrow => (hrows row hrow).2)]
    simp

theorem cells_rowsOf {installed : VisualSectionSchema} (h : d.Fits schema frame)
    (hinstalled : schema.section? d.sectionType = some installed)
    : (((frame.rowsOf installed d).flatMap SectionRow.integers).length : Int)
          = (schema.range .ints d).2 - (schema.range .ints d).1
        ∧ (((frame.rowsOf installed d).flatMap SectionRow.floats).length : Int)
          = (schema.range .floats d).2 - (schema.range .floats d).1 := by
  obtain ⟨hints, hfloats⟩ := length_flatMap_of_strided
    (strided_rowsOf (inside_of_fits h hinstalled))
  obtain ⟨found, hfound, hintFit, hfloatFit⟩ := h
  rw [hinstalled] at hfound
  cases hfound
  rw [hints, hfloats, length_rowsOf, VisualFrameSchema.range_of_installed hinstalled,
    VisualFrameSchema.range_of_installed hinstalled]
  constructor
  . rw [Int.natCast_mul, hintFit.clamped.2.1, hintFit.clamped.2.2]
    simp only [PayloadBuffer.offset, PayloadBuffer.stride]
    omega
  . rw [Int.natCast_mul, hfloatFit.clamped.2.1, hfloatFit.clamped.2.2]
    simp only [PayloadBuffer.offset, PayloadBuffer.stride]
    omega

theorem inside_push {installed : VisualSectionSchema} (hpoints : d.Points frame rows)
    (hrows : Strided installed rows) : d.Inside installed (frame.push d rows) := by
  obtain ⟨hcount, hints, hfloats⟩ := hpoints.clamped
  obtain ⟨hintegers, hfloat⟩ := length_flatMap_of_strided hrows
  constructor
  . rw [hpoints.intOffset]
    omega
  . rw [hpoints.floatOffset]
    omega
  . simp [SectionedVisualFrame.push, hcount, hints, hintegers]
  . simp [SectionedVisualFrame.push, hcount, hfloats, hfloat]

theorem Reads.sections_push {content : List ReadSection} (h : Reads schema frame content)
    : (frame.push d rows).sections = frame.sections ++ [d] := by
  apply sections_of_descriptors
  simp only [SectionedVisualFrame.push, List.flatMap_append, List.flatMap_singleton, ← h.whole]

-- What is pushed last is read last, if its type is installed.
theorem Reads.push {content : List ReadSection} (h : Reads schema frame content)
    (hpoints : d.Points frame rows)
    (hrows : ∀ installed, schema.section? d.sectionType = some installed
      → Strided installed rows)
    : Reads schema (frame.push d rows) (content
        ++ ((schema.section? d.sectionType).map (fun _ => (d.sectionType, rows))).toList) := by
  have hsections : (frame.push d rows).sections = frame.sections ++ [d] := h.sections_push
  constructor
  . rw [hsections, List.flatMap_append, ← h.whole, List.flatMap_singleton]
    rfl
  . rw [hsections]
    intro e he installed hinstalled
    rcases List.mem_append.mp he with he | he
    . exact (h.inside e he installed hinstalled).push
    . rw [List.mem_singleton.mp he] at hinstalled ⊢
      exact inside_push hpoints (hrows installed hinstalled)
  . unfold SectionedVisualFrame.read
    rw [hsections, List.filterMap_append, ← h.content]
    congr 1
    . apply List.filterMap_congr
      intro e he
      unfold SectionedVisualFrame.readSection
      cases hinstalled : schema.section? e.sectionType with
      | none => rfl
      | some installed =>
        rw [Option.map_some, Option.map_some,
          rowsOf_push_of_inside (h.inside e he installed hinstalled)]
    . unfold SectionedVisualFrame.readSection
      cases hinstalled : schema.section? d.sectionType with
      | none => simp [hinstalled]
      | some installed =>
        simp [hinstalled, rowsOf_push hpoints (hrows installed hinstalled)]

end Push

end Peraviz.Runtime
