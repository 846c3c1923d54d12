import Peraviz.Runtime.Frame.Lemmas

/-!
This module contains what the check of a frame accepts, without its loop over the sections: each of
them is installed and lies in the buffers, and of any two the types differ and in each buffer one
lies behind the other.
-/

namespace Peraviz.Runtime

/-- The rows of a section lie in a buffer of `size` cells, and their cells are counted in range. -/
structure RowsFit (offset rowCount stride : Int32) (size : Nat) : Prop where
  offset_nonneg : 0 ≤ offset.toInt
  rows_nonneg : 0 ≤ rowCount.toInt
  stride_pos : 0 < stride.toInt
  count_le : rowCount.toInt * stride.toInt ≤ Int32.maxValue.toInt
  end_le : offset.toInt + rowCount.toInt * stride.toInt ≤ size

theorem rangeFits_eq_some {offset rowCount stride : Int32} {size : Nat} {rangeEnd : Int}
    : rangeFits offset rowCount stride size = some rangeEnd
        ↔ RowsFit offset rowCount stride size
          ∧ offset.toInt + rowCount.toInt * stride.toInt = rangeEnd := by
  unfold rangeFits
  simp only [Int32.lt_iff_toInt_lt, Int32.le_iff_toInt_le, Int32.toInt_zero]
  constructor
  . intro h
    split at h
    . cases h
    next hsigns =>
      split at h
      . cases h
      next hcount =>
        split at h
        next hwithin =>
          refine ⟨⟨?_, ?_, ?_, ?_, hwithin.2⟩, Option.some.inj h⟩
          . omega
          . omega
          . omega
          . omega
        next => cases h
  . intro ⟨hfit, hend⟩
    have hproduct : 0 ≤ rowCount.toInt * stride.toInt :=
      Int.mul_nonneg hfit.rows_nonneg (Int.le_of_lt hfit.stride_pos)
    have hoffset := hfit.offset_nonneg
    have hrows := hfit.rows_nonneg
    have hstride := hfit.stride_pos
    rw [if_neg (by omega), if_neg (Int.not_lt.mpr hfit.count_le), if_pos ⟨by omega, hfit.end_le⟩,
      hend]

/-- The two buffers that the rows of a frame are packed into. -/
inductive PayloadBuffer where
  | ints
  | floats
  deriving DecidableEq

namespace PayloadBuffer

def stride : PayloadBuffer → VisualSectionSchema → Int32
  | ints => VisualSectionSchema.rowStrideInts
  | floats => VisualSectionSchema.rowStrideFloats

def offset : PayloadBuffer → SectionDescriptor → Int32
  | ints => SectionDescriptor.intOffset
  | floats => SectionDescriptor.floatOffset

def size : PayloadBuffer → SectionedVisualFrame → Nat
  | ints => fun frame => frame.integers.length
  | floats => fun frame => frame.floats.length

end PayloadBuffer

namespace VisualFrameSchema

variable (schema : VisualFrameSchema) (buffer : PayloadBuffer) (d : SectionDescriptor)

def strideIn : Int :=
  (schema.section? d.sectionType).elim 0 (fun installed => (buffer.stride installed).toInt)

/-- The cells of a section in a buffer, from the first up to the one behind the last. -/
def range : Int × Int :=
  ((buffer.offset d).toInt, (buffer.offset d).toInt + d.rowCount.toInt * schema.strideIn buffer d)

variable {schema buffer d}

theorem strideIn_of_installed {installed : VisualSectionSchema}
    (h : schema.section? d.sectionType = some installed)
    : schema.strideIn buffer d = (buffer.stride installed).toInt := by
  rw [strideIn, h]
  rfl

theorem range_of_installed {installed : VisualSectionSchema}
    (h : schema.section? d.sectionType = some installed)
    : schema.range buffer d = ((buffer.offset d).toInt,
        (buffer.offset d).toInt + d.rowCount.toInt * (buffer.stride installed).toInt) := by
  rw [range, strideIn_of_installed h]

end VisualFrameSchema

/-- One of two ranges ends where the other starts, or in front of it. -/
def RangesApart (a b : Int × Int) : Prop := a.2 ≤ b.1 ∨ b.2 ≤ a.1

theorem rangesApart_iff {a b : Int × Int} : RangesApart a b ↔ overlaps a b = false := by
  simp only [RangesApart, overlaps, Bool.and_eq_false_iff, decide_eq_false_iff_not]
  omega

theorem RangesApart.symm {a b : Int × Int} (h : RangesApart a b) : RangesApart b a := Or.symm h

def SectionDescriptor.Fits (d : SectionDescriptor) (schema : VisualFrameSchema)
    (frame : SectionedVisualFrame) : Prop :=
  ∃ installed, schema.section? d.sectionType = some installed
    ∧ RowsFit d.intOffset d.rowCount installed.rowStrideInts frame.integers.length
    ∧ RowsFit d.floatOffset d.rowCount installed.rowStrideFloats frame.floats.length

structure Apart (schema : VisualFrameSchema) (a b : SectionDescriptor) : Prop where
  types : a.sectionType ≠ b.sectionType
  ints : RangesApart (schema.range .ints a) (schema.range .ints b)
  floats : RangesApart (schema.range .floats a) (schema.range .floats b)

/-- A frame that its reader can take apart by the schema. -/
structure Conforms (schema : VisualFrameSchema) (frame : SectionedVisualFrame) : Prop where
  major : frame.protocolMajor = schema.protocolMajor
  minor : frame.protocolMinor = schema.protocolMinor
  generation : frame.schemaGeneration = schema.schemaGeneration
  whole : frame.descriptors.length % kVisualSectionDescriptorStride = 0
  strides : ∀ s ∈ schema.sections, 0 < s.rowStrideInts ∧ 0 < s.rowStrideFloats
  fits : ∀ d ∈ frame.sections, d.Fits schema frame
  apart : frame.sections.Pairwise (Apart schema)

/-! ### The loop -/

namespace SeenSections

/-- A section may follow those that were seen. -/
structure Admits (seen : SeenSections) (schema : VisualFrameSchema) (d : SectionDescriptor)
    : Prop where
  types : d.sectionType ∉ seen.types
  ints : ∀ range ∈ seen.intRanges, RangesApart (schema.range .ints d) range
  floats : ∀ range ∈ seen.floatRanges, RangesApart (schema.range .floats d) range

def add (seen : SeenSections) (schema : VisualFrameSchema) (d : SectionDescriptor)
    : SeenSections where
  types := d.sectionType :: seen.types
  intRanges := schema.range .ints d :: seen.intRanges
  floatRanges := schema.range .floats d :: seen.floatRanges

theorem admits_add {seen : SeenSections} {schema : VisualFrameSchema} {d e : SectionDescriptor}
    : (seen.add schema d).Admits schema e ↔ seen.Admits schema e ∧ Apart schema d e := by
  constructor
  . intro h
    have htypes := h.types
    have hints := h.ints
    have hfloats := h.floats
    simp only [add, List.mem_cons, not_or, forall_eq_or_imp] at htypes hints hfloats
    exact ⟨⟨htypes.2, hints.2, hfloats.2⟩,
      ⟨fun heq => htypes.1 heq.symm, hints.1.symm, hfloats.1.symm⟩⟩
  . intro ⟨hseen, hapart⟩
    constructor
    . simp only [add, List.mem_cons, not_or]
      exact ⟨fun heq => hapart.types heq.symm, hseen.types⟩
    . simp only [add, List.mem_cons, forall_eq_or_imp]
      exact ⟨hapart.ints.symm, hseen.ints⟩
    . simp only [add, List.mem_cons, forall_eq_or_imp]
      exact ⟨hapart.floats.symm, hseen.floats⟩

end SeenSections

variable {schema : VisualFrameSchema} {frame : SectionedVisualFrame}

theorem any_overlaps_eq_false {range : Int × Int} {ranges : List (Int × Int)}
    : ranges.any (overlaps range) = false ↔ ∀ r ∈ ranges, RangesApart range r := by
  simp only [List.any_eq_false, Bool.not_eq_true, rangesApart_iff]

theorem sectionType_of_section? {type : Int32} {installed : VisualSectionSchema}
    (h : schema.section? type = some installed) : installed.sectionType = type := by
  simpa using List.find?_some h

-- One section passes the loop if and only if it fits and the sections seen so far admit it.
theorem validateSection_eq_ok {seen seen' : SeenSections} {d : SectionDescriptor}
    : validateSection schema frame seen d = .ok seen'
        ↔ d.Fits schema frame ∧ seen.Admits schema d ∧ seen.add schema d = seen' := by
  unfold validateSection
  constructor
  . intro h
    split at h
    . cases h
    next htype =>
      split at h
      . cases h
      next installed hinstalled =>
        split at h
        . cases h
        . split at h
          next intEnd floatEnd hint hfloat =>
            obtain ⟨hintFit, rfl⟩ := rangeFits_eq_some.mp hint
            obtain ⟨hfloatFit, rfl⟩ := rangeFits_eq_some.mp hfloat
            dsimp only at h
            split at h
            . cases h
            next hints =>
              split at h
              . cases h
              next hfloats =>
                rw [Bool.not_eq_true, any_overlaps_eq_false] at hints hfloats
                cases h
                refine ⟨⟨installed, hinstalled, hintFit, hfloatFit⟩, ⟨htype, ?_, ?_⟩, ?_⟩
                . rw [VisualFrameSchema.range_of_installed hinstalled]
                  exact hints
                . rw [VisualFrameSchema.range_of_installed hinstalled]
                  exact hfloats
                . rw [SeenSections.add, VisualFrameSchema.range_of_installed hinstalled,
                    VisualFrameSchema.range_of_installed hinstalled]
                  rfl
          next => cases h
  . intro ⟨⟨installed, hinstalled, hint, hfloat⟩, hadmits, hadd⟩
    have hints := any_overlaps_eq_false.mpr hadmits.ints
    have hfloats := any_overlaps_eq_false.mpr hadmits.floats
    rw [VisualFrameSchema.range_of_installed hinstalled] at hints hfloats
    rw [if_neg hadmits.types, hinstalled]
    dsimp only
    -- the flag asks for a type that the table has found under another one
    rw [if_neg (by simp [sectionType_of_section? hinstalled]),
      rangeFits_eq_some.mpr ⟨hint, rfl⟩, rangeFits_eq_some.mpr ⟨hfloat, rfl⟩]
    dsimp only [PayloadBuffer.offset, PayloadBuffer.stride] at hints hfloats ⊢
    rw [hints, hfloats, ← hadd, SeenSections.add, VisualFrameSchema.range_of_installed hinstalled,
      VisualFrameSchema.range_of_installed hinstalled]
    rfl

theorem foldlM_validateSection_ok {ds : List SectionDescriptor} {seen : SeenSections}
    : (∃ seen', ds.foldlM (validateSection schema frame) seen = .ok seen')
        ↔ (∀ d ∈ ds, d.Fits schema frame) ∧ (∀ d ∈ ds, seen.Admits schema d)
          ∧ ds.Pairwise (Apart schema) := by
  induction ds generalizing seen with
  | nil => simp [pure, Except.pure]
  | cons d ds ih =>
    have hsplit : (∃ seen', (d :: ds).foldlM (validateSection schema frame) seen = .ok seen')
        ↔ d.Fits schema frame ∧ seen.Admits schema d
          ∧ ∃ seen', ds.foldlM (validateSection schema frame) (seen.add schema d) = .ok seen' := by
      rw [List.foldlM_cons]
      constructor
      . intro ⟨seen', h⟩
        cases hfirst : validateSection schema frame seen d with
        | error message =>
          rw [hfirst] at h
          cases h
        | ok next =>
          obtain ⟨hfits, hadmits, rfl⟩ := validateSection_eq_ok.mp hfirst
          rw [hfirst] at h
          exact ⟨hfits, hadmits, seen', h⟩
      . intro ⟨hfits, hadmits, seen', h⟩
        refine ⟨seen', ?_⟩
        rw [validateSection_eq_ok.mpr ⟨hfits, hadmits, rfl⟩]
        exact h
    rw [hsplit, ih]
    simp only [SeenSections.admits_add, List.forall_mem_cons, List.pairwise_cons]
    constructor
    . intro ⟨hfits, hadmits, hrest, hseen, hapart⟩
      exact ⟨⟨hfits, hrest⟩, ⟨hadmits, fun e he => (hseen e he).1⟩,
        fun e he => (hseen e he).2, hapart⟩
    . intro ⟨⟨hfits, hrest⟩, ⟨hadmits, hseen⟩, hfirst, hapart⟩
      exact ⟨hfits, hadmits, hrest, fun e he => ⟨hseen e he, hfirst e he⟩, hapart⟩

theorem strides_iff
    : schema.sections.any (fun s => s.rowStrideInts ≤ 0 || s.rowStrideFloats ≤ 0) = false
        ↔ ∀ s ∈ schema.sections, 0 < s.rowStrideInts ∧ 0 < s.rowStrideFloats := by
  simp only [List.any_eq_false, Bool.or_eq_true, decide_eq_true_eq, not_or, Int32.not_le]

theorem valid_iff_conforms (schema : VisualFrameSchema) (frame : SectionedVisualFrame)
    : (validateSectionedVisualFrame schema frame).valid = true ↔ Conforms schema frame := by
  unfold validateSectionedVisualFrame
  have hloop := @foldlM_validateSection_ok schema frame frame.sections {}
  constructor
  . intro h
    split at h
    . cases h
    next hversion =>
      split at h
      . cases h
      next hgeneration =>
        split at h
        . cases h
        next hwhole =>
          split at h
          . cases h
          next hstrides =>
            split at h
            . cases h
            next seen hseen =>
              obtain ⟨hfits, _, hapart⟩ := hloop.mp ⟨seen, hseen⟩
              simp only [not_or, not_not] at hversion hgeneration hwhole
              exact ⟨hversion.1, hversion.2, hgeneration, hwhole,
                strides_iff.mp (Bool.not_eq_true _ ▸ hstrides), hfits, hapart⟩
  . intro h
    obtain ⟨seen, hseen⟩ := hloop.mpr ⟨h.fits, fun _ _ => ⟨by simp, by simp, by simp⟩, h.apart⟩
    unfold SectionedVisualFrame.sections at hseen
    rw [if_neg (by simp [h.major, h.minor]), if_neg (by simp [h.generation]),
      if_neg (by simp [h.whole]), strides_iff.mpr h.strides, hseen]
    rfl

/-! ### The cells of an accepted frame -/

/-- A cell as a reader names it: the index of its section, its row in it and its column. -/
structure CellName where
  index : Nat
  row : Nat
  column : Nat
  deriving DecidableEq

/-- The place of a cell of a section in a buffer. -/
def VisualFrameSchema.place (schema : VisualFrameSchema) (buffer : PayloadBuffer)
    (d : SectionDescriptor) (row column : Nat) : Int :=
  (buffer.offset d).toInt + row * schema.strideIn buffer d + column

/-- The section of a cell, which has its row and its column. -/
structure CellName.In (cell : CellName) (schema : VisualFrameSchema) (buffer : PayloadBuffer)
    (frame : SectionedVisualFrame) (d : SectionDescriptor) : Prop where
  index : frame.sections[cell.index]? = some d
  row : (cell.row : Int) < d.rowCount.toInt
  column : (cell.column : Int) < schema.strideIn buffer d

theorem row_mul_le {row count : Nat} {stride : Int} (h : row < count) (hstride : 0 ≤ stride)
    : row * stride + stride ≤ count * stride := by
  have hle : ((row + 1 : Nat) : Int) * stride ≤ count * stride :=
    Int.mul_le_mul_of_nonneg_right (by omega) hstride
  have hsucc : ((row + 1 : Nat) : Int) = row + 1 := by omega
  rw [hsucc, Int.add_mul, Int.one_mul] at hle
  exact hle

section Places

variable {buffer : PayloadBuffer} {d e : SectionDescriptor} {c c' : CellName}

theorem CellName.In.place_mem_range (h : c.In schema buffer frame d)
    : (schema.range buffer d).1 ≤ schema.place buffer d c.row c.column
        ∧ schema.place buffer d c.row c.column < (schema.range buffer d).2 := by
  have hrow := h.row
  have hcolumn := h.column
  have hcount : ((d.rowCount.toInt.toNat : Nat) : Int) = d.rowCount.toInt := by omega
  have hlast := @row_mul_le c.row d.rowCount.toInt.toNat (schema.strideIn buffer d) (by omega)
    (by omega)
  have hfirst : 0 ≤ (c.row : Int) * schema.strideIn buffer d := Int.mul_nonneg (by omega) (by omega)
  rw [hcount] at hlast
  simp only [VisualFrameSchema.range, VisualFrameSchema.place]
  omega

-- Two rows of one section do not share a cell.
theorem CellName.In.eq_of_same (h : c.In schema buffer frame d) (h' : c'.In schema buffer frame d)
    (hplace : schema.place buffer d c.row c.column = schema.place buffer d c'.row c'.column)
    : c.row = c'.row ∧ c.column = c'.column := by
  have hcolumn := h.column
  have hcolumn' := h'.column
  have hstride : 0 ≤ schema.strideIn buffer d := by omega
  simp only [VisualFrameSchema.place] at hplace
  rcases Nat.lt_trichotomy c.row c'.row with hlt | heq | hlt
  . have := row_mul_le hlt hstride
    omega
  . rw [heq] at hplace
    omega
  . have := row_mul_le hlt hstride
    omega

theorem CellName.In.eq (h : c.In schema buffer frame d) (h' : c'.In schema buffer frame e)
    (hapart : frame.sections.Pairwise (fun a b =>
      RangesApart (schema.range buffer a) (schema.range buffer b)))
    (hplace : schema.place buffer d c.row c.column = schema.place buffer e c'.row c'.column)
    : c = c' := by
  have hrange := h.place_mem_range
  have hrange' := h'.place_mem_range
  obtain ⟨hi, rfl⟩ := List.getElem?_eq_some_iff.mp h.index
  obtain ⟨hj, rfl⟩ := List.getElem?_eq_some_iff.mp h'.index
  have hindex : c.index = c'.index := by
    rcases Nat.lt_trichotomy c.index c'.index with hlt | heq | hlt
    . have hranges := List.pairwise_iff_getElem.mp hapart _ _ hi hj hlt
      unfold RangesApart at hranges
      omega
    . exact heq
    . have hranges := List.pairwise_iff_getElem.mp hapart _ _ hj hi hlt
      unfold RangesApart at hranges
      omega
  obtain ⟨index, row, column⟩ := c
  obtain ⟨index', row', column'⟩ := c'
  dsimp only at hindex
  subst hindex
  obtain ⟨rfl, rfl⟩ := h.eq_of_same h' hplace
  rfl

theorem SectionDescriptor.Fits.within (h : d.Fits schema frame) (buffer : PayloadBuffer)
    : 0 ≤ (schema.range buffer d).1 ∧ (schema.range buffer d).2 ≤ buffer.size frame := by
  obtain ⟨installed, hinstalled, hints, hfloats⟩ := h
  rw [VisualFrameSchema.range_of_installed hinstalled]
  cases buffer with
  | ints => exact ⟨hints.offset_nonneg, hints.end_le⟩
  | floats => exact ⟨hfloats.offset_nonneg, hfloats.end_le⟩

theorem Apart.range (h : Apart schema d e) (buffer : PayloadBuffer)
    : RangesApart (schema.range buffer d) (schema.range buffer e) := by
  cases buffer with
  | ints => exact h.ints
  | floats => exact h.floats

end Places

-- The flags of the sections have no say in it. Every cell of an accepted frame has a place in its
-- buffer, which is the place of no other cell.
theorem accepted_iff_conforms (schema : VisualFrameSchema) (frame : SectionedVisualFrame)
    : ((validateSectionedVisualFrame schema frame).valid = true ↔ Conforms schema frame)
        ∧ ((validateSectionedVisualFrame schema frame).valid = true
          → ∀ buffer c d, CellName.In c schema buffer frame d
            → 0 ≤ schema.place buffer d c.row c.column
              ∧ schema.place buffer d c.row c.column < buffer.size frame
              ∧ ∀ c' e, CellName.In c' schema buffer frame e
                → schema.place buffer d c.row c.column = schema.place buffer e c'.row c'.column
                → c = c') := by
  refine ⟨valid_iff_conforms schema frame, ?_⟩
  intro hvalid buffer c d hc
  have hconforms := (valid_iff_conforms schema frame).mp hvalid
  have hwithin := (hconforms.fits d (List.mem_of_getElem? hc.index)).within buffer
  have hrange := hc.place_mem_range
  refine ⟨by omega, by omega, ?_⟩
  intro c' e hc' hplace
  exact hc.eq hc' (hconforms.apart.imp (fun h => h.range buffer)) hplace

end Peraviz.Runtime
