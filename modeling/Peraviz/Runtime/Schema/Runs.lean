import Peraviz.Runtime.Replay.Runs
import Peraviz.Runtime.Schema.Emission

/-!
This module contains the frames of a runtime as its readers see them: what the domains put out in a
consume is packed into one section for each kind of rows, the check of the advertised schema accepts
these sections where they are installed, and what is read back is what was put out. The same holds of
the replay of what is held.
-/

namespace Peraviz.Runtime

abbrev Section := VisualSectionType × List SectionRow

namespace Section

def shape (s : Section) : SectionShape := (s.1, s.2.length)

/-- The section as it is read by a schema with the capabilities. -/
def read (capabilities : VisualFrameSchemaCapabilities) (s : Section) : Option ReadSection :=
  if capabilities.has s.1 then some (s.1.toInt32, s.2) else none

def Fits (s : Section) : Prop := ∀ row ∈ s.2, row.Fits s.1

end Section

/-- The offsets of all cells fit into an `int32_t`. -/
def Addressable (sections : List Section) : Prop :=
  intCells (sections.map Section.shape) < 2 ^ 31 ∧ floatCells (sections.map Section.shape) < 2 ^ 31

instance (sections : List Section) : Decidable (Addressable sections) :=
  inferInstanceAs (Decidable (_ ∧ _))

/-- A frame that holds the sections one behind the other, those without a row are left out. -/
def frameOf (schemaGeneration : Int32) (sections : List Section) : SectionedVisualFrame :=
  sections.foldl (fun frame s => appendSection frame s.1 s.2)
    { schemaGeneration := schemaGeneration }

/-! ### Frames of sections -/

variable {capabilities : VisualFrameSchemaCapabilities} {generation : Int32}

theorem cells_concat (sections : List Section) (s : Section)
    : intCells ((sections ++ [s]).map Section.shape)
          = intCells (sections.map Section.shape) + s.2.length * s.1.rowInts
        ∧ floatCells ((sections ++ [s]).map Section.shape)
          = floatCells (sections.map Section.shape) + s.2.length * s.1.rowFloats := by
  simp [intCells, floatCells, Section.shape]

theorem Addressable.front {sections : List Section} {s : Section}
    (h : Addressable (sections ++ [s]))
    : Addressable sections ∧ s.2.length < 2 ^ 31 := by
  obtain ⟨hints, hfloats⟩ := h
  obtain ⟨heqInts, heqFloats⟩ := cells_concat sections s
  rw [heqInts] at hints
  rw [heqFloats] at hfloats
  have hrows : s.2.length ≤ s.2.length * s.1.rowInts := Nat.le_mul_of_pos_right _ s.1.rowInts_pos.1
  exact ⟨⟨by omega, by omega⟩, by omega⟩

theorem Addressable.both {front back : List Section} (h : Addressable (front ++ back))
    : intCells (front.map Section.shape) + intCells (back.map Section.shape) < 2 ^ 31
        ∧ floatCells (front.map Section.shape) + floatCells (back.map Section.shape) < 2 ^ 31 := by
  unfold Addressable intCells floatCells at h
  simpa [intCells, floatCells] using h

theorem appendRows_eq_push (frame : SectionedVisualFrame) (type : VisualSectionType)
    (rows : List SectionRow)
    : appendRows frame type rows = frame.push ⟨type.toInt32, Int32.ofNat rows.length,
        Int32.ofNat frame.integers.length, Int32.ofNat frame.floats.length, 0⟩ rows := rfl

theorem section?_of_not {type : VisualSectionType} (h : capabilities.has type = false)
    : (makeVisualFrameSchema generation capabilities).section? type.toInt32 = none := by
  unfold VisualFrameSchema.section?
  rw [List.find?_eq_none]
  intro s hs
  obtain ⟨other, hhas, rfl⟩ := mem_makeVisualFrameSchema.mp (List.mem_reverse.mp hs)
  simp only [VisualSectionType.schema, beq_iff_eq]
  intro heq
  rw [VisualSectionType.toInt32_injective heq, h] at hhas
  cases hhas

theorem VisualSectionType.strides (type : VisualSectionType)
    : type.schema.rowStrideInts.toNatClampNeg = type.rowInts
        ∧ type.schema.rowStrideFloats.toNatClampNeg = type.rowFloats := by
  exact ⟨Int32.toNatClampNeg_ofNat_of_lt type.rowInts_pos.2,
    Int32.toNatClampNeg_ofNat_of_lt type.rowFloats_pos.2⟩

theorem Section.Fits.strided {s : Section} (h : s.Fits) : Strided s.1.schema s.2 := by
  intro row hrow
  rw [s.1.strides.1, s.1.strides.2]
  exact h row hrow

/-- What is packed in a frame, and what is read from it by the schema. -/
structure Contains (capabilities : VisualFrameSchemaCapabilities) (generation : Int32)
    (frame : SectionedVisualFrame) (sections : List Section) : Prop where
  packed : Packed frame ((sections.filter (fun s => !s.2.isEmpty)).map Section.shape)
  reads : Reads (makeVisualFrameSchema generation capabilities) frame
    ((sections.filter (fun s => !s.2.isEmpty)).filterMap (Section.read capabilities))
  cells : frame.integers.length = intCells (sections.map Section.shape)
    ∧ frame.floats.length = floatCells (sections.map Section.shape)

theorem Contains.append {frame : SectionedVisualFrame} {sections : List Section} {s : Section}
    (h : Contains capabilities generation frame sections) (hfits : s.Fits)
    (haddressable : Addressable (sections ++ [s]))
    : Contains capabilities generation (appendSection frame s.1 s.2) (sections ++ [s]) := by
  obtain ⟨hints, hfloats⟩ := cells_concat sections s
  obtain ⟨⟨hfrontInts, hfrontFloats⟩, hrows⟩ := haddressable.front
  unfold appendSection
  split
  next hempty =>
    have hfilter : (sections ++ [s]).filter (fun s => !s.2.isEmpty)
        = sections.filter (fun s => !s.2.isEmpty) := by
      simp [List.filter_append, hempty]
    have hlength : s.2.length = 0 := by simpa using hempty
    constructor
    . rw [hfilter]
      exact h.packed
    . rw [hfilter]
      exact h.reads
    . rw [hints, hfloats, hlength]
      simpa using h.cells
  next hempty =>
    have hfilter : (sections ++ [s]).filter (fun s => !s.2.isEmpty)
        = sections.filter (fun s => !s.2.isEmpty) ++ [s] := by
      simp [List.filter_append, hempty]
    have hpacked := h.packed.appendRows hfits
    constructor
    . rw [hfilter, List.map_append]
      exact hpacked
    . rw [hfilter, List.filterMap_append, appendRows_eq_push]
      have hpoints : SectionDescriptor.Points ⟨s.1.toInt32, Int32.ofNat s.2.length,
          Int32.ofNat frame.integers.length, Int32.ofNat frame.floats.length, 0⟩ frame s.2 := by
        refine ⟨toInt_ofNat_of_lt hrows, toInt_ofNat_of_lt ?_, toInt_ofNat_of_lt ?_⟩
        . rw [h.cells.1]
          exact hfrontInts
        . rw [h.cells.2]
          exact hfrontFloats
      have hpush := h.reads.push hpoints (by
        intro installed hinstalled
        cases hhas : capabilities.has s.1 with
        | false =>
          rw [section?_of_not hhas] at hinstalled
          cases hinstalled
        | true =>
          rw [section?_makeVisualFrameSchema hhas] at hinstalled
          cases hinstalled
          exact hfits.strided)
      have hlast : ((Option.map (fun _ => (s.1.toInt32, s.2))
            ((makeVisualFrameSchema generation capabilities).section? s.1.toInt32)).toList
          : List ReadSection) = [s].filterMap (Section.read capabilities) := by
        unfold Section.read
        cases hhas : capabilities.has s.1 with
        | false => simp [section?_of_not hhas, hhas]
        | true => simp [section?_makeVisualFrameSchema hhas, hhas]
      rw [← hlast]
      exact hpush
    . rw [hints, hfloats]
      simp only [appendRows, appendDescriptor, List.length_append, length_flatMap_integers hfits,
        length_flatMap_floats hfits, h.cells.1, h.cells.2, and_self]

theorem contains_frameOf {sections : List Section} (hfits : ∀ s ∈ sections, s.Fits)
    (haddressable : Addressable sections)
    : Contains capabilities generation (frameOf generation sections) sections := by
  induction sections using List.reverseRecOn with
  | nil => exact ⟨⟨rfl, rfl, rfl⟩, Reads.empty rfl, rfl, rfl⟩
  | append_singleton sections s ih =>
    unfold frameOf
    rw [List.foldl_append]
    apply Contains.append
    . apply ih
      . intro other hother
        exact hfits other (List.mem_append_left _ hother)
      . exact haddressable.front.1
    . exact hfits s (List.mem_append_right _ List.mem_cons_self)
    . exact haddressable

theorem protocol_frameOf (generation : Int32) (sections : List Section)
    : (frameOf generation sections).protocolMajor = kVisualProtocolMajor
        ∧ (frameOf generation sections).protocolMinor = kVisualProtocolMinor
        ∧ (frameOf generation sections).schemaGeneration = generation := by
  unfold frameOf
  apply List.foldl_keeps (I := fun frame : SectionedVisualFrame =>
    frame.protocolMajor = kVisualProtocolMajor ∧ frame.protocolMinor = kVisualProtocolMinor
      ∧ frame.schemaGeneration = generation)
  . intro s _ frame h
    unfold appendSection
    split
    . exact h
    . exact h
  . exact ⟨rfl, rfl, rfl⟩

theorem mem_shapeDescriptors {shapes : List SectionShape} {shape : SectionShape}
    (h : shape ∈ shapes) (ints floats : Nat)
    : ∃ d ∈ shapeDescriptors ints floats shapes, d.sectionType = shape.1.toInt32 := by
  induction shapes generalizing ints floats with
  | nil => cases h
  | cons first shapes ih =>
    obtain ⟨type, rows⟩ := first
    rcases List.mem_cons.mp h with heq | h
    . refine ⟨_, List.mem_cons_self, ?_⟩
      rw [heq]
    . obtain ⟨d, hd, htype⟩ := ih h _ _
      exact ⟨d, List.mem_cons_of_mem _ hd, htype⟩

-- A frame of sections is accepted if and only if all that have a row are installed.
theorem valid_frameOf_iff {sections : List Section} (hfits : ∀ s ∈ sections, s.Fits)
    (haddressable : Addressable sections) (hnodup : (sections.map Prod.fst).Nodup)
    : (validateSectionedVisualFrame (makeVisualFrameSchema generation capabilities)
          (frameOf generation sections)).valid = true
        ↔ ∀ s ∈ sections, s.2 ≠ [] → capabilities.has s.1 = true := by
  have hcontains : Contains capabilities generation (frameOf generation sections) sections :=
    contains_frameOf hfits haddressable
  obtain ⟨hmajor, hminor, hgeneration⟩ := protocol_frameOf generation sections
  constructor
  . intro hvalid s hs hrows
    have hconforms := (valid_iff_conforms _ _).mp hvalid
    have hmem : s.shape ∈ (sections.filter (fun s => !s.2.isEmpty)).map Section.shape := by
      apply List.mem_map_of_mem
      simp [hs, hrows]
    obtain ⟨d, hd, htype⟩ := mem_shapeDescriptors hmem 0 0
    obtain ⟨installed, hinstalled, _⟩ := hconforms.fits d (by
      rw [sections_of_descriptors hcontains.packed.descriptors]
      exact hd)
    rw [htype, Section.shape] at hinstalled
    cases hhas : capabilities.has s.1 with
    | true => rfl
    | false =>
      have hnone : (makeVisualFrameSchema generation capabilities).section? s.1.toInt32 = none := by
        exact section?_of_not hhas
      rw [hnone] at hinstalled
      cases hinstalled
  . intro hinstalled
    apply And.left
    apply hcontains.packed.accepted hmajor hminor hgeneration
    . intro shape hshape
      obtain ⟨s, hs, rfl⟩ := List.mem_map.mp hshape
      obtain ⟨hmem, hrows⟩ := List.mem_filter.mp hs
      exact hinstalled s hmem (by simpa using hrows)
    . rw [List.map_map]
      exact hnodup.sublist (List.filter_sublist.map _)
    . rw [← hcontains.packed.integers, hcontains.cells.1]
      exact haddressable.1
    . rw [← hcontains.packed.floats, hcontains.cells.2]
      exact haddressable.2

/-! ### Shutter rows -/

-- The descriptor at the end takes one more row if it is that of the shutters.
theorem bumpShutterDescriptor_append (front : List Int32) (d : SectionDescriptor)
    : bumpShutterDescriptor (front ++ d.cells)
        = if d.sectionType = VisualSectionType.shutterState.toInt32 then
            some (front ++ { d with rowCount := d.rowCount + 1 }.cells)
          else
            none := by
  have hlength : (front ++ d.cells).length = front.length + 5 := by
    simp [SectionDescriptor.cells]
  unfold bumpShutterDescriptor
  dsimp only
  rw [hlength, Nat.add_sub_cancel, show front.length + 5 - 4 = front.length + 1 from by omega,
    List.getD_append_right _ _ _ _ (Nat.le_refl _),
    List.getD_append_right _ _ _ _ (Nat.le_add_right _ 1),
    List.set_append_right _ _ (Nat.le_add_right _ 1), Nat.sub_self, Nat.add_sub_cancel_left]
  simp [SectionDescriptor.cells]

theorem ofNat_succ (n : Nat) : Int32.ofNat (n + 1) = Int32.ofNat n + 1 := by
  rw [Int32.ofNat_add]
  rfl

theorem foldl_appendShutterRow {frame : SectionedVisualFrame}
    (h : bumpShutterDescriptor frame.descriptors = none) (rows : List SectionRow)
    : rows.foldl appendShutterRow frame = appendSection frame .shutterState rows := by
  induction rows using List.reverseRecOn with
  | nil => rfl
  | append_singleton rows row ih =>
    have hlast : (rows ++ [row]).isEmpty = false := by simp
    rw [List.foldl_append, ih]
    unfold appendSection
    rw [hlast]
    simp only [List.foldl_cons, List.foldl_nil, Bool.false_eq_true, if_false]
    unfold appendShutterRow
    by_cases hempty : rows.isEmpty = true
    . rw [if_pos hempty]
      dsimp only
      rw [h]
      rw [List.isEmpty_iff] at hempty
      simp [appendRows, appendDescriptor, hempty]
    . rw [if_neg hempty, appendRows_eq_push, appendRows_eq_push]
      unfold SectionedVisualFrame.push
      dsimp only
      rw [bumpShutterDescriptor_append, if_pos rfl]
      simp [ofNat_succ, SectionDescriptor.cells]

/-! ### The frame of a consume -/

/-- The sections of the pending rows, in the order in which they are packed. -/
def Emission.sections (ids : ComponentIds) (e : Emission) : List Section := [
  (.geometryTransform, e.transformRows ids),
  (.emitterIntensity, e.intensityRows),
  (.emitterColor, e.colorRows),
  (.wheelSelection, e.wheelRows),
  (.beamOptics, e.opticsRows),
  (.goboSelection, e.goboRows.map GoboRow.toSectionRow),
  (.goboRotation, e.goboRotationRows.map GoboRotationRow.toSectionRow)
]

/-- What a consume puts out. -/
def Core.consumedSections (p : Platform) (core : Core) (now : ℚ) : List Section :=
  (.shutterState, shutterRowsOf (core.consumed p now).frame)
    :: (core.consumed p now).emission.sections core.definitions.tables.components

theorem Addressable.length_lt {sections : List Section} (h : Addressable sections) {s : Section}
    (hs : s ∈ sections) : s.2.length < 2 ^ 31 := by
  induction sections using List.reverseRecOn with
  | nil => cases hs
  | append_singleton sections last ih =>
    rcases List.mem_append.mp hs with hs | hs
    . exact ih h.front.1 hs
    . rw [List.mem_singleton.mp hs]
      exact h.front.2

theorem appendCountedSection_eq {frame : SectionedVisualFrame} {type : VisualSectionType}
    {rows : List SectionRow} (h : rows.length < 2 ^ 31)
    : appendCountedSection frame type rows = appendSection frame type rows := by
  unfold appendCountedSection appendSection
  have hcount : Int32.ofNat rows.length > 0 ↔ ¬rows.isEmpty = true := by
    rw [gt_iff_lt, Int32.lt_iff_toInt_lt, toInt_ofNat_of_lt h, List.isEmpty_iff,
      ← List.length_eq_zero_iff, Int32.toInt_zero]
    omega
  by_cases hempty : rows.isEmpty = true
  . rw [if_neg (fun h => hcount.mp h hempty), if_pos hempty]
  . rw [if_pos (hcount.mpr hempty), if_neg hempty]

theorem packSections_eq {ids : ComponentIds} {frame : SectionedVisualFrame} {e : Emission}
    (h : ∀ s ∈ e.sections ids, s.2.length < 2 ^ 31)
    : packSections ids frame e
        = (e.sections ids).foldl (fun frame s => appendSection frame s.1 s.2) frame := by
  simp only [Emission.sections, List.forall_mem_cons] at h
  obtain ⟨htransforms, hintensities, hcolors, hwheels, hoptics, _⟩ := h
  unfold packSections
  dsimp only
  rw [appendCountedSection_eq htransforms, appendCountedSection_eq hintensities,
    appendCountedSection_eq hcolors, appendCountedSection_eq hwheels,
    appendCountedSection_eq hoptics]
  rfl

theorem fits_emission (ids : ComponentIds) (e : Emission) : ∀ s ∈ e.sections ids, s.Fits := by
  simp only [Emission.sections, List.forall_mem_cons]
  refine ⟨?_, ?_, ?_, ?_, ?_, ?_, ?_, by simp⟩
  all_goals
    intro row hrow
    obtain ⟨_, _, rfl⟩ := List.mem_map.mp hrow
    exact ⟨rfl, rfl⟩

theorem rows_of_filter_ne_nil {rows : List PendingRow} {condition : PendingRow → Bool}
    {pack : PendingRow → SectionRow} (h : (rows.filter condition).map pack ≠ [])
    : ∃ row ∈ rows, condition row = true := by
  obtain ⟨cells, hcells⟩ := List.exists_mem_of_ne_nil _ h
  obtain ⟨row, hrow, _⟩ := List.mem_map.mp hcells
  exact ⟨row, (List.mem_filter.mp hrow).1, (List.mem_filter.mp hrow).2⟩

-- A section with a row is declared, the colors apart.
theorem Emission.Declared.sections {e : Emission} (h : e.Declared capabilities)
    (ids : ComponentIds)
    : ∀ s ∈ e.sections ids, s.2 ≠ [] → s.1 = .emitterColor ∨ capabilities.has s.1 = true := by
  simp only [Emission.sections, List.forall_mem_cons]
  refine ⟨?_, ?_, ?_, ?_, ?_, ?_, ?_, by simp⟩
  . intro hrows
    obtain ⟨row, hrow, hchanges⟩ := rows_of_filter_ne_nil hrows
    exact Or.inr ((h.rows row hrow).transform hchanges)
  . intro hrows
    obtain ⟨row, hrow, hchanges⟩ := rows_of_filter_ne_nil hrows
    exact Or.inr ((h.rows row hrow).intensity hchanges)
  . intro _
    exact Or.inl trivial
  . intro hrows
    obtain ⟨row, hrow, hwheel⟩ := rows_of_filter_ne_nil hrows
    exact Or.inr ((h.rows row hrow).wheel hwheel)
  . intro hrows
    obtain ⟨row, hrow, hchanges⟩ := rows_of_filter_ne_nil hrows
    exact Or.inr ((h.rows row hrow).optics hchanges)
  . intro hrows
    exact Or.inr (h.gobos (fun hnil => hrows (by rw [hnil]; rfl)))
  . intro hrows
    exact Or.inr (h.rotations (fun hnil => hrows (by rw [hnil]; rfl)))

/-! ### Runs -/

variable {p : Platform} {scene : CompiledRuntimeScene}

/-- The schema of a core declares what its layouts can put out, the colors apart. -/
structure Core.Advertises (capabilities : VisualFrameSchemaCapabilities) (core : Core) : Prop where
  schema : core.schema = makeVisualFrameSchema core.schema.schemaGeneration capabilities
  definitions : core.definitions.Declared capabilities
  layouts : ∀ layout ∈ core.layouts, layout.Declared capabilities
  rest : AtRest capabilities core.held.properties.transformStateByFixture

theorem Core.Advertises.consumed {core : Core} (h : core.Advertises capabilities) (now : ℚ)
    : Emitted capabilities { schemaGeneration := core.schema.schemaGeneration }
        (core.consumed p now).held (core.consumed p now).frame (core.consumed p now).emission := by
  apply consume_induction (I := Emitted capabilities
    { schemaGeneration := core.schema.schemaGeneration })
  . intro u hu x phases held out e hx hI hphases
    exact hI.phases hx (h.layouts _ (List.mem_map_of_mem hu)) h.definitions hphases
  . exact ⟨h.rest, ⟨by simp [Core.consumeState], by simp [Core.consumeState],
      by simp [Core.consumeState]⟩, [], rfl, by simp, by simp⟩

theorem Core.Advertises.step {core : Core} (h : core.Advertises capabilities)
    (operation : Operation) : (core.step p operation).1.Advertises capabilities := by
  obtain ⟨hdefinitions, hlayouts⟩ := step_layouts (p := p) core operation
  constructor
  . cases operation with
    | submit universeId data => exact h.schema
    | consume now => exact h.schema
  . rw [hdefinitions]
    exact h.definitions
  . rw [hlayouts]
    exact h.layouts
  . cases operation with
    | submit universeId data => exact h.rest
    | consume now => exact (h.consumed now).rest

theorem Core.Advertises.run {core : Core} (h : core.Advertises capabilities) (first : Core)
    (operations : List Operation)
    : ((runtime p first).run core operations).Advertises capabilities := by
  apply (runtime p first).run_induction (Core.Advertises capabilities)
  . intro s operation hs
    exact hs.step operation
  . exact h

theorem schema_run (first core : Core) (operations : List Operation)
    : ((runtime p first).run core operations).schema = core.schema := by
  apply (runtime p first).run_induction (fun s => s.schema = core.schema)
  . intro s operation h
    cases operation with
    | submit universeId data => exact h
    | consume now => exact h
  . rfl

/-- The frame of a consume holds what the consume has put out. -/
theorem Core.Advertises.frame {core : Core} (h : core.Advertises capabilities) {now : ℚ}
    (haddressable : Addressable (core.consumedSections p now))
    : (consumeLatestVisualFrame p core now).2
          = frameOf core.schema.schemaGeneration (core.consumedSections p now)
        ∧ (∀ s ∈ core.consumedSections p now, s.Fits)
        ∧ ∀ s ∈ core.consumedSections p now, s.2 ≠ []
          → s.1 = .emitterColor ∨ capabilities.has s.1 = true := by
  obtain ⟨rows, hout, hfits, hshutter⟩ := (h.consumed (p := p) now).shutters
  have hholds : HoldsRows (core.consumed p now).frame ([] ++ rows) := by
    rw [hout]
    exact HoldsRows.append ⟨rfl, rfl, by simp⟩ hfits
  have hrows : shutterRowsOf (core.consumed p now).frame = rows := hholds.shutterRowsOf
  unfold Core.consumedSections at haddressable ⊢
  rw [hrows] at haddressable ⊢
  refine ⟨?_, ?_, ?_⟩
  . change packSections core.definitions.tables.components (core.consumed p now).frame
      (core.consumed p now).emission = _
    rw [packSections_eq (fun s hs => haddressable.length_lt (List.mem_cons_of_mem _ hs)), hout,
      foldl_appendShutterRow rfl]
    rfl
  . rw [List.forall_mem_cons]
    exact ⟨hfits, fits_emission _ _⟩
  . rw [List.forall_mem_cons]
    exact ⟨fun hne => Or.inr (hshutter hne), (h.consumed now).emission.sections _⟩

theorem nodup_consumedSections (core : Core) (now : ℚ)
    : ((core.consumedSections p now).map Prod.fst).Nodup := by
  simp [Core.consumedSections, Emission.sections]

/-! ### The installation -/

section Install

variable {t : InstalledTables} {u : Int32}

theorem declared_parameter {x : Installed CompiledComponentProperty} (hx : x ∈ t.properties)
    : (semanticParameterForCompiled x.entry.semantic).Declared t.capabilities := by
  have hany (condition : SemanticParameter → Bool)
      (h : condition (semanticParameterForCompiled x.entry.semantic) = true)
      : (t.properties.map (fun x => semanticParameterForCompiled x.entry.semantic)).any condition
        = true :=
    List.any_eq_true.mpr ⟨_, List.mem_map_of_mem hx, h⟩
  constructor
  . intro h
    exact hany _ (by rcases h with h | h <;> rw [h] <;> rfl)
  . intro h
    exact hany _ (by rw [h]; rfl)
  . intro h
    exact hany _ (by rw [h]; rfl)

theorem not_isEmpty_of_mem_ofUniverse {α : Type} {installed : List (Installed α)} {entry : α}
    (h : entry ∈ ofUniverse installed u) : (!installed.isEmpty) = true := by
  obtain ⟨x, hx, _⟩ := mem_ofUniverse.mp h
  cases installed with
  | nil => cases hx
  | cons first rest => rfl

theorem visits_of_consumer {consumer : EvaluationConsumer}
    (h : consumer ∈ (universeLayout t u).plan.consumers)
    : t.capabilities.visits consumer.domain = true := by
  simp only [universeLayout, consumersOf, List.mem_append] at h
  rcases h with ((((hproperty | hcolor) | hwheel) | hgobo) | hmotion) | hshutter
  . obtain ⟨entry, _, rfl⟩ := List.mem_map.mp hproperty
    rfl
  . obtain ⟨entry, _, rfl⟩ := List.mem_map.mp hcolor
    rfl
  . obtain ⟨entry, _, rfl⟩ := List.mem_map.mp hwheel
    rfl
  . obtain ⟨hdomain, hkey⟩ := domain_layerConsumers hgobo
    simp only [goboLayout, List.map_map, List.mem_map] at hkey
    obtain ⟨gobo, hgobo, _⟩ := hkey
    rw [hdomain]
    exact not_isEmpty_of_mem_ofUniverse hgobo
  . obtain ⟨hdomain, hkey⟩ := domain_layerConsumers hmotion
    simp only [goboLayout, List.map_map, List.mem_map] at hkey
    obtain ⟨motion, hmotion, _⟩ := hkey
    rw [hdomain]
    exact not_isEmpty_of_mem_ofUniverse hmotion
  . obtain ⟨hdomain, hkey⟩ := domain_layerConsumers hshutter
    obtain ⟨entry, hentry, _⟩ := List.mem_map.mp hkey
    obtain ⟨x, hx, _⟩ := mem_ofUniverse.mp hentry
    obtain ⟨valid, hvalid, _⟩ := List.mem_filterMap.mp hx
    rw [hdomain]
    change (!(validEntries t.shutterEntries).isEmpty) = true
    rw [Bool.not_eq_true', List.isEmpty_eq_false_iff]
    exact List.ne_nil_of_mem (List.mem_filter.mp hvalid).1

theorem declared_universeLayout : (universeLayout t u).Declared t.capabilities where
  properties program hprogram := by
    obtain ⟨property, hproperty, rfl⟩ := List.mem_map.mp hprogram
    obtain ⟨x, hx, _, rfl⟩ := mem_ofUniverse.mp hproperty
    exact declared_parameter hx
  wheels hwheels := by
    obtain ⟨wheel, hwheel⟩ := List.exists_mem_of_ne_nil _ hwheels
    obtain ⟨entry, hentry, _⟩ := List.mem_map.mp hwheel
    exact not_isEmpty_of_mem_ofUniverse hentry
  layers _ hconsumer := visits_of_consumer hconsumer

theorem or_and_distrib (a b c : UInt32) : (a ||| b) &&& c = (a &&& c) ||| (b &&& c) := by
  simp [← UInt32.toBitVec_inj, BitVec.and_or_distrib_right]

theorem foldl_or_and {masks : List UInt32} {bit mask : UInt32}
    (h : ∀ m ∈ masks, m &&& bit = 0) : masks.foldl (· ||| ·) mask &&& bit = mask &&& bit := by
  induction masks generalizing mask with
  | nil => rfl
  | cons m masks ih =>
    obtain ⟨hm, hmasks⟩ := List.forall_mem_cons.mp h
    rw [List.foldl_cons, ih hmasks, or_and_distrib, hm, UInt32.or_zero]

theorem declared_fixtureTables (h : t.capabilities.hasTransform = false) (fixture : Int32)
    : t.installedVisualMask fixture &&& VisualChangeTransform = 0 := by
  unfold InstalledTables.installedVisualMask
  rw [foldl_or_and, UInt32.zero_and]
  intro mask hmask
  obtain ⟨entry, hentry, rfl⟩ := List.mem_map.mp hmask
  have hlisted := (List.mem_filter.mp hentry).1
  simp only [InstalledTables.visualMasks, List.mem_append, List.mem_map] at hlisted
  rcases hlisted with ((((⟨x, hx, rfl⟩ | ⟨x, _, rfl⟩) | ⟨x, _, rfl⟩) | ⟨x, _, rfl⟩) | ⟨x, _, rfl⟩)
    | ⟨x, _, rfl⟩
  . have hparameter := (declared_parameter hx).transform
    dsimp only
    cases hsemantic : semanticParameterForCompiled x.entry.semantic with
    | pan =>
      rw [hparameter (Or.inl hsemantic)] at h
      cases h
    | tilt =>
      rw [hparameter (Or.inr hsemantic)] at h
      cases h
    | _ => rfl
  all_goals
    dsimp only
    decide

theorem advertises_installedCore (generation : Int32)
    : (installedCore p generation scene).Advertises (installTables p scene).capabilities := by
  constructor
  . rfl
  . intro hno fixture
    exact declared_fixtureTables hno fixture
  . intro layout hlayout
    rw [layouts_installedCore] at hlayout
    obtain ⟨u, _, rfl⟩ := List.mem_map.mp hlayout
    exact declared_universeLayout
  . intro _ _
    exact ⟨rfl, rfl⟩

end Install

/-! ### The frames of a run -/

theorem colorRows_of_consumedSections {core : Core} {now : ℚ} {s : Section}
    (h : s ∈ core.consumedSections p now) (htype : s.1 = .emitterColor)
    : s.2 = (core.consumed p now).emission.colorRows := by
  simp only [Core.consumedSections, Emission.sections, List.mem_cons, List.not_mem_nil,
    or_false] at h
  rcases h with rfl | rfl | rfl | rfl | rfl | rfl | rfl | rfl
  . cases htype
  . cases htype
  . cases htype
  . rfl
  . cases htype
  . cases htype
  . cases htype
  . cases htype

-- Of declared sections a reader finds those with a row, undeclared colors are not found.
theorem read_declared {sections : List Section}
    (h : ∀ s ∈ sections, s.2 ≠ [] → s.1 = .emitterColor ∨ capabilities.has s.1 = true)
    : (sections.filter (fun s => !s.2.isEmpty)).filterMap (Section.read capabilities)
        = (sections.filter (fun s => !s.2.isEmpty
            && (s.1 != .emitterColor || capabilities.has .emitterColor))).map
          (fun s => (s.1.toInt32, s.2)) := by
  induction sections with
  | nil => rfl
  | cons s sections ih =>
    obtain ⟨hfirst, hrest⟩ := List.forall_mem_cons.mp h
    have hnext := ih hrest
    cases hempty : s.2.isEmpty with
    | true => simp [hempty, hnext]
    | false =>
      have hrows : s.2 ≠ [] := List.isEmpty_eq_false_iff.mp hempty
      by_cases hcolor : s.1 = .emitterColor
      . cases hhas : capabilities.has .emitterColor with
        | true =>
          rw [hhas] at hnext
          simp [hempty, hcolor, hhas, Section.read, hnext]
        | false =>
          rw [hhas] at hnext
          simp [hempty, hcolor, hhas, Section.read, hnext]
      . have hhas : capabilities.has s.1 = true := (hfirst hrows).resolve_left hcolor
        simp [hempty, hcolor, hhas, Section.read, hnext]

theorem has_emitterColor {t : InstalledTables}
    : t.capabilities.has .emitterColor = true ↔ t.colorTargets ≠ [] := by
  change (!t.colorTargets.isEmpty) = true ↔ _
  rw [Bool.not_eq_true', List.isEmpty_eq_false_iff]

section Run

variable {core core' : Core} (operations : List Operation) (now : ℚ)

theorem advertises_run (hinstall : installCompiledScene p core' scene = some core)
    : ((runtime p core).run core operations).Advertises (installTables p scene).capabilities := by
  rw [installCompiledScene_eq_some hinstall]
  exact (advertises_installedCore _).run _ _

-- The frame of a wheel over a target without a color program has a section that is not declared.
theorem run_accepted (hinstall : installCompiledScene p core' scene = some core)
    : let s := (runtime p core).run core operations
      Addressable (s.consumedSections p now)
        → ((validateSectionedVisualFrame core.schema (consumeLatestVisualFrame p s now).2).valid
              = true
            ↔ ((s.consumed p now).emission.colorRows ≠ []
              → (installTables p scene).colorTargets ≠ [])) := by
  intro s haddressable
  have hadvertises := advertises_run operations hinstall
  obtain ⟨hframe, hfits, hdeclared⟩ := hadvertises.frame haddressable
  rw [← schema_run (p := p) core core operations, hadvertises.schema, hframe,
    valid_frameOf_iff hfits haddressable (nodup_consumedSections _ _), ← has_emitterColor]
  constructor
  . intro hinstalled hrows
    apply hinstalled (.emitterColor, (s.consumed p now).emission.colorRows)
    . simp [Core.consumedSections, Emission.sections, s]
    . exact hrows
  . intro hcolor sec hsec hrows
    rcases hdeclared sec hsec hrows with htype | hhas
    . rw [htype]
      apply hcolor
      rw [← colorRows_of_consumedSections hsec htype]
      exact hrows
    . exact hhas

-- A reader finds every section that was put out, the colors only where the schema declares them.
theorem run_frame_read (hinstall : installCompiledScene p core' scene = some core)
    : let s := (runtime p core).run core operations
      Addressable (s.consumedSections p now)
        → (consumeLatestVisualFrame p s now).2.read core.schema
          = ((s.consumedSections p now).filter (fun sec => !sec.2.isEmpty
              && (sec.1 != .emitterColor || !(installTables p scene).colorTargets.isEmpty))).map
            (fun sec => (sec.1.toInt32, sec.2)) := by
  intro s haddressable
  have hadvertises := advertises_run operations hinstall
  obtain ⟨hframe, hfits, hdeclared⟩ := hadvertises.frame haddressable
  have hcontains : Contains (installTables p scene).capabilities s.schema.schemaGeneration
      (frameOf s.schema.schemaGeneration (s.consumedSections p now)) (s.consumedSections p now) :=
    contains_frameOf hfits haddressable
  rw [← schema_run (p := p) core core operations, hadvertises.schema, hframe,
    hcontains.reads.content, read_declared hdeclared]
  rfl

/-! ### The replay -/

/-- What the replay puts out. -/
def Core.replaySections (p : Platform) (core : Core) (now : ℚ) : List Section := [
  (.geometryTransform, core.replayTransformRows),
  (.wheelSelection, core.replayWheelRows),
  (.shutterState, core.replayShutterRows p now)
]

theorem bumpShutterDescriptor_appendSection {frame : SectionedVisualFrame}
    (h : bumpShutterDescriptor frame.descriptors = none) {type : VisualSectionType}
    (htype : type ≠ .shutterState) (rows : List SectionRow)
    : bumpShutterDescriptor (appendSection frame type rows).descriptors = none := by
  unfold appendSection
  split
  . exact h
  . rw [appendRows_eq_push]
    unfold SectionedVisualFrame.push
    dsimp only
    rw [bumpShutterDescriptor_append,
      if_neg (fun heq => htype (VisualSectionType.toInt32_injective heq))]

theorem heldDomainReplay_eq (core : Core) (now : ℚ)
    : heldDomainReplay p core now
        = frameOf core.schema.schemaGeneration (core.replaySections p now) := by
  unfold heldDomainReplay
  dsimp only
  rw [foldl_appendShutterRow]
  . rfl
  . apply bumpShutterDescriptor_appendSection _ (by decide)
    apply bumpShutterDescriptor_appendSection _ (by decide)
    rfl

theorem fits_replaySections (core : Core) (now : ℚ)
    : ∀ s ∈ core.replaySections p now, s.Fits := by
  simp only [Core.replaySections, List.forall_mem_cons]
  refine ⟨?_, ?_, ?_, by simp⟩
  . intro row hrow
    obtain ⟨fixture, _, rfl⟩ := List.mem_map.mp hrow
    exact ⟨rfl, rfl⟩
  . intro row hrow
    obtain ⟨state, _, rfl⟩ := List.mem_map.mp hrow
    exact ⟨rfl, rfl⟩
  . intro row hrow
    obtain ⟨id, _, hrow⟩ := List.mem_flatMap.mp hrow
    dsimp only at hrow
    split at hrow
    . exact width_shutterRows row hrow
    . cases hrow

theorem Core.Advertises.wheels {core : Core} (h : core.Advertises capabilities)
    (hrows : core.replayWheelRows ≠ []) : capabilities.hasWheelSelection = true := by
  obtain ⟨row, hrow⟩ := List.exists_mem_of_ne_nil _ hrows
  obtain ⟨state, hstate, _⟩ := List.mem_map.mp hrow
  obtain ⟨key, hkey, _⟩ := List.mem_map.mp (List.mem_filter.mp hstate).1
  obtain ⟨layout, hlayout, hwheel⟩ := List.mem_flatMap.mp (mem_sortUnique.mp hkey)
  apply (h.layouts layout hlayout).wheels
  intro hnil
  rw [hnil] at hwheel
  cases hwheel

theorem Core.Advertises.shutters {core : Core} (h : core.Advertises capabilities) {now : ℚ}
    (hrows : core.replayShutterRows p now ≠ []) : capabilities.hasShutter = true := by
  obtain ⟨row, hrow⟩ := List.exists_mem_of_ne_nil _ hrows
  obtain ⟨id, hid, _⟩ := List.mem_flatMap.mp hrow
  obtain ⟨key, hkey, _⟩ := List.mem_map.mp hid
  obtain ⟨authority, hauthority, _⟩ := List.mem_map.mp ((p.hashOrder_perm _).mem_iff.mp hkey)
  obtain ⟨layout, hlayout, htarget⟩ := List.mem_flatMap.mp (mem_firstOccurrences.mp hauthority)
  obtain ⟨target, htarget, _⟩ := List.mem_map.mp htarget
  obtain ⟨consumer, hconsumer, hdomain, _⟩ := mem_targetsIn.mp htarget
  have hvisits := (h.layouts layout hlayout).layers consumer hconsumer
  rw [hdomain] at hvisits
  exact hvisits

-- The replay of a fixture that was evaluated without a pan and a tilt is not declared.
theorem run_replay_accepted (hinstall : installCompiledScene p core' scene = some core)
    : let s := (runtime p core).run core operations
      Addressable (s.replaySections p now)
        → ((validateSectionedVisualFrame core.schema (heldDomainReplay p s now)).valid = true
            ↔ (s.replayTransformRows ≠ []
              → (installTables p scene).capabilities.hasTransform = true)) := by
  intro s haddressable
  have hadvertises := advertises_run operations hinstall
  rw [← schema_run (p := p) core core operations, hadvertises.schema, heldDomainReplay_eq,
    valid_frameOf_iff (fits_replaySections _ _) haddressable (by simp [Core.replaySections])]
  simp only [Core.replaySections, List.forall_mem_cons]
  constructor
  . intro ⟨htransform, _⟩ hrows
    exact htransform hrows
  . intro htransform
    exact ⟨htransform, hadvertises.wheels, hadvertises.shutters, by simp⟩

end Run

/-! ### A wheel over a target without colors -/

def selectCore : Core := installedCore exactPlatform 1 selectScene

def selected : List Operation := [.submit 0 [120]]

theorem run_accepted_selectScene
    : (validateSectionedVisualFrame selectCore.schema (consumeLatestVisualFrame exactPlatform
        ((runtime exactPlatform selectCore).run selectCore selected) 0).2).valid = false := by
  have haccepted := run_accepted selected 0 install_selectScene (by decide +kernel)
  rw [← Bool.not_eq_true]
  intro hvalid
  exact absurd (haccepted.mp hvalid) (by decide +kernel)

theorem run_frame_read_selectScene
    : ((consumeLatestVisualFrame exactPlatform
        ((runtime exactPlatform selectCore).run selectCore selected) 0).2.read
          selectCore.schema).map Prod.fst = [5] := by
  have hread := run_frame_read selected 0 install_selectScene (by decide +kernel)
  rw [selectCore, hread]
  decide +kernel

theorem run_replay_accepted_selectScene
    : (validateSectionedVisualFrame selectCore.schema (heldDomainReplay exactPlatform
        ((runtime exactPlatform selectCore).run selectCore (selected ++ [.consume 0])) 0)).valid
          = true := by
  have haccepted := run_replay_accepted (selected ++ [.consume 0]) 0 install_selectScene
    (by decide +kernel)
  exact haccepted.mpr (by decide +kernel)

end Peraviz.Runtime
