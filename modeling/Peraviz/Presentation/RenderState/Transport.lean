import Peraviz.Presentation.RenderState.Emission
import Peraviz.Runtime.Schema.Runs

/-!
This module contains what a session makes of the frame of a consume: the rows of the lighting
sections are put into the outputs that they are routed to, everything else is handed on. A frame
that passes the check of a schema is taken apart by the one and by the other as by that schema.
-/

namespace Peraviz.Presentation

open Peraviz.Runtime

variable {p : Platform} {generation : Int32} {capabilities : VisualFrameSchemaCapabilities}
variable {frame : SectionedVisualFrame}

/-! ### The composition of an accepted frame -/

namespace DensePresentationState

/-- A row as it is read of a lighting section. -/
def applyRow (binding : UInt64) (lightingSection : Int32) (s : DensePresentationState)
    (row : SectionRow) : DensePresentationState :=
  let (s, updated) := s.updateTarget binding lightingSection (row.integers.getD 1 0)
    (row.integers.getD 2 0).toUInt32 row.floats
  if updated then s else { s with unresolvedRows := s.unresolvedRows + 1 }

def applySection (binding : UInt64) (s : DensePresentationState) (read : ReadSection)
    : DensePresentationState :=
  if isLighting read.1 then read.2.foldl (applyRow binding read.1) s else s

theorem lighting_strides {installed : VisualSectionSchema} {type : Int32}
    (hinstalled : (makeVisualFrameSchema generation capabilities).section? type = some installed)
    (hlighting : isLighting type = true)
    : installed.rowStrideInts.toNatClampNeg = 3
        ∧ installed.rowStrideFloats.toNatClampNeg = sectionStride type := by
  unfold VisualFrameSchema.section? at hinstalled
  have htype := List.find?_some hinstalled
  obtain ⟨found, _, heq⟩ := mem_makeVisualFrameSchema.mp
    (List.mem_reverse.mp (List.mem_of_find?_eq_some hinstalled))
  simp only [beq_iff_eq] at htype
  rw [← htype] at hlighting ⊢
  rw [heq] at hlighting ⊢
  cases found with
  | emitterIntensity => decide
  | emitterColor => decide
  | beamOptics => decide
  | _ => simp [VisualSectionType.schema, VisualSectionType.toInt32, isLighting] at hlighting

theorem composeSection_of_installed {installed : VisualSectionSchema} {d : SectionDescriptor}
    (hinstalled : (makeVisualFrameSchema generation capabilities).section? d.sectionType
      = some installed) (binding : UInt64) (s : DensePresentationState)
    : composeSection binding frame s d
        = applySection binding s (d.sectionType, frame.rowsOf installed d) := by
  unfold composeSection applySection
  by_cases hlighting : isLighting d.sectionType = true
  . obtain ⟨hints, hfloats⟩ := lighting_strides hinstalled hlighting
    rw [if_pos hlighting, if_pos hlighting, rowsOf_eq_map, List.foldl_map, hints, hfloats]
    apply List.foldl_ext
    intro s row _
    simp [composeRow, applyRow, List.getD_eq_getElem?_getD]
  . rw [if_neg hlighting, if_neg hlighting]

theorem sectionFits_of_fits {d : SectionDescriptor}
    (h : d.Fits (makeVisualFrameSchema generation capabilities) frame)
    : sectionFits frame d = true := by
  obtain ⟨installed, hinstalled, hints, hfloats⟩ := h
  unfold sectionFits
  by_cases hlighting : isLighting d.sectionType = true
  . obtain ⟨hintStride, hfloatStride⟩ := lighting_strides hinstalled hlighting
    have hintEnd := hints.end_le
    have hfloatEnd := hfloats.end_le
    rw [← hints.clamped.2.2, hintStride] at hintEnd
    rw [← hfloats.clamped.2.2, hfloatStride] at hfloatEnd
    simp only [hlighting, Bool.not_true, Bool.false_or, Bool.and_eq_true, decide_eq_true_eq,
      Int32.le_iff_toInt_le, Int32.toInt_zero]
    exact ⟨⟨⟨⟨hints.rows_nonneg, hints.offset_nonneg⟩, hfloats.offset_nonneg⟩, hintEnd⟩, hfloatEnd⟩
  . simp [hlighting]

theorem composeSections_of_conforms
    (h : Conforms (makeVisualFrameSchema generation capabilities) frame)
    (s : DensePresentationState)
    : s.composeSections s.generation frame
        = ((frame.read (makeVisualFrameSchema generation capabilities)).foldl
          (applySection s.generation) { s with unresolvedRows := 0 }, true) := by
  unfold composeSections
  dsimp only
  rw [if_neg (by simp [h.whole]), if_neg]
  . have hread : frame.read (makeVisualFrameSchema generation capabilities)
        = frame.sections.filterMap
          (frame.readSection (makeVisualFrameSchema generation capabilities)) := rfl
    rw [hread, List.foldl_filterMap]
    congr 1
    apply List.foldl_ext
    intro s' d hd
    obtain ⟨installed, hinstalled, _⟩ := h.fits d hd
    rw [composeSection_of_installed hinstalled, SectionedVisualFrame.readSection, hinstalled]
    rfl
  . rw [Bool.not_eq_true', Bool.not_eq_false, List.all_eq_true]
    intro d hd
    exact sectionFits_of_fits (h.fits d hd)

/-! ### One output -/

/-- A row with the number of its section. -/
abbrev LightingRow := Int32 × SectionRow

def lightingRows (content : List ReadSection) : List LightingRow :=
  content.flatMap (fun read =>
    if isLighting read.1 then read.2.map (fun row => (read.1, row)) else [])

/-- What an output holds after values that are written to it. -/
def written (lightingSection : Int32) (mask : UInt32) (v : List ℚ) (state : OutputState)
    : OutputState :=
  { state.put lightingSection v with
    mask := (state.put lightingSection v).mask ||| (mask ||| sectionMask lightingSection) }

/-- The route of a row, nothing for a target without one. -/
def route (s : DensePresentationState) (row : LightingRow) : Option (List Nat) :=
  s.routes.lookup (row.1, row.2.integers.getD 1 0)

def reaches (s : DensePresentationState) (index : Nat) (row : LightingRow) : Bool :=
  index < s.states.length && ((s.route row).getD []).contains index

/-- Every output on the route of the row exists. -/
def resolves (s : DensePresentationState) (row : LightingRow) : Bool :=
  (s.route row).any (fun indices => indices.all (fun index => index < s.states.length))

/-- The rows that reach an output, one after the other. -/
def presented (s : DensePresentationState) (rows : List LightingRow) (index : Nat) : OutputState :=
  (rows.filter (s.reaches index)).foldl (fun state row =>
    written row.1 (row.2.integers.getD 2 0).toUInt32 row.2.floats state) (s.state index)

theorem written_written (lightingSection : Int32) (mask : UInt32) (v : List ℚ)
    (state : OutputState)
    : written lightingSection mask v (written lightingSection mask v state)
        = written lightingSection mask v state := by
  unfold written OutputState.put
  split
  . simp [UInt32.or_assoc]
  . split
    . simp [UInt32.or_assoc]
    . simp [UInt32.or_assoc]

/-- A state that was reached over the same routes, with what it holds of every output. -/
structure Holds (s s' : DensePresentationState) (held : Nat → OutputState) : Prop where
  generation : s'.generation = s.generation
  bindings : s'.bindings = s.bindings
  routes : s'.routes = s.routes
  length : s'.states.length = s.states.length
  unresolvedRows : s'.unresolvedRows = s.unresolvedRows
  state : ∀ index, s'.state index = held index

section Holds

variable {s s' s'' : DensePresentationState} {held held' : Nat → OutputState}

theorem Holds.refl (s : DensePresentationState) : s.Holds s s.state :=
  ⟨rfl, rfl, rfl, rfl, rfl, fun _ => rfl⟩

theorem Holds.trans (h : s.Holds s' held) (h' : s'.Holds s'' held') : s.Holds s'' held' where
  generation := h'.generation.trans h.generation
  bindings := h'.bindings.trans h.bindings
  routes := h'.routes.trans h.routes
  length := h'.length.trans h.length
  unresolvedRows := h'.unresolvedRows.trans h.unresolvedRows
  state := h'.state

theorem Holds.congr (h : s.Holds s' held) (heq : ∀ index, held index = held' index)
    : s.Holds s' held' :=
  { h with state := fun index => (h.state index).trans (heq index) }

theorem holds_noteCandidate (s : DensePresentationState) : s.Holds s.noteCandidate s.state := by
  unfold noteCandidate
  split
  . exact ⟨rfl, rfl, rfl, rfl, rfl, fun _ => rfl⟩
  . exact Holds.refl s

theorem holds_noteHighWater (s : DensePresentationState) : s.Holds s.noteHighWater s.state := by
  unfold noteHighWater
  split
  . exact ⟨rfl, rfl, rfl, rfl, rfl, fun _ => rfl⟩
  . exact Holds.refl s

theorem holds_write {index : Nat} (hlt : index < s.states.length) (state : OutputState)
    : s.Holds (s.write index state)
        (fun other => if other = index then state else s.state other) := by
  refine ⟨rfl, rfl, rfl, List.length_set, rfl, ?_⟩
  intro other
  simp only [DensePresentationState.state, write, List.getD_eq_getElem?_getD]
  by_cases heq : other = index
  . rw [heq, if_pos rfl, List.getElem?_set_self hlt]
    rfl
  . rw [if_neg heq, List.getElem?_set_ne (Ne.symm heq)]

theorem holds_update {index : Nat} {lightingSection : Int32} (hlt : index < s.states.length)
    (hlighting : isLighting lightingSection = true) (mask : UInt32) (v : List ℚ)
    : (s.update s.generation index lightingSection mask v).2 = true
        ∧ s.Holds (s.update s.generation index lightingSection mask v).1 (fun other =>
          if other = index then written lightingSection mask v (s.state other)
          else s.state other) := by
  unfold update
  rw [if_neg (by simp [hlighting, hlt])]
  refine ⟨rfl, ?_⟩
  have hnoted := holds_noteCandidate s
  have hwritten := @holds_write s.noteCandidate index (hnoted.length ▸ hlt)
    (written lightingSection mask v (s.state index))
  apply ((hnoted.trans hwritten).trans (holds_noteHighWater _)).congr
  intro other
  rw [hwritten.state]
  split
  next heq => rw [heq]
  . exact hnoted.state other

/-- One output on a route. -/
def fanOut (binding : UInt64) (lightingSection : Int32) (mask : UInt32) (v : List ℚ)
    (result : DensePresentationState × Bool) (index : Nat) : DensePresentationState × Bool :=
  let updated := result.1.update binding index lightingSection mask v
  (updated.1, updated.2 && result.2)

theorem updateTarget_eq (s : DensePresentationState) (lightingSection target : Int32)
    (mask : UInt32) (v : List ℚ)
    : s.updateTarget s.generation lightingSection target mask v
        = (s.routes.lookup (lightingSection, target)).elim (s, false) (fun indices =>
          indices.foldl (fanOut s.generation lightingSection mask v) (s, true)) := by
  unfold updateTarget
  rw [if_neg (fun h => h rfl)]
  cases s.routes.lookup (lightingSection, target) with
  | none => rfl
  | some indices => rfl

-- Whoever stands on a route twice holds the same after the second time.
theorem holds_fanOut {lightingSection : Int32} (hlighting : isLighting lightingSection = true)
    (mask : UInt32) (v : List ℚ) (s : DensePresentationState) (indices : List Nat)
    : let result := indices.foldl (fanOut s.generation lightingSection mask v) (s, true)
      result.2 = indices.all (fun index => index < s.states.length)
        ∧ s.Holds result.1 (fun other =>
          if other < s.states.length ∧ other ∈ indices then
            written lightingSection mask v (s.state other)
          else
            s.state other) := by
  induction indices using List.reverseRecOn with
  | nil =>
    refine ⟨rfl, (Holds.refl s).congr ?_⟩
    simp
  | append_singleton indices index ih =>
    dsimp only at ih ⊢
    rw [List.foldl_append]
    generalize indices.foldl (fanOut s.generation lightingSection mask v) (s, true) = result at ih ⊢
    obtain ⟨hflag, hheld⟩ := ih
    simp only [List.foldl_cons, List.foldl_nil, fanOut]
    rw [← hheld.generation]
    by_cases hlt : index < s.states.length
    . have hbound : index < result.1.states.length := hheld.length ▸ hlt
      obtain ⟨hupdated, hnext⟩ := holds_update hbound hlighting mask v
      refine ⟨?_, (hheld.trans hnext).congr ?_⟩
      . simp [hupdated, hflag, hlt]
      . intro other
        rw [hheld.state]
        by_cases heq : other = index
        . have hlast : index < s.states.length ∧ index ∈ indices ++ [index] := ⟨hlt, by simp⟩
          rw [heq, if_pos rfl, if_pos hlast]
          split
          . apply written_written
          . rfl
        . rw [if_neg heq]
          simp [heq]
    . have hrejected : result.1.update result.1.generation index lightingSection mask v
          = (result.1, false) := by
        unfold update
        rw [if_pos]
        rw [hheld.length]
        omega
      rw [hrejected]
      refine ⟨?_, hheld.congr ?_⟩
      . simp [hlt]
      . intro other
        have hne (h : other < s.states.length) : other ≠ index := by
          intro heq
          exact hlt (heq ▸ h)
        by_cases hother : other < s.states.length
        . simp [hother, hne hother]
        . simp [hother]

end Holds

/-! ### The rows of a frame -/

/-- A state after rows, each output in its own terms. -/
structure Presents (s s' : DensePresentationState) (rows : List LightingRow) : Prop where
  generation : s'.generation = s.generation
  bindings : s'.bindings = s.bindings
  routes : s'.routes = s.routes
  length : s'.states.length = s.states.length
  unresolvedRows : s'.unresolvedRows = s.unresolvedRows + rows.countP (fun row => !s.resolves row)
  state : ∀ index, s'.state index = s.presented rows index

theorem presented_concat (s : DensePresentationState) (rows : List LightingRow) (row : LightingRow)
    (index : Nat)
    : s.presented (rows ++ [row]) index
        = if s.reaches index row then
            written row.1 (row.2.integers.getD 2 0).toUInt32 row.2.floats (s.presented rows index)
          else
            s.presented rows index := by
  unfold presented
  rw [List.filter_append, List.foldl_append]
  by_cases hreaches : s.reaches index row = true
  . simp [hreaches]
  . simp [hreaches]

theorem Presents.row {s s' : DensePresentationState} {rows : List LightingRow}
    (h : s.Presents s' rows) {row : LightingRow} (hlighting : isLighting row.1 = true)
    : s.Presents (applyRow s.generation row.1 s' row.2) (rows ++ [row]) := by
  have hroute : s'.route row = s.route row := by
    rw [route, h.routes]
    rfl
  have hupdate := updateTarget_eq s' row.1 (row.2.integers.getD 1 0)
    (row.2.integers.getD 2 0).toUInt32 row.2.floats
  rw [show s'.routes.lookup (row.1, row.2.integers.getD 1 0) = s.route row from hroute,
    h.generation] at hupdate
  unfold applyRow
  rw [hupdate]
  cases hroutes : s.route row with
  | none =>
    refine ⟨h.generation, h.bindings, h.routes, h.length, ?_, ?_⟩
    . have hunresolved : s.resolves row = false := by
        rw [resolves, hroutes]
        rfl
      simp [h.unresolvedRows, List.countP_append, hunresolved, Nat.add_assoc]
    . intro index
      rw [presented_concat, if_neg (by simp [reaches, hroutes])]
      exact h.state index
  | some indices =>
    obtain ⟨hflag, hheld⟩ := holds_fanOut hlighting (row.2.integers.getD 2 0).toUInt32
      row.2.floats s' indices
    rw [h.generation] at hflag hheld
    dsimp only [Option.elim]
    generalize indices.foldl _ (s', true) = result at hflag hheld ⊢
    have hresolves : s.resolves row = result.2 := by
      rw [hflag, h.length, resolves, hroutes]
      rfl
    have hstate (index : Nat) : result.1.state index = s.presented (rows ++ [row]) index := by
      rw [hheld.state, h.state, h.length, presented_concat, reaches, hroutes]
      simp
    by_cases hupdated : result.2 = true
    . rw [if_pos hupdated]
      refine ⟨hheld.generation.trans h.generation, hheld.bindings.trans h.bindings,
        hheld.routes.trans h.routes, hheld.length.trans h.length, ?_, hstate⟩
      rw [hheld.unresolvedRows, h.unresolvedRows]
      simp [List.countP_append, hresolves, hupdated]
    . rw [if_neg hupdated]
      refine ⟨hheld.generation.trans h.generation, hheld.bindings.trans h.bindings,
        hheld.routes.trans h.routes, hheld.length.trans h.length, ?_, hstate⟩
      change result.1.unresolvedRows + 1 = _
      rw [hheld.unresolvedRows, h.unresolvedRows]
      simp [List.countP_append, hresolves, hupdated, Nat.add_assoc]

theorem Presents.read {s s' : DensePresentationState} {rows : List LightingRow}
    (h : s.Presents s' rows) (read : ReadSection)
    : s.Presents (applySection s.generation s' read) (rows ++ lightingRows [read]) := by
  unfold applySection lightingRows
  rw [List.flatMap_singleton]
  by_cases hlighting : isLighting read.1 = true
  . rw [if_pos hlighting, if_pos hlighting]
    generalize read.2 = added
    induction added generalizing s' rows with
    | nil => simpa using h
    | cons row added ih =>
      rw [List.map_cons, List.foldl_cons, List.append_cons]
      have hrow := @Presents.row s s' rows h (read.1, row) hlighting
      exact ih hrow
  . rw [if_neg hlighting, if_neg hlighting, List.append_nil]
    exact h

theorem Presents.content {s s' : DensePresentationState} {rows : List LightingRow}
    (h : s.Presents s' rows) (content : List ReadSection)
    : s.Presents (content.foldl (applySection s.generation) s') (rows ++ lightingRows content) := by
  induction content generalizing s' rows with
  | nil => simpa [lightingRows] using h
  | cons read content ih =>
    have hsplit : lightingRows (read :: content) = lightingRows [read] ++ lightingRows content := by
      simp [lightingRows]
    rw [List.foldl_cons, hsplit, ← List.append_assoc]
    exact ih (h.read read)

theorem presents_reset (s : DensePresentationState)
    : { s with unresolvedRows := 0 }.Presents { s with unresolvedRows := 0 } [] :=
  ⟨rfl, rfl, rfl, rfl, rfl, fun _ => rfl⟩

end DensePresentationState

/-- One intensity row for the target 3 in front of cells that no section has. -/
def intensityFrame : SectionedVisualFrame where
  descriptors := [2, 1, 1, 0, 0]
  integers := [9, 7, 3, 0]
  floats := [1 / 2, 40, 40, 20, 1]

/-- One output that takes the intensity of the target 3. -/
def oneOutput : DensePresentationState where
  bindings := [{ canonicalId := 1 }]
  states := [{}]
  routes := [((2, 3), [0])]
  tracked := by
    intro index hmask
    cases index with
    | zero => exact absurd rfl hmask
    | succ index => exact absurd rfl hmask

theorem find?_sections (type : Int32)
    : (makeVisualFrameSchema generation capabilities).sections.find?
          (fun installed => installed.sectionType == type)
        = (makeVisualFrameSchema generation capabilities).section? type := by
  cases hfind : (makeVisualFrameSchema generation capabilities).sections.find?
      (fun installed => installed.sectionType == type) with
  | none =>
    symm
    unfold VisualFrameSchema.section?
    rw [List.find?_eq_none] at hfind ⊢
    intro installed hmem
    exact hfind installed (List.mem_reverse.mp hmem)
  | some installed =>
    obtain ⟨found, hhas, rfl⟩ := mem_makeVisualFrameSchema.mp (List.mem_of_find?_eq_some hfind)
    have htype := List.find?_some hfind
    simp only [beq_iff_eq] at htype
    rw [← htype]
    exact (section?_makeVisualFrameSchema hhas).symm

/-- The descriptor of a section at the end of the domains. -/
def movedBehind (domains : SectionedVisualFrame) (d : SectionDescriptor) : SectionDescriptor :=
  { d with
    intOffset := Int32.ofNat domains.integers.length
    floatOffset := Int32.ofNat domains.floats.length }

/-- The fixture of a lighting row. -/
def fixtureOf (row : DensePresentationState.LightingRow) : Int32 := row.2.integers.getD 0 0

theorem completeRows {measured : Bool} {d : SectionDescriptor} {stride count : Nat}
    (snapshot : CompletedPresentationSnapshot)
    : let s := (List.range count).foldl (completeRow measured frame d stride) snapshot
      s.domains = snapshot.domains ∧ s.lightingRows = snapshot.lightingRows
        ∧ s.updatedFixtures = snapshot.updatedFixtures ++ (List.range count).map (fun row =>
          (frame.integers.drop (d.intOffset.toNatClampNeg + row * stride)).getD 0 0) := by
  induction count with
  | zero => simp
  | succ count ih =>
    dsimp only at ih ⊢
    rw [List.range_succ, List.foldl_append, List.map_append, ← List.append_assoc]
    exact ⟨ih.1, ih.2.1, congrArg (· ++ _) ih.2.2⟩

section Complete

variable {declared : VisualFrameSchemaCapabilities}

/-- The sections that are put together of a snapshot, and the fixtures whose lighting they have. -/
structure Completed (generation : Int32) (capabilities declared : VisualFrameSchemaCapabilities)
    (frame : SectionedVisualFrame) (ds : List SectionDescriptor)
    (snapshot : CompletedPresentationSnapshot) : Prop where
  reads : Reads (makeVisualFrameSchema generation capabilities) snapshot.domains
    ((ds.filterMap (frame.readSection (makeVisualFrameSchema generation capabilities))).filter
      (fun read => !DensePresentationState.isLighting read.1))
  ints : (snapshot.domains.integers.length : Int) ≤ ((ds.map
    ((makeVisualFrameSchema generation declared).range .ints)).map (fun r => r.2 - r.1)).sum
  floats : (snapshot.domains.floats.length : Int) ≤ ((ds.map
    ((makeVisualFrameSchema generation declared).range .floats)).map (fun r => r.2 - r.1)).sum
  fixtures : snapshot.updatedFixtures = (DensePresentationState.lightingRows
    (ds.filterMap (frame.readSection (makeVisualFrameSchema generation capabilities)))).map
      fixtureOf
  rows : snapshot.lightingRows = (DensePresentationState.lightingRows
    (ds.filterMap (frame.readSection (makeVisualFrameSchema generation capabilities)))).length

theorem section?_of_declared (h : ∀ type, capabilities.has type = true → declared.has type = true)
    {type : Int32} {installed : VisualSectionSchema}
    (hinstalled : (makeVisualFrameSchema generation capabilities).section? type = some installed)
    : (makeVisualFrameSchema generation declared).section? type = some installed := by
  rw [← find?_sections] at hinstalled
  obtain ⟨found, hhas, rfl⟩ := mem_makeVisualFrameSchema.mp
    (List.mem_of_find?_eq_some hinstalled)
  have htype := List.find?_some hinstalled
  simp only [beq_iff_eq] at htype
  rw [← htype]
  exact section?_makeVisualFrameSchema (h found hhas)

theorem lightingRows_concat (content : List ReadSection) (read : ReadSection)
    : DensePresentationState.lightingRows (content ++ [read])
        = DensePresentationState.lightingRows content
          ++ if DensePresentationState.isLighting read.1 then
              read.2.map (fun row => (read.1, row)) else [] := by
  simp [DensePresentationState.lightingRows]

theorem Completed.skip {ds : List SectionDescriptor} {snapshot : CompletedPresentationSnapshot}
    (h : Completed generation capabilities declared frame ds snapshot) {d : SectionDescriptor}
    (hfits : d.Fits (makeVisualFrameSchema generation declared) frame)
    (hnone : (makeVisualFrameSchema generation capabilities).section? d.sectionType = none)
    : Completed generation capabilities declared frame (ds ++ [d]) snapshot := by
  have hints := range_nonneg hfits .ints
  have hfloats := range_nonneg hfits .floats
  have hread : frame.readSection (makeVisualFrameSchema generation capabilities) d = none := by
    rw [SectionedVisualFrame.readSection, hnone]
    rfl
  have hcontent : (ds ++ [d]).filterMap
        (frame.readSection (makeVisualFrameSchema generation capabilities))
      = ds.filterMap (frame.readSection (makeVisualFrameSchema generation capabilities)) := by
    simp [hread]
  constructor
  . rw [hcontent]
    exact h.reads
  . have hold := h.ints
    simp only [List.map_append, List.sum_append, List.map_cons, List.map_nil, List.sum_cons,
      List.sum_nil]
    omega
  . have hold := h.floats
    simp only [List.map_append, List.sum_append, List.map_cons, List.map_nil, List.sum_cons,
      List.sum_nil]
    omega
  . rw [hcontent]
    exact h.fixtures
  . rw [hcontent]
    exact h.rows

theorem completeSection_lighting {d : SectionDescriptor} {installed : VisualSectionSchema}
    (hinstalled : (makeVisualFrameSchema generation capabilities).section? d.sectionType
      = some installed) (hlighting : DensePresentationState.isLighting d.sectionType = true)
    (measured : Bool) (snapshot : CompletedPresentationSnapshot)
    : let s := completeSection measured (makeVisualFrameSchema generation capabilities) frame
        snapshot d
      s.domains = snapshot.domains
        ∧ s.lightingRows = snapshot.lightingRows + (frame.rowsOf installed d).length
        ∧ s.updatedFixtures = snapshot.updatedFixtures
          ++ (frame.rowsOf installed d).map (fun row => row.integers.getD 0 0) := by
  obtain ⟨hstride, _⟩ := DensePresentationState.lighting_strides hinstalled hlighting
  unfold completeSection
  rw [find?_sections, hinstalled]
  dsimp only
  rw [if_pos hlighting, rowsOf_eq_map, hstride]
  refine ⟨(completeRows _).1, ?_, ?_⟩
  . rw [(completeRows _).2.1, List.length_map, List.length_range]
  . rw [(completeRows _).2.2, List.map_map]
    congr 1
    apply List.map_congr_left
    intro row _
    simp [List.getD_eq_getElem?_getD]

theorem completeSection_domain {d : SectionDescriptor} {installed : VisualSectionSchema}
    (hinstalled : (makeVisualFrameSchema generation capabilities).section? d.sectionType
      = some installed) (hlighting : ¬DensePresentationState.isLighting d.sectionType = true)
    (hinside : d.Inside installed frame) (measured : Bool)
    (snapshot : CompletedPresentationSnapshot)
    : let s := completeSection measured (makeVisualFrameSchema generation capabilities) frame
        snapshot d
      s.domains = snapshot.domains.push (movedBehind snapshot.domains d) (frame.rowsOf installed d)
        ∧ s.lightingRows = snapshot.lightingRows
        ∧ s.updatedFixtures = snapshot.updatedFixtures := by
  unfold completeSection
  rw [find?_sections, hinstalled]
  dsimp only
  rw [if_neg hlighting]
  unfold SectionedVisualFrame.push
  rw [(rowsOf_cells hinside).1, (rowsOf_cells hinside).2]
  exact ⟨rfl, rfl, rfl⟩

theorem Completed.step {ds : List SectionDescriptor} {snapshot : CompletedPresentationSnapshot}
    (h : Completed generation capabilities declared frame ds snapshot) {d : SectionDescriptor}
    (hdeclared : ∀ type, capabilities.has type = true → declared.has type = true)
    (hfits : d.Fits (makeVisualFrameSchema generation declared) frame)
    (hints : snapshot.domains.integers.length < 2 ^ 31)
    (hfloats : snapshot.domains.floats.length < 2 ^ 31) (measured : Bool)
    : Completed generation capabilities declared frame (ds ++ [d])
        (completeSection measured (makeVisualFrameSchema generation capabilities) frame snapshot
          d) := by
  cases hinstalled : (makeVisualFrameSchema generation capabilities).section? d.sectionType with
  | none =>
    have hsame : completeSection measured (makeVisualFrameSchema generation capabilities) frame
        snapshot d = snapshot := by
      unfold completeSection
      rw [find?_sections, hinstalled]
    rw [hsame]
    exact h.skip hfits hinstalled
  | some installed =>
    have hinside : d.Inside installed frame :=
      inside_of_fits hfits (section?_of_declared hdeclared hinstalled)
    have hcontent : (ds ++ [d]).filterMap
          (frame.readSection (makeVisualFrameSchema generation capabilities))
        = ds.filterMap (frame.readSection (makeVisualFrameSchema generation capabilities))
          ++ [(d.sectionType, frame.rowsOf installed d)] := by
      simp [SectionedVisualFrame.readSection, hinstalled]
    have hmoreInts := range_nonneg hfits .ints
    have hmoreFloats := range_nonneg hfits .floats
    have holdInts := h.ints
    have holdFloats := h.floats
    by_cases hlighting : DensePresentationState.isLighting d.sectionType = true
    . obtain ⟨hdomains, hrows, hfixtures⟩ :=
        @completeSection_lighting _ _ frame _ _ hinstalled hlighting measured snapshot
      constructor
      . rw [hdomains, hcontent, List.filter_append]
        simpa [hlighting] using h.reads
      . rw [hdomains, List.map_append, List.map_append, List.sum_append]
        simp only [List.map_cons, List.map_nil, List.sum_cons, List.sum_nil]
        omega
      . rw [hdomains, List.map_append, List.map_append, List.sum_append]
        simp only [List.map_cons, List.map_nil, List.sum_cons, List.sum_nil]
        omega
      . rw [hfixtures, hcontent, lightingRows_concat, h.fixtures]
        simp [hlighting, fixtureOf, Function.comp_def]
      . rw [hrows, hcontent, lightingRows_concat, h.rows]
        simp [hlighting]
    . obtain ⟨hdomains, hrows, hfixtures⟩ :=
        completeSection_domain hinstalled hlighting hinside measured snapshot
      obtain ⟨hintCells, hfloatCells⟩ :=
        cells_rowsOf hfits (section?_of_declared hdeclared hinstalled)
      have hpoints : (movedBehind snapshot.domains d).Points snapshot.domains
          (frame.rowsOf installed d) := by
        refine ⟨?_, toInt_ofNat_of_lt hints, toInt_ofNat_of_lt hfloats⟩
        obtain ⟨found, _, hfit, _⟩ := hfits
        rw [length_rowsOf]
        exact hfit.clamped.2.1.symm
      have hpush := h.reads.push hpoints (by
        intro other hother
        rw [movedBehind, hinstalled] at hother
        cases hother
        exact strided_rowsOf hinside)
      constructor
      . rw [hdomains, hcontent, List.filter_append]
        simpa [hlighting, movedBehind, hinstalled] using hpush
      . rw [hdomains, List.map_append, List.map_append, List.sum_append]
        simp only [SectionedVisualFrame.push, List.length_append, Int.natCast_add, hintCells,
          List.map_cons, List.map_nil, List.sum_cons, List.sum_nil]
        omega
      . rw [hdomains, List.map_append, List.map_append, List.sum_append]
        simp only [SectionedVisualFrame.push, List.length_append, Int.natCast_add, hfloatCells,
          List.map_cons, List.map_nil, List.sum_cons, List.sum_nil]
        omega
      . rw [hfixtures, hcontent, lightingRows_concat, h.fixtures]
        simp [hlighting]
      . rw [hrows, hcontent, lightingRows_concat, h.rows]
        simp [hlighting]

theorem sum_ranges_le {schema : VisualFrameSchema} {ds : List SectionDescriptor}
    (hfits : ∀ d ∈ ds, d.Fits schema frame) (hapart : ds.Pairwise (Apart schema))
    (buffer : PayloadBuffer)
    : ((ds.map (schema.range buffer)).map (fun r => r.2 - r.1)).sum ≤ buffer.size frame := by
  apply Packing.sum_ranges_le
  . intro r hr
    obtain ⟨d, hd, rfl⟩ := List.mem_map.mp hr
    have hwithin := (hfits d hd).within buffer
    have hnonneg := range_nonneg (hfits d hd) buffer
    omega
  . rw [List.pairwise_map]
    apply hapart.imp
    intro a b h
    exact h.range buffer

theorem completed_sections (start : CompletedPresentationSnapshot) (measured : Bool)
    (hempty : start.domains.descriptors = [] ∧ start.domains.integers = []
      ∧ start.domains.floats = [] ∧ start.updatedFixtures = [] ∧ start.lightingRows = 0)
    (hdeclared : ∀ type, capabilities.has type = true → declared.has type = true)
    (hints : frame.integers.length < 2 ^ 31) (hfloats : frame.floats.length < 2 ^ 31)
    {ds : List SectionDescriptor}
    (hfits : ∀ d ∈ ds, d.Fits (makeVisualFrameSchema generation declared) frame)
    (hapart : ds.Pairwise (Apart (makeVisualFrameSchema generation declared)))
    : Completed generation capabilities declared frame ds
        (ds.foldl (completeSection measured (makeVisualFrameSchema generation capabilities) frame)
          start) := by
  obtain ⟨hdescriptors, hintegers, hreals, hfixtures, hrows⟩ := hempty
  induction ds using List.reverseRecOn with
  | nil =>
    refine ⟨Reads.empty hdescriptors, ?_, ?_, hfixtures, hrows⟩
    . simp [hintegers]
    . simp [hreals]
  | append_singleton ds d ih =>
    have hfront (e : SectionDescriptor) (he : e ∈ ds)
        : e.Fits (makeVisualFrameSchema generation declared) frame :=
      hfits e (List.mem_append_left _ he)
    have hfrontApart := (List.pairwise_append.mp hapart).1
    have hold := ih hfront hfrontApart
    have hholdInts := hold.ints
    have hholdFloats := hold.floats
    have hboundInts := sum_ranges_le hfront hfrontApart .ints
    have hboundFloats := sum_ranges_le hfront hfrontApart .floats
    simp only [PayloadBuffer.size] at hboundInts hboundFloats
    rw [List.foldl_append]
    apply hold.step hdeclared (hfits d (List.mem_append_right _ List.mem_cons_self))
    . omega
    . omega

-- The fixtures are those of the lighting rows, everything else is handed on as it was.
theorem reads_complete {result : DirectResult}
    (hschema : result.core.schema = makeVisualFrameSchema generation capabilities)
    (hdeclared : ∀ type, capabilities.has type = true → declared.has type = true)
    (hconforms : Conforms (makeVisualFrameSchema generation declared) result.frame)
    (hints : result.frame.integers.length < 2 ^ 31) (hfloats : result.frame.floats.length < 2 ^ 31)
    (measured : Bool) (now : ℚ) (schemaGeneration : Int32) (binding : UInt64)
    : let snapshot := (complete measured now schemaGeneration binding result).1
      let content := result.frame.read result.core.schema
      Reads result.core.schema snapshot.domains
          (content.filter (fun read => !DensePresentationState.isLighting read.1))
        ∧ snapshot.updatedFixtures
          = sortUnique ((DensePresentationState.lightingRows content).map fixtureOf)
        ∧ snapshot.lightingRows = (DensePresentationState.lightingRows content).length
        ∧ snapshot.domains.integers.length ≤ result.frame.integers.length
        ∧ snapshot.domains.floats.length ≤ result.frame.floats.length := by
  have hcompleted := @completed_sections _ _ result.frame _ {
      schemaGeneration := schemaGeneration
      bindingGeneration := binding
      runtimeNowSeconds := now
      physicalRows := physicalRows result
      renderRows := result.projection.prepared
      domains := { schemaGeneration := schemaGeneration }
      unresolvedRows := result.state.unresolvedRows
      candidates := max result.state.candidates (physicalRows result).length
    } measured ⟨rfl, rfl, rfl, rfl, rfl⟩ hdeclared hints hfloats _ hconforms.fits hconforms.apart
  have hboundInts := sum_ranges_le hconforms.fits hconforms.apart .ints
  have hboundFloats := sum_ranges_le hconforms.fits hconforms.apart .floats
  unfold complete
  rw [hschema]
  refine ⟨hcompleted.reads, congrArg sortUnique hcompleted.fixtures, hcompleted.rows, ?_, ?_⟩
  . exact Int.ofNat_le.mp (hcompleted.ints.trans hboundInts)
  . exact Int.ofNat_le.mp (hcompleted.floats.trans hboundFloats)

end Complete

/-! ### The first snapshot after a retirement -/

/-- The offsets behind the buffers of another frame, narrowed as they are stored. -/
def shifted (deferred : SectionedVisualFrame) (d : SectionDescriptor) : SectionDescriptor :=
  { d with
    intOffset := Int32.ofInt (d.intOffset.toInt + deferred.integers.length)
    floatOffset := Int32.ofInt (d.floatOffset.toInt + deferred.floats.length) }

/-- The domains of a snapshot behind those that were deferred. -/
def mergeDomains (deferred domains : SectionedVisualFrame) : SectionedVisualFrame :=
  if deferred.descriptors.isEmpty then
    domains
  else
    { deferred with
      descriptors := deferred.descriptors
        ++ (domains.sections.map (shifted deferred)).flatMap SectionDescriptor.cells
      integers := deferred.integers ++ domains.integers
      floats := deferred.floats ++ domains.floats }

section Merge

variable {schema : VisualFrameSchema} {deferred domains : SectionedVisualFrame}

theorem ofInt_add {offset : Int32} {n : Nat} (hnonneg : 0 ≤ offset.toInt)
    (hlt : n + offset.toNatClampNeg < 2 ^ 31)
    : (Int32.ofInt (offset.toInt + n)).toInt = offset.toInt + n
        ∧ (Int32.ofInt (offset.toInt + n)).toNatClampNeg = n + offset.toNatClampNeg := by
  have htoInt : (Int32.ofInt (offset.toInt + n)).toInt = offset.toInt + n := by
    unfold Int32.toNatClampNeg at hlt
    apply Int32.toInt_ofInt_of_le
    . omega
    . omega
  refine ⟨htoInt, ?_⟩
  unfold Int32.toNatClampNeg
  rw [htoInt]
  omega

theorem inside_merged {installed : VisualSectionSchema} {d : SectionDescriptor}
    (h : d.Inside installed deferred) (hwhole : ¬deferred.descriptors.isEmpty = true)
    : d.Inside installed (mergeDomains deferred domains)
        ∧ (mergeDomains deferred domains).rowsOf installed d = deferred.rowsOf installed d := by
  have hints := h.ints
  have hfloats := h.floats
  unfold mergeDomains
  rw [if_neg hwhole]
  refine ⟨⟨h.intOffset_nonneg, h.floatOffset_nonneg, ?_, ?_⟩, ?_⟩
  . simp only [List.length_append]
    omega
  . simp only [List.length_append]
    omega
  . unfold SectionedVisualFrame.rowsOf
    dsimp only
    rw [Packing.readRows_append_right hints, Packing.readRows_append_right hfloats]

theorem inside_shifted {installed : VisualSectionSchema} {d : SectionDescriptor}
    (h : d.Inside installed domains) (hwhole : ¬deferred.descriptors.isEmpty = true)
    (hsizeInts : deferred.integers.length + domains.integers.length < 2 ^ 31)
    (hsizeFloats : deferred.floats.length + domains.floats.length < 2 ^ 31)
    : (shifted deferred d).Inside installed (mergeDomains deferred domains)
        ∧ (mergeDomains deferred domains).rowsOf installed (shifted deferred d)
          = domains.rowsOf installed d := by
  have hints := h.ints
  have hfloats := h.floats
  obtain ⟨hintOffset, hintClamped⟩ := ofInt_add (n := deferred.integers.length)
    h.intOffset_nonneg (by omega)
  obtain ⟨hfloatOffset, hfloatClamped⟩ := ofInt_add (n := deferred.floats.length)
    h.floatOffset_nonneg (by omega)
  unfold mergeDomains
  rw [if_neg hwhole]
  refine ⟨⟨?_, ?_, ?_, ?_⟩, ?_⟩
  . simp only [shifted, hintOffset]
    have hnonneg := h.intOffset_nonneg
    omega
  . simp only [shifted, hfloatOffset]
    have hnonneg := h.floatOffset_nonneg
    omega
  . simp only [shifted, hintClamped, List.length_append]
    omega
  . simp only [shifted, hfloatClamped, List.length_append]
    omega
  . unfold SectionedVisualFrame.rowsOf
    simp only [shifted, hintClamped, hfloatClamped]
    rw [Packing.readRows_append_left, Packing.readRows_append_left]

theorem readSection_merged {d : SectionDescriptor}
    (h : ∀ installed, schema.section? d.sectionType = some installed → d.Inside installed deferred)
    (hwhole : ¬deferred.descriptors.isEmpty = true)
    : (mergeDomains deferred domains).readSection schema d = deferred.readSection schema d := by
  unfold SectionedVisualFrame.readSection
  cases hinstalled : schema.section? d.sectionType with
  | none => rw [Option.map_none, Option.map_none]
  | some installed =>
    rw [Option.map_some, Option.map_some, (inside_merged (h installed hinstalled) hwhole).2]

theorem readSection_shifted {d : SectionDescriptor}
    (h : ∀ installed, schema.section? d.sectionType = some installed → d.Inside installed domains)
    (hwhole : ¬deferred.descriptors.isEmpty = true)
    (hints : deferred.integers.length + domains.integers.length < 2 ^ 31)
    (hfloats : deferred.floats.length + domains.floats.length < 2 ^ 31)
    : (mergeDomains deferred domains).readSection schema (shifted deferred d)
        = domains.readSection schema d := by
  unfold SectionedVisualFrame.readSection
  have htype : (shifted deferred d).sectionType = d.sectionType := rfl
  rw [htype]
  cases hinstalled : schema.section? d.sectionType with
  | none => rw [Option.map_none, Option.map_none]
  | some installed =>
    rw [Option.map_some, Option.map_some,
      (inside_shifted (h installed hinstalled) hwhole hints hfloats).2]

-- What was deferred is read first, then what the snapshot has.
theorem reads_mergeDomains {front back : List ReadSection} (hfront : Reads schema deferred front)
    (hback : Reads schema domains back)
    (hints : deferred.integers.length + domains.integers.length < 2 ^ 31)
    (hfloats : deferred.floats.length + domains.floats.length < 2 ^ 31)
    : Reads schema (mergeDomains deferred domains) (front ++ back) := by
  by_cases hwhole : deferred.descriptors.isEmpty = true
  . have hnone : front = [] := by
      rw [← hfront.content]
      exact (Reads.empty (List.isEmpty_iff.mp hwhole)).content
    rw [mergeDomains, if_pos hwhole, hnone]
    exact hback
  . have hdescriptors : (mergeDomains deferred domains).descriptors
        = (deferred.sections ++ domains.sections.map (shifted deferred)).flatMap
          SectionDescriptor.cells := by
      rw [mergeDomains, if_neg hwhole, List.flatMap_append, ← hfront.whole]
    have hsections : (mergeDomains deferred domains).sections
        = deferred.sections ++ domains.sections.map (shifted deferred) :=
      sections_of_descriptors hdescriptors
    constructor
    . rw [hsections, hdescriptors]
    . rw [hsections]
      intro d hd installed hinstalled
      rcases List.mem_append.mp hd with hd | hd
      . exact (inside_merged (hfront.inside d hd installed hinstalled) hwhole).1
      . obtain ⟨e, he, rfl⟩ := List.mem_map.mp hd
        exact (inside_shifted (hback.inside e he installed hinstalled) hwhole hints hfloats).1
    . rw [SectionedVisualFrame.read, hsections, List.filterMap_append, ← hfront.content,
        ← hback.content, List.filterMap_map]
      congr 1
      . apply List.filterMap_congr
        intro d hd
        exact readSection_merged (hfront.inside d hd) hwhole
      . apply List.filterMap_congr
        intro d hd
        exact readSection_shifted (hback.inside d hd) hwhole hints hfloats

end Merge

/-! ### The frame of a consume -/

/-- The capabilities of a runtime that can put out everything. -/
def everything : VisualFrameSchemaCapabilities where
  hasTransform := true
  hasIntensity := true
  hasColor := true
  hasOptics := true
  hasWheelSelection := true
  hasWheelMotion := true
  hasTemporal := true
  hasGoboSelection := true
  hasGoboRotation := true
  hasShutter := true

theorem has_everything (type : VisualSectionType) : everything.has type = true := by
  cases type with
  | _ => rfl

def readOf (s : Section) : ReadSection := (s.1.toInt32, s.2)

/-- The sections that a reader of the schema finds. -/
def found (capabilities : VisualFrameSchemaCapabilities) (sections : List Section)
    : List ReadSection :=
  (sections.filter (fun s => !s.2.isEmpty
    && (s.1 != .emitterColor || capabilities.has .emitterColor))).map readOf

section Frame

variable {core : Runtime.Core} {now : ℚ}

theorem conforms_consume (h : core.Advertises capabilities)
    (haddressable : Addressable (core.consumedSections p now))
    : Conforms (makeVisualFrameSchema core.schema.schemaGeneration everything)
          (consumeLatestVisualFrame p core now).2
        ∧ (consumeLatestVisualFrame p core now).2.integers.length < 2 ^ 31
        ∧ (consumeLatestVisualFrame p core now).2.floats.length < 2 ^ 31 := by
  obtain ⟨hframe, hfits, _⟩ := h.frame haddressable
  have hcontains : Contains everything core.schema.schemaGeneration
      (frameOf core.schema.schemaGeneration (core.consumedSections p now))
      (core.consumedSections p now) := contains_frameOf hfits haddressable
  rw [hframe, ← valid_iff_conforms, valid_frameOf_iff hfits haddressable
    (nodup_consumedSections _ _), hcontains.cells.1, hcontains.cells.2]
  exact ⟨fun s _ _ => has_everything s.1, haddressable⟩

theorem read_consume (h : core.Advertises capabilities)
    (haddressable : Addressable (core.consumedSections p now))
    : (consumeLatestVisualFrame p core now).2.read core.schema
          = found capabilities (core.consumedSections p now)
        ∧ (consumeLatestVisualFrame p core now).2.read
            (makeVisualFrameSchema core.schema.schemaGeneration everything)
          = ((core.consumedSections p now).filter (fun s => !s.2.isEmpty)).map readOf := by
  obtain ⟨hframe, hfits, hdeclared⟩ := h.frame haddressable
  have hcontains : Contains capabilities core.schema.schemaGeneration
      (frameOf core.schema.schemaGeneration (core.consumedSections p now))
      (core.consumedSections p now) := contains_frameOf hfits haddressable
  have hall : Contains everything core.schema.schemaGeneration
      (frameOf core.schema.schemaGeneration (core.consumedSections p now))
      (core.consumedSections p now) := contains_frameOf hfits haddressable
  constructor
  . rw [h.schema, hframe, hcontains.reads.content, read_declared hdeclared]
    rfl
  . rw [hframe, hall.reads.content, List.filterMap_eq_map_iff_forall_eq_some.mpr]
    intro s _
    rw [Section.read, if_pos (has_everything s.1)]
    rfl

theorem lightingRows_nonempty (sections : List Section)
    : DensePresentationState.lightingRows ((sections.filter (fun s => !s.2.isEmpty)).map readOf)
        = DensePresentationState.lightingRows (sections.map readOf) := by
  induction sections with
  | nil => rfl
  | cons s sections ih =>
    unfold DensePresentationState.lightingRows at ih ⊢
    cases hempty : s.2.isEmpty with
    | true =>
      rw [List.isEmpty_iff] at hempty
      simp [hempty, readOf, ih]
    | false => simp [hempty, ih]

/-- The lighting rows that a consume puts out, whether their sections are declared or not. -/
def putOut (p : Platform) (core : Runtime.Core) (now : ℚ)
    : List DensePresentationState.LightingRow :=
  DensePresentationState.lightingRows ((core.consumedSections p now).map readOf)

/-- A binding that the transaction does not reject. -/
structure Binds (core : Runtime.Core) (state : DensePresentationState)
    (projection : RenderGroupProjection) (binding : UInt64) (schemaGeneration : Int32) : Prop where
  generation : binding = state.generation
  schemaGeneration : schemaGeneration = core.schema.schemaGeneration
  members : projection.members.length = state.bindings.length

/-- What comes of a transaction, in terms of what the domains have put out. -/
structure Transacts (p : Platform) (now : ℚ) (core : Runtime.Core)
    (state : DensePresentationState) (result : DirectResult) : Prop where
  consumed : result.core = (consumeLatestVisualFrame p core now).1
  emitted : result.frame = (consumeLatestVisualFrame p core now).2
  generation : result.state.generation = state.generation
  bindings : result.state.bindings = state.bindings
  unresolvedRows : result.state.unresolvedRows
    = (putOut p core now).countP (fun row => !state.resolves row)
  state : ∀ index, result.state.state index = state.presented (putOut p core now) index

theorem transacts_consumeDirect {state : DensePresentationState}
    {projection : RenderGroupProjection} {binding : UInt64} {schemaGeneration : Int32}
    (h : core.Advertises capabilities) (haddressable : Addressable (core.consumedSections p now))
    (hbinds : Binds core state projection binding schemaGeneration)
    : ∃ result, consumeDirect p now core state projection binding schemaGeneration = some result
        ∧ Transacts p now core state result
        ∧ result.projection = projection.prepare p result.state := by
  obtain ⟨hgeneration, hschema, hmembers⟩ := hbinds
  have hconforms := (conforms_consume h haddressable).1
  have hcomposed := DensePresentationState.composeSections_of_conforms hconforms state
  have hpresents := (DensePresentationState.presents_reset state).content
    ((consumeLatestVisualFrame p core now).2.read
      (makeVisualFrameSchema core.schema.schemaGeneration everything))
  rw [(read_consume h haddressable).2, List.nil_append, lightingRows_nonempty] at hpresents
  rw [(read_consume h haddressable).2] at hcomposed
  generalize hstate : List.foldl _ _ _ = composed at hcomposed hpresents
  have hresult : consumeDirect p now core state projection binding schemaGeneration
      = some ⟨(consumeLatestVisualFrame p core now).1, (consumeLatestVisualFrame p core now).2,
        composed, projection.prepare p composed⟩ := by
    unfold consumeDirect
    rw [if_neg (by simp [hgeneration, hschema, hmembers]), hgeneration]
    dsimp only
    rw [hcomposed]
    rfl
  refine ⟨_, hresult, ⟨rfl, rfl, hpresents.generation, hpresents.bindings, ?_, ?_⟩, rfl⟩
  . rw [hpresents.unresolvedRows]
    exact Nat.zero_add _
  . exact hpresents.state

/-- What a snapshot says of a consume besides the outputs. -/
structure Reports (p : Platform) (capabilities : VisualFrameSchemaCapabilities) (now : ℚ)
    (core : Runtime.Core) (snapshot : CompletedPresentationSnapshot) : Prop where
  domains : Reads core.schema snapshot.domains
    ((found capabilities (core.consumedSections p now)).filter
      (fun read => !DensePresentationState.isLighting read.1))
  updatedFixtures : snapshot.updatedFixtures = sortUnique ((DensePresentationState.lightingRows
    (found capabilities (core.consumedSections p now))).map fixtureOf)
  lightingRows : snapshot.lightingRows = (DensePresentationState.lightingRows
    (found capabilities (core.consumedSections p now))).length
  ints : snapshot.domains.integers.length
    ≤ (consumeLatestVisualFrame p core now).2.integers.length
  floats : snapshot.domains.floats.length
    ≤ (consumeLatestVisualFrame p core now).2.floats.length

theorem reports_complete {result : DirectResult} (h : core.Advertises capabilities)
    (haddressable : Addressable (core.consumedSections p now))
    (hconsumed : result.core = (consumeLatestVisualFrame p core now).1)
    (hemitted : result.frame = (consumeLatestVisualFrame p core now).2) (measured : Bool)
    (completedAt : ℚ) (schemaGeneration : Int32) (binding : UInt64)
    : Reports p capabilities now core
        (complete measured completedAt schemaGeneration binding result).1 := by
  have hschema : result.core.schema = core.schema := by
    rw [hconsumed]
    rfl
  obtain ⟨hconforms, hints, hfloats⟩ := conforms_consume h haddressable
  rw [← hemitted] at hconforms hints hfloats
  have hcomplete := reads_complete (hschema.trans h.schema) (fun type _ => has_everything type)
    hconforms hints hfloats measured completedAt schemaGeneration binding
  dsimp only at hcomplete
  rw [hschema, hemitted, (read_consume h haddressable).1] at hcomplete
  obtain ⟨hdomains, hfixtures, hrows, hintCells, hfloatCells⟩ := hcomplete
  exact ⟨hdomains, hfixtures, hrows, hintCells, hfloatCells⟩

end Frame

/-! ### Sessions -/

theorem members_prepare (p : Platform) (physical : DensePresentationState)
    (t : RenderGroupProjection) : (t.prepare p physical).members.length = t.members.length := by
  have hmembers := RenderGroupProjection.prepareMembers_spec p physical
    { t with prepared := [], dirtyRows := [] } physical.dirty
  unfold RenderGroupProjection.prepare
  apply List.foldl_keeps
    (I := fun t' : RenderGroupProjection => t'.members.length = t.members.length)
  . intro index _ t' h
    rw [RenderGroupProjection.prepareRow_eq]
    exact h
  . exact hmembers.2.2.1

theorem finishSnapshot_generation (s : DensePresentationState) (binding : UInt64)
    : (s.finishSnapshot binding).generation = s.generation
        ∧ (s.finishSnapshot binding).bindings = s.bindings
        ∧ (s.finishSnapshot binding).unresolvedRows = s.unresolvedRows := by
  unfold DensePresentationState.finishSnapshot
  split
  . exact ⟨rfl, rfl, rfl⟩
  . exact ⟨rfl, rfl, rfl⟩

namespace RenderSession

variable {conditions : Nat → Conditions} {c : Presented RenderSession}

/-- A session whose binding is that of its core. -/
structure Bound (capabilities : VisualFrameSchemaCapabilities) (c : Presented RenderSession)
    : Prop where
  advertises : c.core.Advertises capabilities
  binds : Binds c.core c.presentation.state c.presentation.projection c.presentation.binding
    c.presentation.schema

/-- The time at which the next transaction consumes. -/
def next (conditions : Nat → Conditions) (c : Presented RenderSession) : ℚ :=
  (conditions c.presentation.completed).now

theorem Bound.submit (h : Bound capabilities c) (id : Int) (data : List UInt8)
    : Bound capabilities (Presented.submit c id data) := by
  unfold Presented.submit
  split
  . constructor
    . exact h.advertises.step (p := exactPlatform) (.submit (Int32.ofInt id) data)
    . exact ⟨h.binds.generation, h.binds.schemaGeneration, h.binds.members⟩
  . exact h

-- Whatever a transaction makes of the outputs, the binding stays.
theorem Bound.of_consume (h : Bound capabilities c) {c' : Presented RenderSession}
    {snapshot : CompletedPresentationSnapshot}
    (hconsume : RenderSession.consume p conditions c = some (c', snapshot))
    : Bound capabilities c' := by
  obtain ⟨result, hresult, heq⟩ := Option.map_eq_some_iff.mp hconsume
  obtain ⟨_, hstate, hprojection⟩ := consumeDirect_eq_some hresult
  have hadvances := DensePresentationState.advances_composeSections { c.presentation.state with
    traceEnabled := (conditions c.presentation.completed).measured } c.presentation.binding
    result.frame
  rw [← hstate] at hadvances
  obtain ⟨hgeneration, hbindings, _⟩ := finishSnapshot_generation result.state
    c.presentation.binding
  cases heq
  constructor
  . exact h.advertises.step (.consume (next conditions c))
  . constructor
    . exact h.binds.generation.trans (hadvances.generation.symm.trans hgeneration.symm)
    . exact h.binds.schemaGeneration
    . change result.projection.members.length = _
      rw [hprojection, members_prepare]
      exact h.binds.members.trans (congrArg List.length
        (hadvances.bindings.symm.trans hbindings.symm))

/-- What one transaction of a session makes of it, and what its snapshot says. -/
structure Completes (p : Platform) (conditions : Nat → Conditions)
    (capabilities : VisualFrameSchemaCapabilities) (c c' : Presented RenderSession)
    (snapshot : CompletedPresentationSnapshot) : Prop where
  core : c'.core = (consumeLatestVisualFrame p c.core (next conditions c)).1
  unresolvedRows : c'.presentation.state.unresolvedRows
    = (putOut p c.core (next conditions c)).countP (fun row => !c.presentation.state.resolves row)
  state : ∀ index, (c'.presentation.state.state index).settled
    = (c.presentation.state.presented (putOut p c.core (next conditions c)) index).settled
  reports : Reports p capabilities (next conditions c) c.core snapshot

theorem Bound.consume (h : Bound capabilities c)
    (haddressable : Addressable (c.core.consumedSections p (next conditions c)))
    : ∃ c' snapshot, RenderSession.consume p conditions c = some (c', snapshot)
        ∧ Completes p conditions capabilities c c' snapshot := by
  have hbinds : Binds c.core { c.presentation.state with
      traceEnabled := (conditions c.presentation.completed).measured } c.presentation.projection
      c.presentation.binding c.presentation.schema :=
    ⟨h.binds.generation, h.binds.schemaGeneration, h.binds.members⟩
  obtain ⟨result, hresult, htransacts, _⟩ :=
    transacts_consumeDirect h.advertises haddressable hbinds
  have hreports := reports_complete h.advertises haddressable htransacts.consumed
    htransacts.emitted
    (conditions c.presentation.completed).measured
    (conditions c.presentation.completed).completedAt c.presentation.schema c.presentation.binding
  unfold RenderSession.consume
  dsimp only
  unfold next at hresult
  rw [hresult]
  refine ⟨_, _, rfl, ⟨rfl, ?_, ?_, hreports⟩⟩
  . change (result.state.finishSnapshot c.presentation.binding).unresolvedRows = _
    rw [(finishSnapshot_generation _ _).2.2, htransacts.unresolvedRows]
    rfl
  . intro index
    change ((result.state.finishSnapshot c.presentation.binding).state index).settled = _
    rw [DensePresentationState.settled_finishSnapshot, htransacts.state index]
    rfl

theorem Bound.start {core : Runtime.Core} {state : DensePresentationState}
    {projection : RenderGroupProjection} (hcore : c.core = core)
    (hpresentation : c.presentation = RenderSession.start core state projection)
    (hadvertises : core.Advertises capabilities)
    (hmembers : projection.members.length = state.bindings.length) : Bound capabilities c := by
  constructor
  . rw [hcore]
    exact hadvertises
  . rw [hcore, hpresentation]
    exact ⟨rfl, rfl, hmembers⟩

/-- The frame of the next transaction is addressable. -/
def Transportable (p : Platform) (conditions : Nat → Conditions) (c : Presented RenderSession)
    : Prop :=
  Addressable (c.core.consumedSections p (next conditions c))

instance (conditions : Nat → Conditions) (c : Presented RenderSession)
    : Decidable (Transportable p conditions c) :=
  inferInstanceAs (Decidable (Addressable _))

theorem bound_run (h : Bound capabilities c) {events : List AsyncPipeline.Event}
    (hevents : (AsyncPipeline.machine (pipelineCore p conditions) c).StepsMeet
      (fun s event => s.consuming event = true → Transportable p conditions s.core)
      (AsyncPipeline.machine (pipelineCore p conditions) c).init events)
    : let M := AsyncPipeline.machine (pipelineCore p conditions) c
      Bound capabilities (M.run M.init events).core ∧ (M.run M.init events).failed = false := by
  apply AsyncPipeline.keeps_core (I := Bound capabilities) (P := Transportable p conditions) _ _ _ h
    hevents
  . intro c id data h
    exact h.submit id data
  . intro c c' snapshot h hconsume
    exact h.of_consume hconsume
  . intro c h haddressable
    obtain ⟨c', snapshot, hconsume, _⟩ := h.consume haddressable
    exact Option.isSome_of_eq_some hconsume

end RenderSession

section Run

variable {core core' : Runtime.Core} {scene : CompiledRuntimeScene} (operations : List Operation)

/-- The sections of a replay that a reader of the schema finds. -/
def declared (capabilities : VisualFrameSchemaCapabilities) (sections : List Section)
    : List ReadSection :=
  (sections.filter (fun s => !s.2.isEmpty && capabilities.has s.1)).map readOf

theorem filterMap_read (sections : List Section)
    : (sections.filter (fun s => !s.2.isEmpty)).filterMap (Section.read capabilities)
        = declared capabilities sections := by
  induction sections with
  | nil => rfl
  | cons s sections ih =>
    unfold declared at ih ⊢
    cases hempty : s.2.isEmpty with
    | true => simp [hempty, ih]
    | false =>
      cases hhas : capabilities.has s.1 with
      | true => simp [hempty, hhas, Section.read, readOf, ih]
      | false => simp [hempty, hhas, Section.read, ih]

theorem emitted_consumeDirect {now : ℚ} {core : Runtime.Core} {state : DensePresentationState}
    {projection : RenderGroupProjection} {generation : UInt64} {schemaGeneration : Int32}
    {result : DirectResult}
    (h : consumeDirect p now core state projection generation schemaGeneration = some result)
    : result.core = (consumeLatestVisualFrame p core now).1
        ∧ result.frame = (consumeLatestVisualFrame p core now).2 := by
  unfold consumeDirect at h
  split at h
  . cases h
  . dsimp only at h
    split at h
    . cases h
    . cases h
      exact ⟨rfl, rfl⟩

-- The first snapshot after a retirement tells what was held, then what has come since.
theorem run_merged (hinstall : installCompiledScene p core' scene = some core)
    (later : List Operation) (retiredAt now : ℚ) {state : DensePresentationState}
    {projection : RenderGroupProjection} {binding : UInt64} {schemaGeneration : Int32}
    {result : DirectResult} (measured : Bool) (completedAt : ℚ)
    : let retired := (runtime p core).run core operations
      let s := (runtime p core).run core (operations ++ later)
      Addressable (retired.replaySections p retiredAt ++ s.consumedSections p now)
        → consumeDirect p now s state projection binding schemaGeneration = some result
        → (mergeDomains (heldDomainReplay p retired retiredAt)
            (complete measured completedAt schemaGeneration binding result).1.domains).read
              core.schema
          = declared (installTables p scene).capabilities (retired.replaySections p retiredAt)
            ++ (found (installTables p scene).capabilities (s.consumedSections p now)).filter
              (fun read => !DensePresentationState.isLighting read.1) := by
  intro retired s haddressable hresult
  have hschema : core.schema = makeVisualFrameSchema core.schema.schemaGeneration
      (installTables p scene).capabilities := by
    exact (advertises_run (p := p) [] hinstall).schema
  have hadvertises := advertises_run (p := p) (operations ++ later) hinstall
  obtain ⟨hcore, hframe⟩ := emitted_consumeDirect hresult
  obtain ⟨hints, hfloats⟩ := haddressable.both
  have hfront : Addressable (retired.replaySections p retiredAt) := ⟨by omega, by omega⟩
  have hback : Addressable (s.consumedSections p now) := ⟨by omega, by omega⟩
  have hreplay : Contains (installTables p scene).capabilities core.schema.schemaGeneration
      (frameOf core.schema.schemaGeneration (retired.replaySections p retiredAt))
      (retired.replaySections p retiredAt) := contains_frameOf (fits_replaySections _ _) hfront
  have hreports := reports_complete hadvertises hback hcore hframe measured completedAt
    schemaGeneration binding
  have hconsumed : Contains (installTables p scene).capabilities s.schema.schemaGeneration
      (consumeLatestVisualFrame p s now).2 (s.consumedSections p now) := by
    obtain ⟨hemitted, hfits, _⟩ := hadvertises.frame hback
    rw [hemitted]
    exact contains_frameOf hfits hback
  have hdeferred := hreplay.reads
  have hdomains := hreports.domains
  have hdomainInts := hreports.ints
  have hdomainFloats := hreports.floats
  rw [← hschema, filterMap_read] at hdeferred
  rw [schema_run] at hdomains
  rw [hconsumed.cells.1] at hdomainInts
  rw [hconsumed.cells.2] at hdomainFloats
  rw [heldDomainReplay_eq, schema_run]
  apply (reads_mergeDomains hdeferred hdomains _ _).content
  . rw [hreplay.cells.1]
    omega
  . rw [hreplay.cells.2]
    omega

end Run

/-! ### A wheel over a target without colors -/

/-- The colors of the wheel go to the one output. -/
def colorOutput : DensePresentationState where
  bindings := [{ canonicalId := 1 }]
  states := [{}]
  routes := [((3, 1), [0])]
  tracked := by
    intro index hmask
    cases index with
    | zero => exact absurd rfl hmask
    | succ index => exact absurd rfl hmask

def selectedCore : Runtime.Core := (runtime exactPlatform selectCore).run selectCore selected

def oneMember : RenderGroupProjection where
  physicalToRow := [0]
  members := [{}]
  rows := [{}]

def selectSession : Presented RenderSession where
  core := selectedCore
  presentation := RenderSession.start selectedCore colorOutput oneMember
  distinct := by decide +kernel

/-- The coordinator up to its first snapshot. -/
def firstSnapshot : List AsyncPipeline.Event := List.replicate 9 .coordinator

/-- The wheel is put out. -/
def shown : List Operation := selected ++ [.consume 0]

def shownCore : Runtime.Core := (runtime exactPlatform selectCore).run selectCore (shown ++ [])

theorem consumeDirect_shownCore
    : (consumeDirect exactPlatform 0 shownCore colorOutput oneMember 0
        shownCore.schema.schemaGeneration).isSome = true := by
  decide +kernel

theorem run_merged_selectScene
    : ∃ result, consumeDirect exactPlatform 0 shownCore colorOutput oneMember 0
          shownCore.schema.schemaGeneration = some result
        ∧ ((mergeDomains (heldDomainReplay exactPlatform
              ((runtime exactPlatform selectCore).run selectCore shown) 0)
            (complete false 0 shownCore.schema.schemaGeneration 0 result).1.domains).read
              selectCore.schema).map Prod.fst = [5] := by
  obtain ⟨result, hresult⟩ := Option.isSome_iff_exists.mp consumeDirect_shownCore
  have haddressable : Addressable (((runtime exactPlatform selectCore).run selectCore
      shown).replaySections exactPlatform 0 ++ shownCore.consumedSections exactPlatform 0) := by
    decide +kernel
  have hmerged := run_merged shown install_selectScene [] 0 0 false 0 haddressable hresult
  refine ⟨result, hresult, ?_⟩
  rw [selectCore, hmerged]
  decide +kernel

end Peraviz.Presentation
