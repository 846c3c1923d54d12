import Peraviz.Gdtf.Offsets

/-!
This module contains the proof that every program of a supported fixture type reads offsets in
1..512 of a break that is not negative, through the channels of the mode and their expansion along
geometry references, without an overflow on the way.
-/

namespace Peraviz.Gdtf

open CheckedInt Peraviz.Runtime

structure ChannelProgram.Legal (program : ChannelProgram) : Prop where
  offsets : ∀ offset ∈ program.dmxOffsetsOneBased, IsOffset offset
  dmxBreak : 0 ≤ program.dmxBreak.toInt

def CompiledGdtfFixtureType.Legal (fixture : CompiledGdtfFixtureType) : Prop :=
  ∀ program ∈ fixture.channelPrograms, program.Legal

section

variable {original : CompiledGdtfFixtureType} {routes : List DmxGeometryRoute}

theorem isOffset_of_breakOffset {entry : XMLElement} {offset : Int32}
    (h : breakOffset entry = .ok offset)
    : IsOffset offset := by
  simp only [breakOffset] at h
  split at h
  next value hvalue =>
    split at h
    next => contradiction
    next hle =>
      cases h
      have hone := (patchNumber_eq_some hvalue).2
      exact ⟨hone, Int32.le_iff_toInt_le.mp (Int32.not_lt.mp hle)⟩
  next => contradiction

theorem one_le_of_breakTarget {entry : XMLElement} {target : Int32}
    (h : breakTarget entry = .ok target)
    : 1 ≤ target.toInt := by
  rw [breakTarget] at h
  split at h
  next =>
    cases h
    decide
  next =>
    split at h
    next value hvalue =>
      split at h
      next => contradiction
      next =>
        cases h
        apply (patchNumber_eq_some hvalue).2
    next => contradiction

theorem ensures_adjustByte {offset byte : Int32} (hoffset : IsOffset offset) (hbyte : IsOffset byte)
    : Ensures (adjustByte offset byte) IsOffset := by
  obtain ⟨hone, hle⟩ := hoffset
  obtain ⟨hone', hle'⟩ := hbyte
  have hunit : (1 : Int32).toInt = 1 := rfl
  apply Ensures.bind (Ensures.lift (defined_subChecked (by omega)))
  intro step hstep
  apply Ensures.bind (Ensures.lift (defined_addChecked (by omega)))
  intro sum hsum
  split
  next => apply Ensures.throw_bind
  next hlt =>
    have := Int32.le_iff_toInt_le.mp (Int32.not_lt.mp hlt)
    have h512 : (512 : Int32).toInt = 512 := rfl
    apply Ensures.pure
    rw [IsOffset]
    omega

theorem mem_referencedBreaks {program : ChannelProgram} {route : DmxGeometryRoute}
    {reference : XMLElement} (hprogram : program ∈ original.channelPrograms)
    (hroute : route ∈ routes) (hreference : route.reference = some reference)
    (hname : (geometryOf original program).name = route.name)
    : program.dmxBreak ∈ referencedBreaks original routes reference := by
  rw [referencedBreaks, List.mem_flatMap]
  refine ⟨route, hroute, ?_⟩
  simp only [hreference, if_true, List.mem_map, List.mem_filter, decide_eq_true_eq]
  exact ⟨program, ⟨hprogram, hname⟩, rfl⟩

theorem ensures_referenceEntry {program : ChannelProgram} {reference : XMLElement}
    (hbreak : program.dmxBreak ∈ referencedBreaks original routes reference)
    (hnonneg : 0 ≤ program.dmxBreak.toInt)
    : Ensures (referenceEntry original routes program reference) (fun _ => True) := by
  rw [referenceEntry]
  split
  next => apply Ensures.throw_bind
  next hcount =>
    apply Ensures.lift
    refine ⟨_, List.getElem?_eq_getElem ?_, trivial⟩
    rw [Decidable.not_not.mp hcount]
    split
    next hpos =>
      have hne : program.dmxBreak ≠ 0 := by
        intro h
        rw [h] at hpos
        exact absurd hpos (by decide)
      have hmem : program.dmxBreak ∈ numberedBreaks original routes reference := by
        simp only [numberedBreaks, List.mem_mergeSort, List.mem_dedup, List.mem_filter]
        exact ⟨hbreak, by simp [hne]⟩
      have := List.idxOf_lt_length_iff.mpr hmem
      omega
    next hpos =>
      have hzero : program.dmxBreak = 0 := by
        apply Int32.toInt_inj.mp
        have := Int32.le_iff_toInt_le.mp (Int32.not_lt.mp hpos)
        have h0 : (0 : Int32).toInt = 0 := rfl
        omega
      rw [hzero] at hbreak
      rw [overwrittenCount, if_pos hbreak]
      omega

theorem ensures_adjustProgram {program : ChannelProgram} {route : DmxGeometryRoute}
    (hlegal : program.Legal)
    (hbreak : ∀ reference, route.reference = some reference →
      program.dmxBreak ∈ referencedBreaks original routes reference)
    : Ensures (adjustProgram original routes program route) ChannelProgram.Legal := by
  rw [adjustProgram]
  split
  next => apply Ensures.throw_bind
  next =>
    split
    next reference hreference =>
      apply Ensures.bind (ensures_referenceEntry (hbreak reference hreference) hlegal.dmxBreak)
      intro entry _
      apply Ensures.bind (Ensures.ofExcept (fun target htarget => one_le_of_breakTarget htarget))
      intro target htarget
      apply Ensures.bind (Ensures.ofExcept (fun offset hoffset => isOffset_of_breakOffset hoffset))
      intro offset hoffset
      split
      next => apply Ensures.throw_bind
      next =>
        apply Ensures.bind (Ensures.mapM (fun byte hbyte =>
          ensures_adjustByte hoffset (hlegal.offsets byte hbyte)))
        intro offsets hoffsets
        apply Ensures.pure
        refine ⟨hoffsets, ?_⟩
        show 0 ≤ (placedBreak program target).toInt
        rw [placedBreak]
        split
        next => omega
        next => exact hlegal.dmxBreak
    next =>
      split
      next => apply Ensures.throw_bind
      next => exact Ensures.pure hlegal

@[simp]
theorem Expansion.channelPrograms_geometryId (x : Expansion) (program : ChannelProgram)
    (route : DmxGeometryRoute)
    : (x.geometryId original program route).2.fixture.channelPrograms
        = x.fixture.channelPrograms := by
  rw [Expansion.geometryId]
  split <;> rfl

@[simp]
theorem Expansion.channelPrograms_componentId (x : Expansion) (program : ChannelProgram)
    (route : DmxGeometryRoute) (gid : Int32)
    : (x.componentId original program route gid).2.fixture.channelPrograms
        = x.fixture.channelPrograms := by
  simp only [Expansion.componentId]
  split <;> rfl

@[simp]
theorem Expansion.channelPrograms_channelId (x : Expansion) (program copy : ChannelProgram)
    (route : DmxGeometryRoute)
    : (x.channelId original program copy route).2.fixture.channelPrograms
        = x.fixture.channelPrograms := by
  simp only [Expansion.channelId]
  split <;> rfl

theorem Expansion.legal_place {x : Expansion} (h : x.fixture.Legal) (program : ChannelProgram)
    {copy : ChannelProgram} (hcopy : copy.Legal) (route : DmxGeometryRoute)
    : (x.place original program copy route).fixture.Legal := by
  intro placed hplaced
  simp only [Expansion.place, Expansion.channelPrograms_channelId,
    Expansion.channelPrograms_componentId, Expansion.channelPrograms_geometryId,
    List.mem_append, List.mem_singleton] at hplaced
  cases hplaced with
  | inl hplaced => exact h placed hplaced
  | inr hplaced =>
    rw [hplaced]
    exact ⟨hcopy.offsets, hcopy.dmxBreak⟩

theorem ensures_expandProgram {x : Expansion} (h : x.fixture.Legal) {program : ChannelProgram}
    (hprogram : program ∈ original.channelPrograms) (hlegal : program.Legal)
    : Ensures (expandProgram original routes x program) (fun x => x.fixture.Legal) := by
  apply Ensures.bind (P := fun (x : Expansion) => x.fixture.Legal)
  . apply Ensures.foldlM (I := fun (x : Expansion) => x.fixture.Legal) h
    intro x hx route hroute
    simp only [List.mem_filter, decide_eq_true_eq] at hroute
    apply Ensures.bind (ensures_adjustProgram hlegal (fun reference hreference =>
      mem_referencedBreaks hprogram hroute.1 hreference hroute.2.symm))
    intro copy hcopy
    apply Ensures.pure
    apply Expansion.legal_place hx program hcopy
  . intro x hx
    split
    next => apply Ensures.throw_bind
    next => exact Ensures.pure hx

end

theorem legal_redirectMaster {x : Expansion} {i : Nat} {program redirected : ChannelProgram}
    (h : redirectMaster x i program = .ok redirected) (hlegal : program.Legal)
    : redirected.Legal := by
  simp only [redirectMaster] at h
  split at h
  next =>
    cases h
    exact hlegal
  next =>
    split at h
    next => contradiction
    next =>
      cases h
      exact ⟨hlegal.offsets, hlegal.dmxBreak⟩

theorem mem_of_mapM_ok {ε α β : Type} {f : α → Except ε β} {l : List α} {r : List β}
    (h : l.mapM f = .ok r)
    : ∀ b ∈ r, ∃ a ∈ l, f a = .ok b := by
  induction l generalizing r with
  | nil =>
    cases h
    simp
  | cons a l ih =>
    rw [List.mapM_cons] at h
    cases hf : f a with
    | error e =>
      rw [hf] at h
      cases h
    | ok b =>
      cases hl : l.mapM f with
      | error e =>
        rw [hf, hl] at h
        cases h
      | ok bs =>
        rw [hf, hl] at h
        cases h
        simp only [List.mem_cons, forall_eq_or_imp, exists_eq_or_imp]
        refine ⟨.inl hf, ?_⟩
        intro b' hb'
        exact .inr (ih hl b' hb')

theorem legal_redirectMasters {x : Expansion} (h : x.fixture.Legal)
    {channelPrograms : List ChannelProgram} (hredirect : redirectMasters x = .ok channelPrograms)
    : ∀ program ∈ channelPrograms, program.Legal := by
  intro redirected hredirected
  obtain ⟨entry, hentry, heq⟩ := mem_of_mapM_ok hredirect redirected hredirected
  apply legal_redirectMaster heq
  apply h
  apply List.fst_mem_of_mem_zipIdx hentry

theorem ensures_expandInstanceDmxRoutes {fixture : CompiledGdtfFixtureType} (h : fixture.Legal)
    (root mode : XMLElement)
    : Ensures (expandInstanceDmxRoutes fixture root mode) CompiledGdtfFixtureType.Legal := by
  apply Ensures.bind (Ensures.ofExcept (P := fun _ => True) (fun _ _ => trivial))
  intro roots _
  split
  next =>
    by_cases hroots : roots ≠ []
    . rw [if_pos hroots]
      apply Ensures.throw_bind
    . rw [if_neg hroots]
      split
      next => apply Ensures.throw_bind
      next => exact Ensures.pure h
  next =>
    dsimp only
    split
    next => apply Ensures.throw
    next =>
      apply Ensures.bind (P := fun (x : Expansion) => x.fixture.Legal)
      . apply Ensures.foldlM (I := fun (x : Expansion) => x.fixture.Legal)
        . intro program hprogram
          simp at hprogram
        . intro x hx program hprogram
          apply ensures_expandProgram hx hprogram (h program hprogram)
      . intro x hx
        apply Ensures.bind (Ensures.ofExcept (fun _ hredirect => legal_redirectMasters hx hredirect))
        intro channelPrograms hprograms
        exact Ensures.pure hprograms

@[simp]
theorem FixtureBuilder.channelPrograms_attributeIdFor (reader : GdtfReader) (x : FixtureBuilder)
    (attributeName : String)
    : (x.attributeIdFor reader attributeName).2.fixture.channelPrograms
        = x.fixture.channelPrograms := by
  rw [FixtureBuilder.attributeIdFor]
  split <;> rfl

@[simp]
theorem FixtureBuilder.channelPrograms_geometryIdFor (x : FixtureBuilder)
    (geometryName geometryPath : String)
    : (x.geometryIdFor geometryName geometryPath).2.fixture.channelPrograms
        = x.fixture.channelPrograms := by
  simp only [FixtureBuilder.geometryIdFor]
  split <;> rfl

@[simp]
theorem FixtureBuilder.channelPrograms_componentIdFor (x : FixtureBuilder)
    (geometryId attributeId : Int32)
    : (x.componentIdFor geometryId attributeId).2.fixture.channelPrograms
        = x.fixture.channelPrograms := by
  simp only [FixtureBuilder.componentIdFor]
  split <;> rfl

theorem legal_appendFunction (reader : GdtfReader) (channel : XMLElement) {offsets : List Int32}
    (hoffsets : ∀ offset ∈ offsets, IsOffset offset) (parsed : ParsedDmxChannel)
    (geometryId : Int32) {x : FixtureBuilder} (h : x.fixture.Legal) (record : FunctionRecord)
    : (appendFunction reader channel offsets parsed geometryId x record).fixture.Legal := by
  intro program hprogram
  simp only [appendFunction, FixtureBuilder.channelPrograms_componentIdFor,
    FixtureBuilder.channelPrograms_attributeIdFor, List.mem_append, List.mem_singleton]
    at hprogram
  cases hprogram with
  | inl hprogram => exact h program hprogram
  | inr hprogram =>
    rw [hprogram]
    exact ⟨hoffsets, sourceBreakOf_nonneg channel⟩

theorem legal_foldl_appendFunction (reader : GdtfReader) (channel : XMLElement)
    {offsets : List Int32} (hoffsets : ∀ offset ∈ offsets, IsOffset offset)
    (parsed : ParsedDmxChannel) (geometryId : Int32) (records : List FunctionRecord)
    {x : FixtureBuilder} (h : x.fixture.Legal)
    : (records.foldl (appendFunction reader channel offsets parsed geometryId) x).fixture.Legal
    := by
  induction records generalizing x with
  | nil => exact h
  | cons record records ih =>
    rw [List.foldl_cons]
    apply ih
    apply legal_appendFunction reader channel hoffsets parsed geometryId h

theorem defined_appendChannel (reader : GdtfReader) (root : XMLElement) {x : FixtureBuilder}
    (h : x.fixture.Legal) {channel : XMLElement} (hchannel : channelIssue channel = none)
    : Defined (appendChannel reader root x channel) (fun x => x.fixture.Legal) := by
  apply Defined.bind (defined_parseOffsets hchannel)
  intro offsets hoffsets
  split
  next => exact Defined.pure h
  next =>
    dsimp only
    split
    next => exact Defined.pure h
    next logical _ _ =>
      split
      next => exact Defined.pure h
      next =>
        apply Defined.pure
        apply legal_foldl_appendFunction reader channel hoffsets
        intro program hprogram
        rw [FixtureBuilder.channelPrograms_geometryIdFor] at hprogram
        exact h program hprogram

theorem legal_resolveModeMasters (reader : GdtfReader) {fixture : CompiledGdtfFixtureType}
    (h : fixture.Legal)
    : (resolveModeMasters reader fixture).Legal := by
  intro program hprogram
  simp only [resolveModeMasters, List.mem_map] at hprogram
  obtain ⟨parsed, hparsed, rfl⟩ := hprogram
  have hlegal := h parsed hparsed
  split
  next => exact hlegal
  next => exact ⟨hlegal.offsets, hlegal.dmxBreak⟩

def CompiledGdtfFixtureType.Usable (fixture : CompiledGdtfFixtureType) : Prop :=
  fixture.dmxPatchSupported = true → fixture.Legal

theorem defined_compileGdtfFixtureType (reader : GdtfReader) (gdtfPath dmxModeName : String)
    : Defined (compileGdtfFixtureType reader gdtfPath dmxModeName)
        CompiledGdtfFixtureType.Usable := by
  have hempty : CompiledGdtfFixtureType.Legal {} := by
    intro program hprogram
    simp at hprogram
  rw [compileGdtfFixtureType]
  split
  next => exact Defined.pure (fun _ => hempty)
  next root _ =>
    split
    next => exact Defined.pure (fun _ => hempty)
    next mode _ =>
      split
      next =>
        apply Defined.pure
        intro hsupported
        contradiction
      next hvalid =>
        apply Defined.bind (P := fun (x : FixtureBuilder) => x.fixture.Legal)
        . apply Defined.foldlM (I := fun (x : FixtureBuilder) => x.fixture.Legal) hempty
          intro x hx channel hchannel
          apply defined_appendChannel reader root hx (channelIssue_of_validate hvalid hchannel)
        . intro x hx
          apply Defined.bind
            (ensures_expandInstanceDmxRoutes (legal_resolveModeMasters reader hx) root mode)
          intro result hresult
          split
          next expanded => exact Defined.pure (fun _ => hresult expanded rfl)
          next =>
            apply Defined.pure
            intro hsupported
            contradiction

end Peraviz.Gdtf
