import Peraviz.Gdtf.Legal
import Peraviz.Gdtf.SceneCompiler

/-!
This module contains the proof that the scene compiler makes only source bytes inside of a
universe: the validation of a fixture resolves every program, a resolved program has only sources
inside, and every program that is appended for a fixture is one of the validated ones.
-/

namespace Peraviz.Gdtf

open CheckedInt Peraviz.Runtime

def Inside (source : CompiledDmxByteSource) : Prop :=
  (0 ≤ source.address.toInt ∧ source.address.toInt ≤ 511) ∧
    0 ≤ source.universeId.toInt ∧ source.universeId.toInt ≤ 32767

/-- What the validation finds out about one program. -/
structure Resolved (patch : FixturePatch) (universeOffset : Int32) (program : ChannelProgram)
    (entry : FixturePatchAddress) : Prop where
  found : sourcePatch patch program.dmxBreak = some entry
  address : 1 ≤ entry.address.toInt ∧ entry.address.toInt ≤ 512
  inPort : 0 ≤ entry.mvrUniverse.toInt + universeOffset.toInt ∧
    entry.mvrUniverse.toInt + universeOffset.toInt ≤ 32767
  offsets : ∀ offset ∈ program.dmxOffsetsOneBased,
    1 ≤ offset.toInt ∧ entry.address.toInt + offset.toInt - 2 < 512

section

variable {patch : FixturePatch} {universeOffset : Int32}

theorem defined_findBreak {gdtfBreak : Int32} (h : 0 ≤ gdtfBreak.toInt)
    (addresses : List FixturePatchAddress)
    : Defined (findBreak gdtfBreak addresses) (fun _ => True) := by
  induction addresses with
  | nil => exact Defined.pure trivial
  | cons entry addresses ih =>
    have hunit : (1 : Int32).toInt = 1 := rfl
    have := Int32.toInt_lt gdtfBreak
    apply Defined.bind (defined_subChecked (by omega))
    intro mvrBreak _
    split
    next => exact Defined.pure trivial
    next => exact ih

theorem defined_sourcePatch (patch : FixturePatch) {gdtfBreak : Int32} (h : 0 ≤ gdtfBreak.toInt)
    : Defined (sourcePatch patch gdtfBreak) (fun _ => True) := by
  apply Defined.bind (defined_findBreak h patch.addresses)
  intro found _
  split
  next => exact Defined.pure trivial
  next =>
    split
    next => exact Defined.pure trivial
    next => exact Defined.pure trivial

theorem append_ne_empty {s t : String} (h : t ≠ "") : s ++ t ≠ "" := by
  intro happend
  exact h (String.append_eq_empty_iff.mp happend).2

theorem missingBreak_ne (program : ChannelProgram) (mvrBreak : Int32)
    : missingBreak program mvrBreak ≠ "" := by
  unfold missingBreak
  refine append_ne_empty (t := ").") ?_
  decide

theorem defined_programIssue (patch : FixturePatch) (universeOffset : Int32)
    {program : ChannelProgram} (h : program.Legal)
    : Defined (programIssue patch universeOffset program)
        (fun issue => issue = "" → ∃ entry, Resolved patch universeOffset program entry) := by
  have hunit : (1 : Int32).toInt = 1 := rfl
  have hslots : (512 : Int32).toInt = 512 := rfl
  have hbreak := h.dmxBreak
  have := Int32.toInt_lt program.dmxBreak
  obtain ⟨entry, hentry, _⟩ := defined_sourcePatch patch hbreak
  apply Defined.bind ⟨entry, hentry, rfl⟩
  rintro _ rfl
  split
  next =>
    apply Defined.bind (defined_subChecked (by omega))
    intro mvrBreak _
    apply Defined.pure
    intro hissue
    exact absurd hissue (missingBreak_ne program mvrBreak)
  next hpatched =>
    simp only [not_or, Int32.not_lt, Int32.le_iff_toInt_le] at hpatched
    dsimp only
    split
    next =>
      apply Defined.pure
      intro hissue
      exact absurd hissue (by decide)
    next hport =>
      split
      next =>
        apply Defined.pure
        intro hissue
        exact absurd hissue (by decide)
      next hoffsets =>
        apply Defined.pure
        intro _
        refine ⟨entry, hentry, by omega, by omega, ?_⟩
        intro offset hoffset
        simp only [List.any_eq_true, decide_eq_true_eq, not_exists, not_and] at hoffsets
        have hfits := hoffsets offset hoffset
        rw [Int32.lt_iff_toInt_lt] at hfits
        omega

theorem defined_programsIssue (patch : FixturePatch) (universeOffset : Int32)
    {programs : List ChannelProgram} (h : ∀ program ∈ programs, program.Legal)
    : Defined (programsIssue patch universeOffset programs)
        (fun issue => issue = "" →
          ∀ program ∈ programs, ∃ entry, Resolved patch universeOffset program entry) := by
  induction programs with
  | nil => exact Defined.pure (by simp)
  | cons program programs ih =>
    simp only [List.mem_cons, forall_eq_or_imp] at h ⊢
    apply Defined.bind (defined_programIssue patch universeOffset h.1)
    intro issue hissue
    split
    next hbad =>
      apply Defined.pure
      intro hgood
      contradiction
    next hgood =>
      apply Defined.mono (ih h.2)
      intro rest hrest hempty
      exact ⟨hissue (Decidable.not_not.mp hgood), hrest hempty⟩

theorem defined_validateResolvedAddresses (patch : FixturePatch) (universeOffset : Int32)
    {fixture : CompiledGdtfFixtureType} {base : Int32} (hbase : baseUniverse patch = some base)
    (h : fixture.Legal)
    : Defined (validateResolvedAddresses patch fixture universeOffset)
        (fun issue => issue = "" →
          (0 ≤ base.toInt + universeOffset.toInt ∧ base.toInt + universeOffset.toInt ≤ 32767) ∧
          ∀ program ∈ fixture.channelPrograms,
            ∃ entry, Resolved patch universeOffset program entry) := by
  apply Defined.bind ⟨base, hbase, rfl⟩
  rintro _ rfl
  dsimp only
  split
  next =>
    apply Defined.pure
    intro hissue
    exact absurd hissue (by decide)
  next =>
    apply Defined.mono (defined_programsIssue patch universeOffset h)
    intro issue hissue hempty
    exact ⟨by omega, hissue hempty⟩

theorem defined_makeSource {universeId address offset : Int32} {index : Nat}
    (hport : 0 ≤ universeId.toInt ∧ universeId.toInt ≤ 32767)
    (haddress : 1 ≤ address.toInt ∧ address.toInt ≤ 512)
    (hoffset : 1 ≤ offset.toInt ∧ address.toInt + offset.toInt - 2 < 512)
    : Defined (makeSource universeId address (offset, index)) Inside := by
  have htwo : (2 : Int32).toInt = 2 := rfl
  apply Defined.bind (defined_addChecked (by dsimp only; omega))
  intro sum hsum
  dsimp only at hsum
  apply Defined.bind (defined_subChecked (by omega))
  intro slot hslot
  apply Defined.pure
  refine ⟨?_, hport⟩
  dsimp only
  omega

theorem defined_makeSources {program : ChannelProgram} {entry : FixturePatchAddress}
    (h : Resolved patch universeOffset program entry) {base artnetUniverse : Int32}
    (hbase : baseUniverse patch = some base)
    (hartnet : artnetUniverse.toInt = base.toInt + universeOffset.toInt)
    : Defined (makeSources patch artnetUniverse program) (∀ source ∈ ·, Inside source) := by
  have := Int32.le_toInt universeOffset
  have := Int32.toInt_lt universeOffset
  have hport := h.inPort
  apply Defined.bind ⟨entry, h.found, rfl⟩
  rintro _ rfl
  apply Defined.bind ⟨base, hbase, rfl⟩
  rintro _ rfl
  apply Defined.bind (defined_subChecked (by omega))
  intro distance hdistance
  apply Defined.bind (defined_addChecked (by omega))
  intro resolved hresolved
  apply Defined.mapM
  intro ⟨offset, index⟩ hsource
  apply defined_makeSource (by omega) h.address
  apply h.offsets
  apply List.fst_mem_of_mem_zipIdx hsource

end

def Compilation.Inside (x : Compilation) : Prop :=
  ∀ program ∈ x.sourcePrograms, ∀ source ∈ program.sources, Gdtf.Inside source

/-- The invariant of the loop over the patches. -/
structure Compilation.Sound (x : Compilation) : Prop where
  inside : x.Inside
  cached : ∀ entry ∈ x.fixtureTypeCache, entry.2.Usable

/-- The patch, the fixture type and the port address that a fixture is compiled with after its
validation. -/
structure Validated (patch : FixturePatch) (fixture : CompiledGdtfFixtureType)
    (artnetUniverse : Int32) : Prop where
  sources : ∀ program ∈ fixture.channelPrograms,
    Defined (makeSources patch artnetUniverse program) (∀ source ∈ ·, Inside source)

section

variable {semantics : AttributeSemantics} {patch : FixturePatch}
variable {fixture : CompiledGdtfFixtureType} {artnetUniverse : Int32}
variable {x : Compilation} {program : ChannelProgram}

theorem defined_appendSource (h : Validated patch fixture artnetUniverse) (hx : x.Sound)
    (hprogram : program ∈ fixture.channelPrograms) (source : SourceProgram) (keepEmpty : Bool)
    : Defined (appendSource patch artnetUniverse program source keepEmpty x)
        Compilation.Sound := by
  apply Defined.bind (h.sources program hprogram)
  intro sources hsources
  dsimp only
  split
  next => exact Defined.pure ⟨hx.inside, hx.cached⟩
  next =>
    apply Defined.pure
    refine ⟨?_, hx.cached⟩
    intro appended happended
    simp only [List.mem_append, List.mem_singleton] at happended
    cases happended with
    | inl happended => exact hx.inside appended happended
    | inr happended =>
      rw [happended]
      exact hsources

theorem defined_appendProperty (h : Validated patch fixture artnetUniverse) (hx : x.Sound)
    (component : ComponentBinding)
    : Defined (appendProperty semantics patch fixture artnetUniverse x component)
        Compilation.Sound := by
  rw [appendProperty]
  split
  next =>
    dsimp only
    split
    next => exact Defined.pure hx
    next =>
      apply Defined.foldlM hx
      intro x hx program hprogram
      apply defined_appendSource h hx (List.mem_of_mem_filter hprogram)
  next => exact Defined.pure hx

theorem defined_appendColorTarget (h : Validated patch fixture artnetUniverse) (hx : x.Sound)
    (hprogram : program ∈ fixture.channelPrograms)
    : Defined (appendColorTarget semantics patch fixture artnetUniverse x program)
        Compilation.Sound := by
  rw [appendColorTarget]
  split
  next =>
    dsimp only
    split
    next => apply defined_appendSource h hx hprogram
    next => exact Defined.pure hx
  next => exact Defined.pure hx

theorem defined_appendWheelTarget (h : Validated patch fixture artnetUniverse) (hx : x.Sound)
    (hprogram : program ∈ fixture.channelPrograms)
    : Defined (appendWheelTarget semantics patch fixture artnetUniverse x program)
        Compilation.Sound := by
  have hsource (source : SourceProgram) (keepEmpty : Bool) :=
    defined_appendSource h hx hprogram source keepEmpty
  have hkeep : Defined (some x) Compilation.Sound := Defined.pure hx
  simp only [appendWheelTarget]
  split
  next => apply hsource
  next =>
    split
    next => exact hkeep
    next =>
      split
      next =>
        split
        next =>
          split
          next => exact hkeep
          next => apply hsource
        next =>
          split
          next => apply hsource
          next =>
            split
            next => exact hkeep
            next =>
              split
              next => exact hkeep
              next =>
                split
                next => apply hsource
                next => exact hkeep
      next => exact hkeep

theorem defined_appendShutterTarget (h : Validated patch fixture artnetUniverse) (hx : x.Sound)
    (hprogram : program ∈ fixture.channelPrograms)
    : Defined (appendShutterTarget semantics patch fixture artnetUniverse x program)
        Compilation.Sound := by
  rw [appendShutterTarget]
  split
  next => exact Defined.pure hx
  next =>
    split
    next => exact Defined.pure hx
    next =>
      split
      next => exact Defined.pure hx
      next =>
        apply Defined.bind (defined_appendSource h hx hprogram _ _)
        intro x hx
        exact Defined.pure ⟨hx.inside, hx.cached⟩

theorem mem_of_neededMaster {ids : List Int32} {activation : ModeMasterCondition}
    {master : ChannelProgram} (h : neededMaster fixture ids activation = some master)
    : master ∈ fixture.channelPrograms := by
  rw [neededMaster] at h
  split at h
  next => contradiction
  next => exact List.mem_of_find?_eq_some h

theorem defined_appendMastersOnce (h : Validated patch fixture artnetUniverse)
    {y : List Int32 × Compilation} (hy : y.2.Sound) (activations : List ModeMasterCondition)
    : Defined (appendMastersOnce patch fixture artnetUniverse y activations)
        (fun y => y.2.Sound) := by
  apply Defined.foldlM (I := fun (y : List Int32 × Compilation) => y.2.Sound) hy
  intro ⟨ids, x⟩ hx activation _
  dsimp only
  split
  next => exact Defined.pure hx
  next master hmaster =>
    apply Defined.bind (defined_appendSource h hx (mem_of_neededMaster hmaster) _ _)
    intro appended happended
    split
    next => exact Defined.pure happended
    next => exact Defined.pure happended

theorem defined_appendMasters (h : Validated patch fixture artnetUniverse)
    (sourceProgramStart rounds : Nat) {y : List Int32 × Compilation} (hy : y.2.Sound)
    : Defined (appendMasters patch fixture artnetUniverse sourceProgramStart rounds y)
        Compilation.Sound := by
  induction rounds generalizing y with
  | zero => exact Defined.pure hy
  | succ rounds ih =>
    apply Defined.bind (defined_appendMastersOnce h hy _)
    intro next hnext
    split
    next => exact Defined.pure hnext
    next => exact ih hnext

theorem sound_finalizeFixtureActivations (hx : x.Sound) (sourceProgramStart : Nat)
    : (finalizeFixtureActivations sourceProgramStart x).Sound := by
  refine ⟨?_, hx.cached⟩
  intro program hprogram
  simp only [finalizeFixtureActivations, List.mem_append, List.mem_map] at hprogram
  cases hprogram with
  | inl hprogram => exact hx.inside program (List.mem_of_mem_take hprogram)
  | inr hprogram =>
    obtain ⟨parsed, hparsed, rfl⟩ := hprogram
    have hsources : (finalizeActivation (x.sourcePrograms.drop sourceProgramStart) parsed).sources
        = parsed.sources := by
      simp only [finalizeActivation]
      split
      next => rfl
      next => split <;> rfl
    rw [hsources]
    exact hx.inside parsed (List.mem_of_mem_drop hparsed)

theorem defined_compileFixture (h : Validated patch fixture artnetUniverse) (hx : x.Sound)
    (hstart : Defined (startAddress patch) (fun _ => True)) (fixtureId : Int32)
    : Defined (compileFixture semantics patch fixture artnetUniverse fixtureId x)
        Compilation.Sound := by
  apply Defined.bind hstart
  intro start _
  apply Defined.bind (P := Compilation.Sound)
  . apply Defined.foldlM
    . exact ⟨hx.inside, hx.cached⟩
    . intro x hx component _
      apply defined_appendProperty h hx
  . intro x hx
    apply Defined.bind (P := Compilation.Sound)
    . apply Defined.foldlM hx
      intro x hx program hprogram
      apply defined_appendColorTarget h hx hprogram
    . intro x hx
      apply Defined.bind (P := Compilation.Sound)
      . apply Defined.foldlM hx
        intro x hx program hprogram
        apply defined_appendWheelTarget h hx hprogram
      . intro x hx
        apply Defined.bind (P := Compilation.Sound)
        . apply Defined.foldlM hx
          intro x hx program hprogram
          apply defined_appendShutterTarget h hx hprogram
        . intro x hx
          apply Defined.bind (defined_appendMasters h _ _ hx)
          intro x hx
          apply Defined.pure
          apply sound_finalizeFixtureActivations hx

end

theorem sound_foldl_report (diagnostics : List RuntimeDiagnostic)
    (subject : RuntimeDiagnostic → String) {x : Compilation} (hx : x.Sound)
    : (diagnostics.foldl (fun x diagnostic =>
        x.report diagnostic.code diagnostic.severity diagnostic.message (subject diagnostic))
        x).Sound := by
  induction diagnostics generalizing x with
  | nil => exact hx
  | cons diagnostic diagnostics ih =>
    rw [List.foldl_cons]
    exact ih ⟨hx.inside, hx.cached⟩

theorem defined_baseUniverse {patch : FixturePatch} (h : isIncomplete patch = false)
    : Defined (baseUniverse patch) (fun _ => True) := by
  rw [baseUniverse]
  split
  next => exact Defined.pure trivial
  next hpos =>
    cases haddresses : patch.addresses with
    | nil =>
      have hle : patch.mvrUniverse ≤ 0 := Int32.not_lt.mp hpos
      simp [isIncomplete, haddresses, hle] at h
    | cons entry addresses => exact Defined.pure trivial

theorem defined_startAddress {patch : FixturePatch} (h : isIncomplete patch = false)
    : Defined (startAddress patch) (fun _ => True) := by
  rw [startAddress]
  split
  next => exact Defined.pure trivial
  next hpos =>
    cases haddresses : patch.addresses with
    | nil =>
      have hle : patch.mvrAddress ≤ 0 := Int32.not_lt.mp hpos
      simp [isIncomplete, haddresses, hle] at h
    | cons entry addresses => exact Defined.pure trivial

theorem defined_fixtureTypeOf (reader : GdtfReader) (patch : FixturePatch) {x : Compilation}
    (hx : x.Sound)
    : Defined (fixtureTypeOf reader patch x) (fun y => y.1.Usable ∧ y.2.Sound) := by
  rw [fixtureTypeOf]
  split
  next fixture hfixture =>
    exact Defined.pure ⟨hx.cached _ (mem_of_lookup_eq_some hfixture), hx⟩
  next =>
    apply Defined.bind (defined_compileGdtfFixtureType reader patch.gdtfPath patch.dmxMode)
    intro fixture husable
    apply Defined.pure
    refine ⟨husable, hx.inside, ?_⟩
    intro entry hentry
    simp only [List.mem_append, List.mem_singleton] at hentry
    cases hentry with
    | inl hentry => exact hx.cached entry hentry
    | inr hentry =>
      rw [hentry]
      exact husable

theorem defined_compilePatch (reader : GdtfReader) (semantics : AttributeSemantics)
    (universeOffset : Int32) {x : Compilation} (hx : x.Sound) (patch : FixturePatch)
    : Defined (compilePatch reader semantics universeOffset x patch) Compilation.Sound := by
  rw [compilePatch]
  split
  next => exact Defined.pure ⟨hx.inside, hx.cached⟩
  next =>
    split
    next => exact Defined.pure ⟨hx.inside, hx.cached⟩
    next hcomplete =>
      have hcomplete := Bool.not_eq_true _ ▸ hcomplete
      obtain ⟨base, hbase, _⟩ := defined_baseUniverse hcomplete
      apply Defined.bind ⟨base, hbase, rfl⟩
      rintro _ rfl
      apply Defined.bind (defined_fixtureTypeOf reader patch hx)
      intro ⟨fixture, x⟩ ⟨husable, hx⟩
      dsimp only at husable hx ⊢
      split
      next => exact Defined.pure (sound_foldl_report _ _ hx)
      next hsupported =>
        have hlegal := husable (by simpa using hsupported)
        apply Defined.bind (defined_validateResolvedAddresses patch universeOffset hbase hlegal)
        intro issue hissue
        split
        next =>
          have hreported := sound_foldl_report fixture.diagnostics (fun diagnostic =>
            patch.fixtureUuid ++ " mode=" ++ patch.dmxMode ++ " " ++ diagnostic.subject) hx
          exact Defined.pure ⟨hreported.inside, hreported.cached⟩
        next hempty =>
          obtain ⟨hport, hresolved⟩ := hissue (Decidable.not_not.mp hempty)
          apply Defined.bind (defined_narrow (by omega))
          intro artnetUniverse hartnet
          apply defined_compileFixture
          . constructor
            intro program hprogram
            obtain ⟨entry, hentry⟩ := hresolved program hprogram
            apply defined_makeSources hentry hbase hartnet
          . apply sound_foldl_report _ _ hx
          . apply defined_startAddress hcomplete

end Peraviz.Gdtf
