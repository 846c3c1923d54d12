import Mathlib.Algebra.Group.Nat.Defs
import Mathlib.Data.List.Forall2
import Mathlib.Data.List.Perm.Subperm
import Peraviz.Checked.OptionFold
import Peraviz.Gdtf.SceneCompiler

/-!
This module contains the masters of the programs of a fixture: each program that an activation needs
is given a source, the activations of these sources included, and every activation is bound to the
source of its master.
-/

namespace Peraviz.Gdtf

open CheckedInt Peraviz.Runtime

def Links (activation : ModeMasterCondition) : Prop :=
  activation.targetKind ≠ .listed .none ∧ activation.targetKind ≠ .listed .invalid

/-- The masters that activations need, and those that the conditions of masters need. -/
inductive RequiredMaster (fixture : CompiledGdtfFixtureType)
    (activations : List ModeMasterCondition) : ChannelProgram → Prop where
  | direct {activation : ModeMasterCondition} {master : ChannelProgram}
      (hactivation : activation ∈ activations) (hlinks : Links activation)
      (hpositive : 0 < activation.masterProgramId)
      (hmaster : findChannelProgram fixture activation.masterProgramId = some master)
      : RequiredMaster fixture activations master
  | next {program master : ChannelProgram} (hprogram : RequiredMaster fixture activations program)
      (hlinks : Links program.modeMaster) (hpositive : 0 < program.modeMaster.masterProgramId)
      (hmaster : findChannelProgram fixture program.modeMaster.masterProgramId = some master)
      : RequiredMaster fixture activations master

/-- The source of a master has its range, its bytes and its condition. -/
structure IsSourceOf (patch : FixturePatch) (artnetUniverse : Int32) (master : ChannelProgram)
    (source : SourceProgram) : Prop where
  sources : makeSources patch artnetUniverse master = some source.sources
  dmxFrom : source.dmxFrom = master.dmxFrom
  dmxTo : source.dmxTo = master.dmxTo
  physicalFrom : source.physicalFrom = master.physicalFrom
  physicalTo : source.physicalTo = master.physicalTo
  parserProgramId : source.parserProgramId = master.id
  dmxChannelId : source.dmxChannelId = master.dmxChannelId
  activation : source.activation = master.modeMaster

section

variable (patch : FixturePatch) (fixture : CompiledGdtfFixtureType) (artnetUniverse : Int32)

/-- The rounds of a pass. -/
def appendMaster (x : List Int32 × Compilation) (activation : ModeMasterCondition)
    : Option (List Int32 × Compilation) :=
  match neededMaster fixture x.1 activation with
  | none => some (x.1, x.2)
  | some master => do
    let appended ← appendSource patch artnetUniverse master
      (withPhysical master (.listed .unknown)) false x.2
    if appended.sourcePrograms.length = x.2.sourcePrograms.length then
      return (x.1, appended)
    return (x.1 ++ [master.id], appended)

theorem appendMastersOnce_eq (x : List Int32 × Compilation)
    (activations : List ModeMasterCondition)
    : appendMastersOnce patch fixture artnetUniverse x activations
        = activations.foldlM (appendMaster patch fixture artnetUniverse) x := rfl

def HasBytes : Prop :=
  ∀ program ∈ fixture.channelPrograms, program.dmxOffsetsOneBased ≠ []

/-- From `x` to `y` the sources of `masters` are appended, each of them once. -/
structure Appended (x y : List Int32 × Compilation) (masters : List ChannelProgram)
    (sources : List SourceProgram) : Prop where
  ids : y.1 = x.1 ++ masters.map ChannelProgram.id
  sourcePrograms : y.2.sourcePrograms = x.2.sourcePrograms ++ sources
  made : List.Forall₂ (IsSourceOf patch artnetUniverse) masters sources
  distinct : (masters.map ChannelProgram.id).Nodup
  fresh : ∀ master ∈ masters, findChannelProgram fixture master.id = some master ∧ 0 < master.id
    ∧ master.id ∉ x.1
  counted : HasBytes fixture →
    sources.map (fun source => source.programId)
        = (List.range sources.length).map (fun k => x.2.nextProgramId + Int32.ofNat k)
      ∧ y.2.nextProgramId = x.2.nextProgramId + Int32.ofNat sources.length

end

section

variable {patch : FixturePatch} {fixture : CompiledGdtfFixtureType} {artnetUniverse : Int32}
  {x y z : List Int32 × Compilation}

theorem findChannelProgram_eq_some {id : Int32} {program : ChannelProgram}
    (h : findChannelProgram fixture id = some program)
    : program ∈ fixture.channelPrograms ∧ program.id = id := by
  unfold findChannelProgram at h
  have hid := List.find?_some h
  exact ⟨List.mem_of_find?_eq_some h, of_decide_eq_true hid⟩

theorem neededMaster_eq_some {ids : List Int32} {activation : ModeMasterCondition}
    {master : ChannelProgram} (h : neededMaster fixture ids activation = some master)
    : findChannelProgram fixture activation.masterProgramId = some master
        ∧ 0 < activation.masterProgramId ∧ activation.masterProgramId ∉ ids := by
  unfold neededMaster at h
  split at h
  . cases h
  . next hneeded =>
    refine ⟨h, ?_, ?_⟩
    . apply Int32.not_le.mp
      intro hle
      exact hneeded (Or.inr (Or.inr (Or.inl hle)))
    . intro hmem
      exact hneeded (Or.inr (Or.inr (Or.inr hmem)))

theorem neededMaster_append {ids : List Int32} {activation : ModeMasterCondition}
    (h : neededMaster fixture ids activation = none) (more : List Int32)
    : neededMaster fixture (ids ++ more) activation = none := by
  unfold neededMaster at h ⊢
  split at h
  . next hskipped =>
    rw [if_pos]
    rw [List.mem_append]
    tauto
  . split
    . rfl
    . exact h

theorem neededMaster_of_mem {ids : List Int32} {activation : ModeMasterCondition}
    (h : activation.masterProgramId ∈ ids)
    : neededMaster fixture ids activation = none := by
  unfold neededMaster
  rw [if_pos (Or.inr (Or.inr (Or.inr h)))]

namespace Appended

theorem refl (x : List Int32 × Compilation)
    : Appended patch fixture artnetUniverse x x [] [] := by
  refine ⟨(List.append_nil _).symm, (List.append_nil _).symm, List.Forall₂.nil, List.nodup_nil,
    by simp, ?_⟩
  intro _
  exact ⟨rfl, (Int32.add_zero _).symm⟩

theorem trans {masters more : List ChannelProgram} {sources added : List SourceProgram}
    (h : Appended patch fixture artnetUniverse x y masters sources)
    (h' : Appended patch fixture artnetUniverse y z more added)
    : Appended patch fixture artnetUniverse x z (masters ++ more) (sources ++ added) := by
  constructor
  . rw [h'.ids, h.ids, List.map_append, List.append_assoc]
  . rw [h'.sourcePrograms, h.sourcePrograms, List.append_assoc]
  . exact List.rel_append h.made h'.made
  . rw [List.map_append, List.nodup_append]
    refine ⟨h.distinct, h'.distinct, ?_⟩
    intro a ha b hb heq
    obtain ⟨master, hmaster, rfl⟩ := List.mem_map.mp hb
    apply (h'.fresh master hmaster).2.2
    rw [h.ids, ← heq]
    exact List.mem_append_right _ ha
  . intro master hmaster
    cases List.mem_append.mp hmaster with
    | inl hold => exact h.fresh master hold
    | inr hnew =>
      obtain ⟨hmem, hpositive, hnotMem⟩ := h'.fresh master hnew
      refine ⟨hmem, hpositive, ?_⟩
      intro hold
      apply hnotMem
      rw [h.ids]
      exact List.mem_append_left _ hold
  . intro hbytes
    obtain ⟨hids, hnext⟩ := h.counted hbytes
    obtain ⟨hids', hnext'⟩ := h'.counted hbytes
    constructor
    . rw [List.map_append, hids, hids', hnext, List.length_append, List.range_add, List.map_append,
        List.map_map]
      congr 1
      apply List.map_congr_left
      intro k _
      rw [Function.comp_apply, Int32.ofNat_add, Int32.add_assoc]
    . rw [hnext', hnext, List.length_append, Int32.ofNat_add, Int32.add_assoc]

end Appended

theorem makeSources_ne_nil {program : ChannelProgram} {sources : List CompiledDmxByteSource}
    (h : makeSources patch artnetUniverse program = some sources)
    (hbytes : program.dmxOffsetsOneBased ≠ [])
    : sources ≠ [] := by
  unfold makeSources at h
  simp only [Option.bind_eq_bind, Option.bind_eq_some_iff] at h
  obtain ⟨entry, _, base, _, distance, _, resolved, _, h⟩ := h
  cases hoffsets : program.dmxOffsetsOneBased with
  | nil => exact absurd hoffsets hbytes
  | cons offset offsets =>
    rw [hoffsets, List.zipIdx_cons, List.mapM_cons] at h
    obtain ⟨source, _, h⟩ := Option.bind_eq_some_iff.mp h
    obtain ⟨rest, _, h⟩ := Option.bind_eq_some_iff.mp h
    cases h
    simp

/-- The source program that is appended for a program. -/
def boundSource (programId : Int32) (sources : List CompiledDmxByteSource)
    (program : ChannelProgram) (source : SourceProgram) : SourceProgram :=
  { source with
    programId, sources, dmxFrom := program.dmxFrom, dmxTo := program.dmxTo
    parserProgramId := program.id, dmxChannelId := program.dmxChannelId
    activation := program.modeMaster }

theorem appendSource_cases {program : ChannelProgram} {source : SourceProgram} {keepEmpty : Bool}
    {before after : Compilation}
    (h : appendSource patch artnetUniverse program source keepEmpty before = some after)
    : ∃ sources, makeSources patch artnetUniverse program = some sources
        ∧ after.nextProgramId = before.nextProgramId + 1
        ∧ (sources = [] ∧ after.sourcePrograms = before.sourcePrograms
          ∨ after.sourcePrograms = before.sourcePrograms
            ++ [boundSource before.nextProgramId sources program source]) := by
  unfold appendSource at h
  obtain ⟨sources, hsources, h⟩ := Option.bind_eq_some_iff.mp h
  dsimp only at h
  refine ⟨sources, hsources, ?_⟩
  split at h
  . next hempty =>
    cases h
    exact ⟨rfl, Or.inl ⟨hempty.1, rfl⟩⟩
  . cases h
    exact ⟨rfl, Or.inr rfl⟩

-- A round appends the master that it finds missing, or nothing.
theorem appendMaster_appended {activation : ModeMasterCondition}
    (h : appendMaster patch fixture artnetUniverse x activation = some y)
    : ∃ masters sources, Appended patch fixture artnetUniverse x y masters sources
        ∧ (HasBytes fixture → neededMaster fixture y.1 activation = none) := by
  unfold appendMaster at h
  cases hneeded : neededMaster fixture x.1 activation with
  | none =>
    rw [hneeded] at h
    cases h
    exact ⟨[], [], Appended.refl x, fun _ => hneeded⟩
  | some master =>
    obtain ⟨hfind, hpositive, hnotMem⟩ := neededMaster_eq_some hneeded
    obtain ⟨hmem, hid⟩ := findChannelProgram_eq_some hfind
    rw [hneeded] at h
    obtain ⟨appended, happended, h⟩ := Option.bind_eq_some_iff.mp h
    obtain ⟨sources, hsources, hnext, hprograms⟩ := appendSource_cases happended
    cases hprograms with
    | inl hempty =>
      rw [if_pos (by rw [hempty.2])] at h
      cases h
      refine ⟨[], [], ⟨(List.append_nil _).symm, ?_, List.Forall₂.nil, List.nodup_nil, by simp,
        ?_⟩, ?_⟩
      . rw [List.append_nil, hempty.2]
      . intro hbytes
        exact absurd hempty.1 (makeSources_ne_nil hsources (hbytes master hmem))
      . intro hbytes
        exact absurd hempty.1 (makeSources_ne_nil hsources (hbytes master hmem))
    | inr hprograms =>
      rw [if_neg (by rw [hprograms]; simp)] at h
      cases h
      refine ⟨[master], [_], ⟨rfl, hprograms, ?_, List.nodup_singleton _, ?_, ?_⟩, ?_⟩
      . apply List.Forall₂.cons _ List.Forall₂.nil
        exact ⟨hsources, rfl, rfl, rfl, rfl, rfl, rfl, rfl⟩
      . intro other hother
        rw [List.mem_singleton.mp hother, hid]
        exact ⟨hfind, hpositive, hnotMem⟩
      . intro _
        refine ⟨?_, hnext⟩
        change [x.2.nextProgramId] = [x.2.nextProgramId + 0]
        rw [Int32.add_zero]
      . intro _
        apply neededMaster_of_mem
        rw [← hid]
        simp

theorem appendMastersOnce_appended {activations : List ModeMasterCondition}
    (h : appendMastersOnce patch fixture artnetUniverse x activations = some y)
    : ∃ masters sources, Appended patch fixture artnetUniverse x y masters sources
        ∧ (HasBytes fixture → ∀ activation ∈ activations,
          neededMaster fixture y.1 activation = none) := by
  rw [appendMastersOnce_eq] at h
  induction activations generalizing x with
  | nil =>
    cases h
    refine ⟨[], [], Appended.refl _, ?_⟩
    intro _ activation hmem
    cases hmem
  | cons activation activations ih =>
    rw [List.foldlM_cons] at h
    obtain ⟨between, hround, hrest⟩ := Option.bind_eq_some_iff.mp h
    obtain ⟨masters, sources, happended, hhere⟩ := appendMaster_appended hround
    obtain ⟨more, added, happended', hlater⟩ := ih hrest
    refine ⟨_, _, happended.trans happended', ?_⟩
    intro hbytes other hother
    cases List.mem_cons.mp hother with
    | inl heq =>
      rw [heq, happended'.ids]
      apply neededMaster_append (hhere hbytes)
    | inr hmem => exact hlater hbytes other hmem

/-! ### The loop -/

/-- The programs whose ids have no source yet. -/
def missing (fixture : CompiledGdtfFixtureType) (ids : List Int32) : Nat :=
  (fixture.channelPrograms.filter (fun program => program.id ∉ ids)).length

theorem Appended.missing_lt {masters : List ChannelProgram} {sources : List SourceProgram}
    (h : Appended patch fixture artnetUniverse x y masters sources) (hne : masters ≠ [])
    : missing fixture y.1 < missing fixture x.1 := by
  have hfilter : fixture.channelPrograms.filter (fun program => program.id ∉ y.1)
      = (fixture.channelPrograms.filter (fun program => program.id ∉ x.1)).filter
        (fun program => program.id ∉ y.1) := by
    rw [List.filter_filter]
    apply List.filter_congr
    intro program _
    rw [h.ids]
    simp
    tauto
  unfold missing
  rw [hfilter]
  obtain ⟨master, hmaster⟩ := List.exists_mem_of_ne_nil masters hne
  obtain ⟨hmem, _, hnotMem⟩ := h.fresh master hmaster
  apply List.length_filter_lt_length_iff_exists.mpr
  refine ⟨master, ?_, ?_⟩
  . rw [List.mem_filter]
    exact ⟨(findChannelProgram_eq_some hmem).1, by simpa using hnotMem⟩
  . rw [h.ids]
    simp only [decide_eq_true_eq, not_not, List.mem_append, List.mem_map]
    exact Or.inr ⟨master, hmaster, rfl⟩

theorem Appended.length_ids {masters : List ChannelProgram} {sources : List SourceProgram}
    (h : Appended patch fixture artnetUniverse x y masters sources)
    : y.1.length = x.1.length ↔ masters = [] := by
  rw [h.ids, List.length_append, List.length_map, ← List.length_eq_zero_iff]
  omega

variable {start rounds : Nat}

-- More rounds than programs without a source change nothing: the loop ends by itself.
theorem appendMasters_rounds {more : Nat} (h : missing fixture x.1 < rounds)
    (h' : missing fixture x.1 < more)
    : appendMasters patch fixture artnetUniverse start rounds x
        = appendMasters patch fixture artnetUniverse start more x := by
  induction rounds generalizing x more with
  | zero => omega
  | succ rounds ih =>
    cases more with
    | zero => omega
    | succ more =>
      rw [appendMasters, appendMasters]
      cases hpass : appendMastersOnce patch fixture artnetUniverse x
          ((x.2.sourcePrograms.drop start).map (fun program => program.activation)) with
      | none => rfl
      | some next =>
        obtain ⟨masters, sources, happended, _⟩ := appendMastersOnce_appended hpass
        simp only [Option.bind_eq_bind, Option.bind_some]
        split
        . rfl
        . next hgrown =>
          rw [happended.length_ids] at hgrown
          have := happended.missing_lt hgrown
          apply ih
          . omega
          . omega

theorem appendMasters_appended {result : Compilation} (h : missing fixture x.1 < rounds)
    (hresult : appendMasters patch fixture artnetUniverse start rounds x = some result)
    : ∃ ids masters sources,
        Appended patch fixture artnetUniverse x (ids, result) masters sources
          ∧ (HasBytes fixture → ∀ program ∈ result.sourcePrograms.drop start,
            neededMaster fixture ids program.activation = none) := by
  induction rounds generalizing x with
  | zero => omega
  | succ rounds ih =>
    rw [appendMasters] at hresult
    obtain ⟨next, hpass, hresult⟩ := Option.bind_eq_some_iff.mp hresult
    obtain ⟨masters, sources, happended, hclosed⟩ := appendMastersOnce_appended hpass
    split at hresult
    . next hsame =>
      rw [happended.length_ids] at hsame
      cases hresult
      refine ⟨next.1, masters, sources, happended, ?_⟩
      intro hbytes program hprogram
      apply hclosed hbytes
      have hmade := happended.made
      rw [hsame] at hmade
      cases hmade
      rw [happended.sourcePrograms, List.append_nil] at hprogram
      exact List.mem_map_of_mem hprogram
    . next hgrown =>
      rw [happended.length_ids] at hgrown
      have := happended.missing_lt hgrown
      obtain ⟨ids, more, added, happended', hclosed'⟩ := ih (by omega) hresult
      exact ⟨ids, _, _, happended.trans happended', hclosed'⟩

end

/-! ### The closure -/

def compiledParserIds (start : Nat) (x : Compilation) : List Int32 :=
  ((x.sourcePrograms.drop start).map SourceProgram.parserProgramId).filter (fun id => 0 < id)

/-- The sources of a fixture stand behind `start`, each with the condition of its program, and every
program of the fixture has bytes to read. -/
structure Rendering (fixture : CompiledGdtfFixtureType) (start : Nat) (x : Compilation)
    : Prop where
  start_le : start ≤ x.sourcePrograms.length
  bytes : HasBytes fixture
  programs : ∀ source ∈ x.sourcePrograms.drop start, ∃ program,
    findChannelProgram fixture source.parserProgramId = some program
      ∧ source.activation = program.modeMaster

/-- What is appended for the masters of the sources in `x`. -/
structure AppendsMasters (patch : FixturePatch) (artnetUniverse : Int32) (start : Nat)
    (x : Compilation) (sources : List SourceProgram) : Prop where
  made : ∃ masters, List.Forall₂ (IsSourceOf patch artnetUniverse) masters sources
  ids : (sources.map (fun source => source.programId)).Nodup
  parserIds : (sources.map (fun source => source.parserProgramId)).Nodup
  newParserIds : ∀ source ∈ sources, ∀ other ∈ x.sourcePrograms.drop start,
    other.parserProgramId ≠ source.parserProgramId
  newIds : (∀ other ∈ x.sourcePrograms, other.programId < x.nextProgramId) →
    x.nextProgramId.toInt + sources.length ≤ 2147483648 →
      ∀ source ∈ sources, ∀ other ∈ x.sourcePrograms, other.programId ≠ source.programId

/-- From `x` to `y` the masters of a fixture are appended, `z` has its activations bound. -/
structure ActivationsClosed (patch : FixturePatch) (fixture : CompiledGdtfFixtureType)
    (artnetUniverse : Int32) (start : Nat) (x y z : Compilation) : Prop where
  terminates : ∀ rounds, fixture.channelPrograms.length < rounds →
    appendMasters patch fixture artnetUniverse start rounds (compiledParserIds start x, x) = some y
  appended : ∃ sources, y.sourcePrograms = x.sourcePrograms ++ sources
    ∧ AppendsMasters patch artnetUniverse start x sources
  required : ∀ master, RequiredMaster fixture
      ((x.sourcePrograms.drop start).map (fun source => source.activation)) master →
    ∃ source ∈ y.sourcePrograms.drop start, source.parserProgramId = master.id
      ∧ source.activation = master.modeMaster
  bound : ∀ program ∈ z.sourcePrograms.drop start, Links program.activation →
    program.activation.valid = true →
      ∃ source ∈ y.sourcePrograms.drop start,
        program = finalizeActivation (y.sourcePrograms.drop start) source
          ∧ ∃ master ∈ z.sourcePrograms.drop start,
            master.parserProgramId = source.activation.masterProgramId
              ∧ master.programId = program.activation.masterProgramId

section

variable {patch : FixturePatch} {fixture : CompiledGdtfFixtureType} {artnetUniverse : Int32}
  {start : Nat} {x y : Compilation}

theorem missing_lt_rounds (ids : List Int32) {rounds : Nat}
    (h : fixture.channelPrograms.length < rounds)
    : missing fixture ids < rounds := by
  apply Nat.lt_of_le_of_lt _ h
  apply List.length_filter_le

-- distinct ids are at most as many as there are values of their type
theorem length_le_of_nodup {ids : List Int32} (h : ids.Nodup) : ids.length ≤ 2 ^ 32 := by
  have hnodup : (ids.map (fun id => id.toUInt32.toNat)).Nodup := by
    apply List.Nodup.map _ h
    intro a b heq
    have hsame := congrArg UInt32.toInt32 (UInt32.toNat_inj.mp heq)
    simpa using hsame
  have hsubset : ids.map (fun id => id.toUInt32.toNat) ⊆ List.range (2 ^ 32) := by
    intro n hn
    obtain ⟨id, _, rfl⟩ := List.mem_map.mp hn
    exact List.mem_range.mpr id.toUInt32.toNat_lt
  have hle := (List.subperm_of_subset hnodup hsubset).length_le
  rw [List.length_map, List.length_range] at hle
  exact hle

theorem nodup_counted {sources : List SourceProgram} {next : Int32}
    (hids : sources.map (fun source => source.programId)
      = (List.range sources.length).map (fun k => next + Int32.ofNat k))
    (hlength : sources.length ≤ 2 ^ 32)
    : (sources.map (fun source => source.programId)).Nodup := by
  rw [hids]
  apply List.Nodup.map_on _ List.nodup_range
  intro i hi j hj heq
  rw [List.mem_range] at hi hj
  apply ofNat_injOn (by omega) (by omega)
  exact (Int32.add_right_inj next).mp heq

theorem toInt_add_ofNat {next : Int32} {k : Nat} (h : next.toInt + k < 2147483648)
    : (next + Int32.ofNat k).toInt = next.toInt + k := by
  have hlow := Int32.le_toInt next
  have hsize : (Int32.size : Int) = 4294967296 := rfl
  rw [Int32.toInt_add, Int32.toInt_ofNat', Int.add_bmod_bmod, Int.bmod_eq_of_le]
  . omega
  . omega

theorem mem_compiledParserIds {id : Int32}
    : id ∈ compiledParserIds start x
        ↔ 0 < id ∧ ∃ source ∈ x.sourcePrograms.drop start, source.parserProgramId = id := by
  unfold compiledParserIds
  rw [List.mem_filter, List.mem_map, decide_eq_true_eq]
  exact and_comm

section

variable {ids : List Int32} {masters : List ChannelProgram} {sources : List SourceProgram}
  (h : Rendering fixture start x)
  (happended : Appended patch fixture artnetUniverse (compiledParserIds start x, x) (ids, y) masters
    sources)

include h happended

theorem Rendering.drop_eq
    : y.sourcePrograms.drop start = x.sourcePrograms.drop start ++ sources := by
  have hprograms : y.sourcePrograms = x.sourcePrograms ++ sources := happended.sourcePrograms
  rw [hprograms, List.drop_append_of_le_length h.start_le]

omit h in
theorem Appended.parserIds : sources.map (fun source => source.parserProgramId)
    = masters.map ChannelProgram.id := by
  rw [← List.forall₂_eq_eq_eq, List.forall₂_map_left_iff, List.forall₂_map_right_iff]
  apply happended.made.flip.imp
  intro source master hmade
  exact hmade.parserProgramId

-- a parser id is taken exactly when a source of the fixture has it
theorem Rendering.mem_ids {id : Int32} (hpositive : 0 < id)
    : id ∈ ids ↔ ∃ source ∈ y.sourcePrograms.drop start, source.parserProgramId = id := by
  have hids : ids = compiledParserIds start x ++ masters.map ChannelProgram.id := happended.ids
  rw [hids, List.mem_append, mem_compiledParserIds, h.drop_eq happended, ← happended.parserIds,
    List.mem_map]
  constructor
  . intro hmem
    cases hmem with
    | inl hold =>
      obtain ⟨_, source, hsource, heq⟩ := hold
      exact ⟨source, List.mem_append_left _ hsource, heq⟩
    | inr hnew =>
      obtain ⟨source, hsource, heq⟩ := hnew
      exact ⟨source, List.mem_append_right _ hsource, heq⟩
  . intro hmem
    obtain ⟨source, hsource, heq⟩ := hmem
    cases List.mem_append.mp hsource with
    | inl hold => exact Or.inl ⟨hpositive, source, hold, heq⟩
    | inr hnew => exact Or.inr ⟨source, hnew, heq⟩

theorem Rendering.programs_appended
    : ∀ source ∈ y.sourcePrograms.drop start, ∃ program,
        findChannelProgram fixture source.parserProgramId = some program
          ∧ source.activation = program.modeMaster := by
  intro source hsource
  rw [h.drop_eq happended] at hsource
  cases List.mem_append.mp hsource with
  | inl hold => exact h.programs source hold
  | inr hnew =>
    obtain ⟨i, hi⟩ := List.mem_iff_getElem?.mp hnew
    have hlt := (List.getElem?_eq_some_iff.mp hi).1
    have hmade := (List.forall₂_iff_get.mp happended.made).2 i (by
      rw [happended.made.length_eq]
      exact hlt) hlt
    rw [← (List.getElem?_eq_some_iff.mp hi).2]
    refine ⟨_, ?_, hmade.activation⟩
    have hparser : sources[i].parserProgramId = _ := hmade.parserProgramId
    rw [hparser]
    exact (happended.fresh _ (List.get_mem ..)).1

theorem Rendering.present_of_links
    (hclosed : ∀ source ∈ y.sourcePrograms.drop start,
      neededMaster fixture ids source.activation = none)
    {activation : ModeMasterCondition} {master : ChannelProgram}
    (hactivation : ∃ source ∈ y.sourcePrograms.drop start, source.activation = activation)
    (hlinks : Links activation) (hpositive : 0 < activation.masterProgramId)
    (hmaster : findChannelProgram fixture activation.masterProgramId = some master)
    : ∃ source ∈ y.sourcePrograms.drop start, source.parserProgramId = master.id
        ∧ source.activation = master.modeMaster := by
  obtain ⟨source, hsource, rfl⟩ := hactivation
  have hid := (findChannelProgram_eq_some hmaster).2
  have hmem : source.activation.masterProgramId ∈ ids := by
    have hnone := hclosed source hsource
    unfold neededMaster at hnone
    split at hnone
    . next hskipped =>
      obtain hkind | hkind | hid | hmem := hskipped
      . exact absurd hkind hlinks.1
      . exact absurd hkind hlinks.2
      . exact absurd hpositive (Int32.not_lt.mpr hid)
      . exact hmem
    . rw [hmaster] at hnone
      cases hnone
  obtain ⟨found, hfound, hparser⟩ := (h.mem_ids happended hpositive).mp hmem
  obtain ⟨program, hprogram, hcondition⟩ := h.programs_appended happended found hfound
  rw [hparser, hmaster] at hprogram
  cases hprogram
  exact ⟨found, hfound, hparser.trans hid.symm, hcondition⟩

theorem Rendering.required
    (hclosed : ∀ source ∈ y.sourcePrograms.drop start,
      neededMaster fixture ids source.activation = none)
    {master : ChannelProgram} (hrequired : RequiredMaster fixture
      ((x.sourcePrograms.drop start).map (fun source => source.activation)) master)
    : ∃ source ∈ y.sourcePrograms.drop start, source.parserProgramId = master.id
        ∧ source.activation = master.modeMaster := by
  induction hrequired with
  | direct hactivation hlinks hpositive hmaster =>
    apply h.present_of_links happended hclosed _ hlinks hpositive hmaster
    obtain ⟨source, hsource, heq⟩ := List.mem_map.mp hactivation
    refine ⟨source, ?_, heq⟩
    rw [h.drop_eq happended]
    exact List.mem_append_left _ hsource
  | next hprogram hlinks hpositive hmaster ih =>
    obtain ⟨source, hsource, _, hcondition⟩ := ih
    exact h.present_of_links happended hclosed ⟨source, hsource, hcondition⟩ hlinks hpositive hmaster

theorem Rendering.appendsMasters : AppendsMasters patch artnetUniverse start x sources := by
  have hparserIds := happended.parserIds
  obtain ⟨hids, _⟩ := happended.counted h.bytes
  have hlength : sources.length ≤ 2 ^ 32 := by
    rw [← happended.made.length_eq, ← @List.length_map _ _ masters ChannelProgram.id]
    exact length_le_of_nodup happended.distinct
  refine ⟨⟨masters, happended.made⟩, nodup_counted hids hlength, ?_, ?_, ?_⟩
  . rw [hparserIds]
    exact happended.distinct
  . intro source hsource other hother heq
    have hmem : source.parserProgramId ∈ masters.map ChannelProgram.id := by
      rw [← hparserIds]
      exact List.mem_map_of_mem hsource
    obtain ⟨master, hmaster, hid⟩ := List.mem_map.mp hmem
    obtain ⟨_, hpositive, hnotMem⟩ := happended.fresh master hmaster
    apply hnotMem
    rw [mem_compiledParserIds]
    exact ⟨hpositive, other, hother, heq.trans hid.symm⟩
  . intro hbefore hfits source hsource other hother heq
    have hmem : source.programId ∈ sources.map (fun source => source.programId) :=
      List.mem_map_of_mem hsource
    rw [hids] at hmem
    obtain ⟨k, hk, hid⟩ := List.mem_map.mp hmem
    rw [List.mem_range] at hk
    have hnext := @toInt_add_ofNat x.nextProgramId k (by omega)
    have hlt := Int32.lt_iff_toInt_lt.mp (hbefore other hother)
    have hid : x.nextProgramId + Int32.ofNat k = source.programId := hid
    rw [heq, ← hid, hnext] at hlt
    omega

end

theorem finalizeActivation_ids (programs : List SourceProgram) (program : SourceProgram)
    : (finalizeActivation programs program).parserProgramId = program.parserProgramId
        ∧ (finalizeActivation programs program).programId = program.programId := by
  unfold finalizeActivation
  dsimp only
  split
  . exact ⟨rfl, rfl⟩
  . split
    . exact ⟨rfl, rfl⟩
    . exact ⟨rfl, rfl⟩

-- an activation that stays valid has found its master among the programs
theorem finalizeActivation_bound {programs : List SourceProgram} {program : SourceProgram}
    (hlinks : Links (finalizeActivation programs program).activation)
    (hvalid : (finalizeActivation programs program).activation.valid = true)
    : ∃ master ∈ programs, master.parserProgramId = program.activation.masterProgramId
        ∧ master.programId = (finalizeActivation programs program).activation.masterProgramId := by
  unfold finalizeActivation at hlinks hvalid ⊢
  dsimp only at hlinks hvalid ⊢
  split at hlinks
  . next hkind =>
    cases hkind with
    | inl hnone => exact absurd hnone hlinks.1
    | inr hinvalid => exact absurd hinvalid hlinks.2
  . next hkind =>
    rw [if_neg hkind] at hvalid ⊢
    split at hvalid
    . cases hvalid
    . next master hmaster =>
      have hfound := List.find?_some hmaster
      exact ⟨master, List.mem_of_find?_eq_some hmaster, (of_decide_eq_true hfound).2, rfl⟩

theorem drop_finalizeFixtureActivations (hstart : start ≤ y.sourcePrograms.length)
    : (finalizeFixtureActivations start y).sourcePrograms.drop start
        = (y.sourcePrograms.drop start).map
          (finalizeActivation (y.sourcePrograms.drop start)) := by
  unfold finalizeFixtureActivations
  dsimp only
  rw [List.drop_append_of_le_length, List.drop_take, Nat.sub_self, List.take_zero, List.nil_append]
  rw [List.length_take]
  omega

/-- The masters of a fixture are closed and bound, whatever its conditions link. -/
theorem activations_closed (h : Rendering fixture start x)
    (hy : appendActivationMasterSources patch fixture artnetUniverse start x = some y)
    : ActivationsClosed patch fixture artnetUniverse start x y
        (finalizeFixtureActivations start y) := by
  have hrounds := missing_lt_rounds (compiledParserIds start x)
    (Nat.lt_succ_self fixture.channelPrograms.length)
  obtain ⟨ids, masters, sources, happended, hclosed⟩ := appendMasters_appended hrounds hy
  have hclosed := hclosed h.bytes
  constructor
  . intro rounds hmore
    rw [← hy]
    apply appendMasters_rounds (missing_lt_rounds _ hmore) hrounds
  . exact ⟨sources, happended.sourcePrograms, h.appendsMasters happended⟩
  . intro master hrequired
    exact h.required happended hclosed hrequired
  . have hstart : start ≤ y.sourcePrograms.length := by
      have hprograms : y.sourcePrograms = x.sourcePrograms ++ sources := happended.sourcePrograms
      have := h.start_le
      rw [hprograms, List.length_append]
      omega
    rw [drop_finalizeFixtureActivations hstart]
    intro program hprogram hlinks hvalid
    obtain ⟨source, hsource, rfl⟩ := List.mem_map.mp hprogram
    refine ⟨source, hsource, rfl, ?_⟩
    obtain ⟨master, hmaster, hparser, hid⟩ := finalizeActivation_bound hlinks hvalid
    obtain ⟨hsameParser, hsameId⟩ := finalizeActivation_ids (y.sourcePrograms.drop start) master
    refine ⟨_, List.mem_map_of_mem hmaster, ?_, ?_⟩
    . rw [hsameParser, hparser]
    . rw [hsameId, hid]

end

/-! ### What the compiler has made before -/

/-- The sources behind `start` are made of programs of the fixture. -/
structure Renders (fixture : CompiledGdtfFixtureType) (start : Nat) (x : Compilation) : Prop where
  start_le : start ≤ x.sourcePrograms.length
  programs : ∀ source ∈ x.sourcePrograms.drop start, ∃ program ∈ fixture.channelPrograms,
    source.parserProgramId = program.id ∧ source.activation = program.modeMaster

section

variable {semantics : AttributeSemantics} {patch : FixturePatch}
  {fixture : CompiledGdtfFixtureType} {artnetUniverse : Int32} {start : Nat} {x y : Compilation}

theorem renders_appendSource {program : ChannelProgram} {source : SourceProgram}
    {keepEmpty : Bool} (h : Renders fixture start x) (hprogram : program ∈ fixture.channelPrograms)
    (hy : appendSource patch artnetUniverse program source keepEmpty x = some y)
    : Renders fixture start y := by
  obtain ⟨sources, _, _, hcases⟩ := appendSource_cases hy
  cases hcases with
  | inl hempty => exact ⟨by rw [hempty.2]; exact h.start_le, by rw [hempty.2]; exact h.programs⟩
  | inr happended =>
    have hstart := h.start_le
    constructor
    . rw [happended, List.length_append]
      omega
    . rw [happended, List.drop_append_of_le_length hstart]
      intro made hmade
      cases List.mem_append.mp hmade with
      | inl hold => exact h.programs made hold
      | inr hnew =>
        rw [List.mem_singleton.mp hnew]
        exact ⟨program, hprogram, rfl, rfl⟩

theorem renders_appendProperty {component : ComponentBinding} (h : Renders fixture start x)
    (hy : appendProperty semantics patch fixture artnetUniverse x component = some y)
    : Renders fixture start y := by
  unfold appendProperty at hy
  dsimp only at hy
  split at hy
  . split at hy
    . cases hy
      exact h
    . apply OptionFold.invariant h _ hy
      intro b c hb program hprogram hc
      exact renders_appendSource hb (List.mem_of_mem_filter hprogram) hc
  . cases hy
    exact h

theorem renders_appendColorTarget {program : ChannelProgram} (h : Renders fixture start x)
    (hprogram : program ∈ fixture.channelPrograms)
    (hy : appendColorTarget semantics patch fixture artnetUniverse x program = some y)
    : Renders fixture start y := by
  unfold appendColorTarget at hy
  split at hy
  . dsimp only at hy
    split at hy
    . exact renders_appendSource h hprogram hy
    . cases hy
      exact h
  . cases hy
    exact h

theorem renders_appendWheelTarget {program : ChannelProgram} (h : Renders fixture start x)
    (hprogram : program ∈ fixture.channelPrograms)
    (hy : appendWheelTarget semantics patch fixture artnetUniverse x program = some y)
    : Renders fixture start y := by
  have hsame (hy : some x = some y) : Renders fixture start y := by
    cases hy
    exact h
  have hsource {source : SourceProgram} {keepEmpty : Bool}
      (hy : appendSource patch artnetUniverse program source keepEmpty x = some y)
      : Renders fixture start y :=
    renders_appendSource h hprogram hy
  unfold appendWheelTarget retainUnsupportedColorSource at hy
  dsimp only at hy
  split at hy
  . exact hsource hy
  . split at hy
    . exact hsame hy
    . split at hy
      . split at hy
        . split at hy
          . exact hsame hy
          . exact hsource hy
        . split at hy
          . exact hsource hy
          . split at hy
            . exact hsame hy
            . split at hy
              . exact hsame hy
              . split at hy
                . exact hsource hy
                . exact hsame hy
      . exact hsame hy

theorem renders_appendShutterTarget {program : ChannelProgram} (h : Renders fixture start x)
    (hprogram : program ∈ fixture.channelPrograms)
    (hy : appendShutterTarget semantics patch fixture artnetUniverse x program = some y)
    : Renders fixture start y := by
  have hsame (hy : some x = some y) : Renders fixture start y := by
    cases hy
    exact h
  unfold appendShutterTarget at hy
  dsimp only at hy
  split at hy
  . exact hsame hy
  . split at hy
    . exact hsame hy
    . split at hy
      . exact hsame hy
      . obtain ⟨made, hmade, hy⟩ := Option.bind_eq_some_iff.mp hy
        cases hy
        have hrenders := renders_appendSource h hprogram hmade
        exact ⟨hrenders.start_le, hrenders.programs⟩

theorem findChannelProgram_of_mem (hids : (fixture.channelPrograms.map ChannelProgram.id).Nodup)
    {program : ChannelProgram} (hprogram : program ∈ fixture.channelPrograms)
    : findChannelProgram fixture program.id = some program := by
  unfold findChannelProgram
  cases hfind : fixture.channelPrograms.find? (fun other => other.id = program.id) with
  | none =>
    have := List.find?_eq_none.mp hfind program hprogram
    simp at this
  | some found =>
    obtain ⟨hmem, hid⟩ := findChannelProgram_eq_some hfind
    rw [List.inj_on_of_nodup_map hids hmem hprogram hid]

/-- The compiler binds the activations of a fixture in a state that `activations_closed` is
about, where the ids of the fixture are distinct and its channels have bytes. -/
theorem compileFixture_rendering {fixtureId : Int32} {z : Compilation}
    (hids : (fixture.channelPrograms.map ChannelProgram.id).Nodup) (hbytes : HasBytes fixture)
    (h : compileFixture semantics patch fixture artnetUniverse fixtureId x = some z)
    : ∃ w y, Rendering fixture x.sourcePrograms.length w
        ∧ appendActivationMasterSources patch fixture artnetUniverse x.sourcePrograms.length w
          = some y
        ∧ z = finalizeFixtureActivations x.sourcePrograms.length y := by
  unfold compileFixture at h
  obtain ⟨startAddress, _, h⟩ := Option.bind_eq_some_iff.mp h
  obtain ⟨x₁, h₁, h⟩ := Option.bind_eq_some_iff.mp h
  obtain ⟨x₂, h₂, h⟩ := Option.bind_eq_some_iff.mp h
  obtain ⟨x₃, h₃, h⟩ := Option.bind_eq_some_iff.mp h
  obtain ⟨x₄, h₄, h⟩ := Option.bind_eq_some_iff.mp h
  obtain ⟨y, hy, h⟩ := Option.bind_eq_some_iff.mp h
  cases h
  have hstart : Renders fixture x.sourcePrograms.length x₁ := by
    refine OptionFold.invariant (I := Renders fixture x.sourcePrograms.length) ?_ ?_ h₁
    . refine ⟨Nat.le_refl _, ?_⟩
      intro source hsource
      rw [List.drop_length] at hsource
      cases hsource
    . intro b c hb component _ hc
      exact renders_appendProperty hb hc
  have hcolors : Renders fixture x.sourcePrograms.length x₂ := by
    apply OptionFold.invariant hstart _ h₂
    intro b c hb program hprogram hc
    exact renders_appendColorTarget hb hprogram hc
  have hwheels : Renders fixture x.sourcePrograms.length x₃ := by
    apply OptionFold.invariant hcolors _ h₃
    intro b c hb program hprogram hc
    exact renders_appendWheelTarget hb hprogram hc
  have hshutters : Renders fixture x.sourcePrograms.length x₄ := by
    apply OptionFold.invariant hwheels _ h₄
    intro b c hb program hprogram hc
    exact renders_appendShutterTarget hb hprogram hc
  refine ⟨x₄, y, ⟨hshutters.start_le, hbytes, ?_⟩, hy, rfl⟩
  intro source hsource
  obtain ⟨program, hprogram, hparser, hcondition⟩ := hshutters.programs source hsource
  refine ⟨program, ?_, hcondition⟩
  rw [hparser]
  exact findChannelProgram_of_mem hids hprogram

end

/-! ### Two functions that are the masters of each other -/

def cyclicFixture : CompiledGdtfFixtureType where
  channelPrograms := [
    { id := 1, dmxOffsetsOneBased := [1], attributeName := "Dimmer"
      modeMaster := { targetKind := .listed .channelFunction, masterProgramId := 2 } },
    { id := 2, dmxOffsetsOneBased := [2], attributeName := "Control1"
      modeMaster := { targetKind := .listed .channelFunction, masterProgramId := 3 } },
    { id := 3, dmxOffsetsOneBased := [3], attributeName := "Control2"
      modeMaster := { targetKind := .listed .channelFunction, masterProgramId := 2 } }]

def cyclicPatch : FixturePatch where
  fixtureUuid := "lamp"
  mvrUniverse := 1
  mvrAddress := 1

def dimmerSource : Compilation where
  sourcePrograms := [{
    programId := 1, parserProgramId := 1
    activation := { targetKind := .listed .channelFunction, masterProgramId := 2 } }]
  nextProgramId := 2

theorem activations_closed_cyclic
    : ∃ y, appendActivationMasterSources cyclicPatch cyclicFixture 1 0 dimmerSource = some y
        ∧ ActivationsClosed cyclicPatch cyclicFixture 1 0 dimmerSource y
          (finalizeFixtureActivations 0 y) := by
  have hsome : (appendActivationMasterSources cyclicPatch cyclicFixture 1 0 dimmerSource).isSome
      = true := by
    decide +kernel
  obtain ⟨y, hy⟩ := Option.isSome_iff_exists.mp hsome
  refine ⟨y, hy, activations_closed ⟨Nat.zero_le _, ?_, ?_⟩ hy⟩
  . intro program hprogram
    simp only [cyclicFixture, List.mem_cons, List.not_mem_nil, or_false] at hprogram
    rcases hprogram with rfl | rfl | rfl
    . simp
    . simp
    . simp
  . intro source hsource
    rw [List.drop_zero] at hsource
    rw [List.mem_singleton.mp hsource]
    exact ⟨_, rfl, rfl⟩

end Peraviz.Gdtf
