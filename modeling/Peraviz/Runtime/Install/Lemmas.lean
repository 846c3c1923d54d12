import Peraviz.Runtime.Install.Impl

/-!
This module contains what an installation guarantees of the tables that it leaves: every program
that a consumer reads is installed, and is found again under its source in the plan.
-/

namespace Peraviz.Runtime

theorem program?_eq_some {programs : List CompiledDmxSourceProgram} {id : Int32}
    {program : CompiledDmxSourceProgram} (h : program? programs id = some program)
    : program ∈ programs ∧ program.programId = id :=
  ⟨List.mem_of_find?_eq_some h, by simpa using List.find?_some h⟩

theorem mem_ofUniverse {α : Type} {installed : List (Installed α)} {u : Int32} {x : α}
    : x ∈ ofUniverse installed u ↔ ∃ i ∈ installed, i.universeId = u ∧ i.entry = x := by
  simp [ofUniverse, and_assoc]

theorem mem_indicesOf {α : Type} {l : List α} {p : α → Bool} {index : Nat}
    : index ∈ indicesOf l p ↔ ∃ a, l[index]? = some a ∧ p a = true := by
  unfold indicesOf
  rw [List.mem_map]
  constructor
  . intro ⟨⟨a, i⟩, hmem, heq⟩
    obtain ⟨hentry, hp⟩ := List.mem_filter.mp hmem
    rw [← heq]
    exact ⟨a, List.mem_zipIdx_iff_getElem?.mp hentry, hp⟩
  . intro ⟨a, hget, hp⟩
    exact ⟨(a, index), List.mem_filter.mpr ⟨List.mem_zipIdx_iff_getElem?.mpr hget, hp⟩, rfl⟩

/-! ### Programs -/

theorem mem_foldl_installProgram {programs : List CompiledDmxSourceProgram}
    {acc : List CompiledDmxSourceProgram × List CompiledRuntimeDiagnostic}
    {program : CompiledDmxSourceProgram} (h : program ∈ (programs.foldl installProgram acc).1)
    : program ∈ acc.1
      ∨ 0 < program.programId ∧ ∃ original ∈ programs, program = sortSources original := by
  induction programs generalizing acc with
  | nil => exact Or.inl h
  | cons first programs ih =>
    rw [List.foldl_cons] at h
    rcases ih h with hacc | ⟨hpos, original, horiginal, heq⟩
    . unfold installProgram at hacc
      split at hacc
      . exact Or.inl hacc
      . next hnew =>
        rcases List.mem_append.mp hacc with hacc | hfirst
        . exact Or.inl hacc
        . have heq := List.mem_singleton.mp hfirst
          right
          refine ⟨?_, first, List.mem_cons_self, heq⟩
          rw [not_or] at hnew
          rw [heq]
          exact Int32.not_le.mp hnew.1
    . exact Or.inr ⟨hpos, original, List.mem_cons_of_mem _ horiginal, heq⟩

theorem mem_installPrograms {programs : List CompiledDmxSourceProgram}
    {program : CompiledDmxSourceProgram} (h : program ∈ (installPrograms programs).1)
    : 0 < program.programId ∧ ∃ original ∈ programs, program = sortSources original := by
  rcases mem_foldl_installProgram h with hacc | h
  . cases hacc
  . exact h

theorem mem_sources_sortSources {program : CompiledDmxSourceProgram} {byte : CompiledDmxByteSource}
    : byte ∈ (sortSources program).sources ↔ byte ∈ program.sources :=
  (List.perm_insertionSort _ _).mem_iff

/-! ### The walk along the masters -/

theorem dependencyWalk_resolve {programs : List CompiledDmxSourceProgram}
    {next : CompiledDmxSourceProgram → Int32} {visited : List Int32} {programId : Int32}
    : (∀ id ∈ visited, id ∈ (dependencyWalk programs next visited programId).1)
      ∧ ∀ id ∈ (dependencyWalk programs next visited programId).1,
        id ∈ visited ∨ 0 < id ∧ (program? programs id).isSome := by
  fun_induction dependencyWalk programs next visited programId with
  | case1 => exact ⟨fun _ h => h, fun _ h => Or.inl h⟩
  | case2 => exact ⟨fun _ h => h, fun _ h => Or.inl h⟩
  | case3 visited programId hnew program hfind ih =>
    constructor
    . intro id hid
      apply ih.1
      exact List.mem_append_left _ hid
    . intro id hid
      rcases ih.2 id hid with hmem | h
      . rcases List.mem_append.mp hmem with hmem | hmem
        . exact Or.inl hmem
        . rw [not_or] at hnew
          rw [List.mem_singleton.mp hmem]
          exact Or.inr ⟨Int32.not_le.mp hnew.1, by simp [hfind]⟩
      . exact Or.inr h

theorem dependencyWalk_self {programs : List CompiledDmxSourceProgram}
    {next : CompiledDmxSourceProgram → Int32} {programId : Int32} (hpos : 0 < programId)
    (hfound : (program? programs programId).isSome)
    : programId ∈ (dependencyWalk programs next [] programId).1 := by
  obtain ⟨program, hprogram⟩ := Option.isSome_iff_exists.mp hfound
  rw [dependencyWalk, if_neg (by simp [Int32.not_le.mpr hpos])]
  split
  . next hnone =>
    rw [hprogram] at hnone
    cases hnone
  . apply dependencyWalk_resolve.1
    simp

/-! ### What the tables refer to -/

-- A check that has failed stays failed, so one that holds at the end has held at every element.
theorem foldl_valid {σ α : Type} (valid : σ → Bool) (good : α → Prop) {step : σ → α → σ}
    (hstep : ∀ s a, valid (step s a) = true → valid s = true ∧ good a) {l : List α} {s : σ}
    (h : valid (l.foldl step s) = true) : valid s = true ∧ ∀ a ∈ l, good a := by
  induction l generalizing s with
  | nil => exact ⟨h, by simp⟩
  | cons a l ih =>
    obtain ⟨hs, hl⟩ := ih h
    obtain ⟨hs', ha⟩ := hstep s a hs
    refine ⟨hs', ?_⟩
    intro b hb
    cases List.mem_cons.mp hb with
    | inl heq =>
      rw [heq]
      exact ha
    | inr hb => exact hl b hb

def IsSlot (offset : Int32) : Prop := 0 ≤ offset ∧ offset < 512

instance (offset : Int32) : Decidable (IsSlot offset) :=
  inferInstanceAs (Decidable (0 ≤ offset ∧ offset < 512))

def Resolves (programs : List CompiledDmxSourceProgram) (ids : List Int32) : Prop :=
  ids ≠ [] ∧ ∀ id ∈ ids, (program? programs id).isSome

theorem UniverseCheck.valid_of_add {check : UniverseCheck} {source : CompiledDmxByteSource}
    (h : (check.add source).valid = true) : check.valid = true := by
  simp only [UniverseCheck.add, Bool.and_eq_true] at h
  exact h.1

theorem UniverseCheck.valid_of_addAll {check : UniverseCheck}
    {sources : List CompiledDmxByteSource} (h : (check.addAll sources).valid = true)
    : check.valid = true :=
  (foldl_valid UniverseCheck.valid (fun _ => True) (fun _ _ hs => ⟨valid_of_add hs, trivial⟩) h).1

theorem UniverseCheck.valid_of_universe? {check : UniverseCheck} {u : Int32}
    (h : check.universe? = some u) : check.valid = true := by
  unfold UniverseCheck.universe? at h
  split at h
  . next hvalid =>
    rw [Bool.and_eq_true] at hvalid
    exact hvalid.1
  . cases h

theorem PropertyCheck.valid_of_addSource {programId : Int32} {check : PropertyCheck}
    {source : CompiledDmxByteSource}
    (h : (PropertyCheck.addSource programId check source).location.valid = true)
    : check.location.valid = true ∧ IsSlot source.address := by
  unfold PropertyCheck.addSource at h
  generalize hranged : (if source.address < 0 ∨ 512 ≤ source.address then
    check.warn "PVZ-RUNTIME-SOURCE-OUT-OF-RANGE"
      "Compiled DMX byte source is outside the 512-slot universe." programId else check) = ranged
    at h
  dsimp only at h
  have hvalid : ranged.location.valid = true := by
    split at h
    . cases h
    . exact UniverseCheck.valid_of_add h
  rw [← hranged] at hvalid
  split at hvalid
  . cases hvalid
  . next hrange =>
    rw [not_or] at hrange
    exact ⟨hvalid, Int32.not_lt.mp hrange.1, Int32.not_le.mp hrange.2⟩

theorem PropertyCheck.valid_of_addContributor {programs : List CompiledDmxSourceProgram}
    {check : PropertyCheck} {contributor : CompiledPropertyContributor}
    (h : (PropertyCheck.addContributor programs check contributor).location.valid = true)
    : check.location.valid = true
        ∧ ∃ program, program? programs contributor.sourceProgramId = some program
          ∧ ∀ source ∈ program.sources, IsSlot source.address := by
  unfold PropertyCheck.addContributor at h
  split at h
  . cases h
  . next program hprogram =>
    split at h
    . cases h
    . obtain ⟨hvalid, hslots⟩ := foldl_valid (fun check : PropertyCheck => check.location.valid) _
        (fun _ _ hs => PropertyCheck.valid_of_addSource hs) h
      exact ⟨hvalid, program, hprogram, hslots⟩

theorem resolves_property {programs : List CompiledDmxSourceProgram}
    {property : CompiledComponentProperty} {installed : Installed CompiledComponentProperty}
    (h : installProperty? programs property = some installed)
    : installed.entry = property ∧ property.contributors ≠ []
        ∧ ∀ contributor ∈ property.contributors,
          ∃ program, program? programs contributor.sourceProgramId = some program
            ∧ ∀ source ∈ program.sources, IsSlot source.address := by
  obtain ⟨u, hu, heq⟩ := Option.map_eq_some_iff.mp h
  refine ⟨by rw [← heq], ?_⟩
  have hvalid := UniverseCheck.valid_of_universe? hu
  unfold checkProperty at hvalid
  split at hvalid
  . cases hvalid
  . next hcomplete =>
    constructor
    . rintro hnil
      simp [incompleteProperty, hnil] at hcomplete
    . exact (foldl_valid (fun check : PropertyCheck => check.location.valid) _
        (fun _ _ hs => PropertyCheck.valid_of_addContributor hs) hvalid).2

theorem valid_of_addColorInput {programs : List CompiledDmxSourceProgram} {check : UniverseCheck}
    {input : CompiledColorInputBinding} (h : (addColorInput programs check input).valid = true)
    : check.valid = true ∧ (program? programs input.sourceProgramId).isSome := by
  unfold addColorInput at h
  split at h
  . cases h
  . next program hprogram =>
    refine ⟨?_, by simp [hprogram]⟩
    split at h
    . cases h
    . exact UniverseCheck.valid_of_addAll h

theorem resolves_colorTarget {programs : List CompiledDmxSourceProgram}
    {target : CompiledColorTargetProgram} {installed : Installed CompiledColorTargetProgram}
    (h : installColorTarget? programs target = some installed)
    : installed.entry = target ∧ ∀ input ∈ target.inputs,
      (program? programs input.sourceProgramId).isSome := by
  unfold installColorTarget? at h
  split at h
  . cases h
  . obtain ⟨u, hu, heq⟩ := Option.map_eq_some_iff.mp h
    refine ⟨by rw [← heq], ?_⟩
    exact (foldl_valid UniverseCheck.valid _ (fun _ _ hs => valid_of_addColorInput hs)
      (UniverseCheck.valid_of_universe? hu)).2

theorem resolves_wheel {programs : List CompiledDmxSourceProgram}
    {palettes : List CompiledWheelPalette} {bindings : List CompiledWheelTargetBinding}
    {installed : Installed CompiledWheelTargetBinding}
    (h : installed ∈ installedWheels programs palettes bindings)
    : (program? programs installed.entry.sourceProgramId).isSome := by
  obtain ⟨binding, _, hinstalled⟩ := List.mem_filterMap.mp h
  obtain ⟨program, hprogram, hsource⟩ := Option.bind_eq_some_iff.mp hinstalled
  obtain ⟨source, _, heq⟩ := Option.map_eq_some_iff.mp hsource
  unfold wheelProgram? at hprogram
  split at hprogram
  . cases hprogram
  . simp [← heq, hprogram]

theorem resolves_dependencyWalk {programs : List CompiledDmxSourceProgram}
    {next : CompiledDmxSourceProgram → Int32} {programId : Int32} (hpos : 0 < programId)
    (hfound : (program? programs programId).isSome)
    : Resolves programs (dependencyWalk programs next [] programId).1 := by
  constructor
  . apply List.ne_nil_of_mem
    exact dependencyWalk_self hpos hfound
  . intro id hid
    rcases dependencyWalk_resolve.2 id hid with hmem | h
    . cases hmem
    . exact h.2

theorem resolves_installDependent {β : Type} {programs : List CompiledDmxSourceProgram}
    {universe? : β → Option Int32} {sourceProgramId : β → Int32} {binding : β}
    {installed : Installed (DependentBinding β)}
    (hfound : ∀ u, universe? binding = some u →
      0 < sourceProgramId binding ∧ (program? programs (sourceProgramId binding)).isSome)
    (h : installDependent programs universe? sourceProgramId binding = some installed)
    : Resolves programs installed.entry.dependencyProgramIds := by
  obtain ⟨u, hu, hinstalled⟩ := Option.bind_eq_some_iff.mp h
  obtain ⟨ids, hids, heq⟩ := Option.map_eq_some_iff.mp hinstalled
  obtain ⟨hpos, hprogram⟩ := hfound u hu
  rw [← heq]
  unfold goboDependencies? at hids
  dsimp only at hids
  split at hids
  . cases hids
    exact resolves_dependencyWalk hpos hprogram
  . cases hids

theorem goboUniverse?_resolves {programs : List CompiledDmxSourceProgram}
    {binding : CompiledGoboSelectionBinding} {u : Int32}
    (h : goboUniverse? programs binding = some u)
    : (program? programs binding.sourceProgramId).isSome := by
  unfold goboUniverse? at h
  split at h
  . cases h
  . obtain ⟨program, hprogram, _⟩ := Option.bind_eq_some_iff.mp h
    simp [hprogram]

theorem motionUniverse?_resolves {programs : List CompiledDmxSourceProgram}
    {binding : CompiledGoboMotionBinding} {u : Int32}
    (h : motionUniverse? programs binding = some u)
    : (program? programs binding.sourceProgramId).isSome := by
  unfold motionUniverse? at h
  split at h
  . cases h
  . obtain ⟨program, hprogram, _⟩ := Option.bind_eq_some_iff.mp h
    simp [hprogram]

theorem universe?_addAll_nil : (UniverseCheck.addAll {} []).universe? = none := rfl

theorem resolves_shutterEntry {p : Platform} {programs : List CompiledDmxSourceProgram}
    {bindings : List CompiledShutterBinding} {binding : CompiledShutterBinding}
    (h : (shutterEntry p programs bindings binding).universe?.isSome)
    : Resolves programs (shutterEntry p programs bindings binding).dependencyProgramIds := by
  obtain ⟨u, hu⟩ := Option.isSome_iff_exists.mp h
  simp only [shutterEntry, shutterUniverse] at hu ⊢
  split at hu
  . constructor
    . intro hnil
      rw [hnil] at hu
      simp [universe?_addAll_nil] at hu
    . intro id hid
      rcases dependencyWalk_resolve.2 id hid with hmem | h
      . cases hmem
      . exact h.2
  . cases hu

theorem resolves_shutter {p : Platform} {programs : List CompiledDmxSourceProgram}
    {bindings : List CompiledShutterBinding} {installed : Installed ShutterEntry}
    (h : installed ∈ installedShutters (shutterEntries p programs bindings))
    : Resolves programs installed.entry.dependencyProgramIds := by
  obtain ⟨entry, hentry, hinstalled⟩ := List.mem_filterMap.mp h
  obtain ⟨u, hu, heq⟩ := Option.map_eq_some_iff.mp hinstalled
  have hmem := (List.mem_filter.mp (List.mem_filter.mp hentry).1).1
  obtain ⟨binding, _, hbinding⟩ := List.mem_map.mp hmem
  rw [← heq]
  simp only [← hbinding] at hu ⊢
  apply resolves_shutterEntry
  simp [hu]

theorem pos_of_program? {programs : List CompiledDmxSourceProgram} {id : Int32}
    (h : (program? (installPrograms programs).1 id).isSome) : 0 < id := by
  obtain ⟨program, hprogram⟩ := Option.isSome_iff_exists.mp h
  obtain ⟨hmem, hid⟩ := program?_eq_some hprogram
  rw [← hid]
  exact (mem_installPrograms hmem).1

/-- Every program that an entry of the tables reads is installed. -/
structure InstalledTables.Resolved (t : InstalledTables) : Prop where
  properties : ∀ x ∈ t.properties, ∀ contributor ∈ x.entry.contributors,
    (program? t.programs contributor.sourceProgramId).isSome
  colorTargets : ∀ x ∈ t.colorTargets, ∀ input ∈ x.entry.inputs,
    (program? t.programs input.sourceProgramId).isSome
  wheels : ∀ x ∈ t.wheels, (program? t.programs x.entry.sourceProgramId).isSome
  gobos : ∀ x ∈ t.gobos, Resolves t.programs x.entry.dependencyProgramIds
  motions : ∀ x ∈ t.motions, Resolves t.programs x.entry.dependencyProgramIds
  shutters : ∀ x ∈ t.shutters, Resolves t.programs x.entry.dependencyProgramIds

theorem resolved_installTables (p : Platform) (scene : CompiledRuntimeScene)
    : (installTables p scene).Resolved := by
  constructor
  . intro x hx
    obtain ⟨property, _, hproperty⟩ := List.mem_filterMap.mp hx
    obtain ⟨heq, _, hresolves⟩ := resolves_property hproperty
    rw [heq]
    intro contributor hcontributor
    obtain ⟨program, hprogram, _⟩ := hresolves contributor hcontributor
    exact Option.isSome_iff_exists.mpr ⟨program, hprogram⟩
  . intro x hx
    obtain ⟨target, _, htarget⟩ := List.mem_filterMap.mp hx
    obtain ⟨heq, hresolves⟩ := resolves_colorTarget htarget
    rw [heq]
    exact hresolves
  . intro x hx
    exact resolves_wheel hx
  . intro x hx
    obtain ⟨binding, _, hbinding⟩ := List.mem_filterMap.mp hx
    refine resolves_installDependent ?_ hbinding
    intro u hu
    exact ⟨pos_of_program? (goboUniverse?_resolves hu), goboUniverse?_resolves hu⟩
  . intro x hx
    obtain ⟨binding, _, hbinding⟩ := List.mem_filterMap.mp hx
    refine resolves_installDependent ?_ hbinding
    intro u hu
    exact ⟨pos_of_program? (motionUniverse?_resolves hu), motionUniverse?_resolves hu⟩
  . intro x hx
    exact resolves_shutter hx

theorem InstalledTables.Resolved.readIds {t : InstalledTables} (h : t.Resolved) {u id : Int32}
    (hid : id ∈ t.readIds u) : (program? t.programs id).isSome := by
  unfold InstalledTables.readIds at hid
  simp only [List.mem_append, List.mem_flatMap, List.mem_map, mem_ofUniverse] at hid
  rcases hid with ((((h1 | h2) | h3) | h4) | h5) | h6
  . obtain ⟨property, ⟨x, hx, _, rfl⟩, contributor, hcontributor, rfl⟩ := h1
    exact h.properties x hx contributor hcontributor
  . obtain ⟨target, ⟨x, hx, _, rfl⟩, input, hinput, rfl⟩ := h2
    exact h.colorTargets x hx input hinput
  . obtain ⟨binding, ⟨x, hx, _, rfl⟩, rfl⟩ := h3
    exact h.wheels x hx
  . obtain ⟨binding, ⟨x, hx, _, rfl⟩, hid⟩ := h4
    exact (h.gobos x hx).2 id hid
  . obtain ⟨binding, ⟨x, hx, _, rfl⟩, hid⟩ := h5
    exact (h.motions x hx).2 id hid
  . obtain ⟨entry, ⟨x, hx, _, rfl⟩, hid⟩ := h6
    exact (h.shutters x hx).2 id hid

/-! ### The plan of a universe -/

namespace InstalledTables

variable {t : InstalledTables} {u id : Int32}

theorem mem_planPrograms {program : CompiledDmxSourceProgram} (h : program ∈ t.planPrograms u)
    : program? t.programs program.programId = some program := by
  obtain ⟨other, _, hother⟩ := List.mem_filterMap.mp h
  rw [(program?_eq_some hother).2]
  exact hother

-- A program that is read has a source, which is where it is found in the plan.
theorem Resolved.sourceIndex (h : t.Resolved) (hid : id ∈ t.readIds u)
    : ∃ program, program? t.programs id = some program
      ∧ (t.planPrograms u)[sourceIndex (t.planPrograms u) id]? = some program := by
  obtain ⟨program, hprogram⟩ := Option.isSome_iff_exists.mp (h.readIds hid)
  refine ⟨program, hprogram, ?_⟩
  have hmem : program ∈ t.planPrograms u := by
    apply List.mem_filterMap.mpr
    refine ⟨id, ?_, hprogram⟩
    apply mem_sortUnique.mpr
    exact List.mem_append_left _ hid
  unfold Runtime.sourceIndex
  generalize hindex : List.findIdx? _ (t.planPrograms u) = index
  cases index with
  | none =>
    have hnone := List.findIdx?_eq_none_iff.mp hindex program hmem
    simp [(program?_eq_some hprogram).2] at hnone
  | some i =>
    obtain ⟨hi, hfound, _⟩ := List.findIdx?_eq_some_iff_getElem.mp hindex
    simp only [Option.getD_some, List.getElem?_eq_getElem hi, Option.some.injEq]
    have hplan := mem_planPrograms (List.getElem_mem hi)
    rw [eq_of_beq hfound, hprogram] at hplan
    exact (Option.some.inj hplan).symm

end InstalledTables

theorem mem_interestOffsets {t : InstalledTables} {u offset : Int32}
    : offset ∈ (universeLayout t u).interestOffsets ↔ ∃ id ∈ t.readIds u, ∃ program,
        program? t.programs id = some program ∧ ∃ byte ∈ program.sources, byte.address = offset := by
  change offset ∈ t.interestOffsets u ↔ _
  unfold InstalledTables.interestOffsets InstalledTables.programSources
  rw [mem_sortUnique]
  simp only [List.mem_map, List.mem_flatMap, List.mem_filterMap]
  constructor
  . intro ⟨byte, ⟨program, ⟨id, hid, hprogram⟩, hbyte⟩, heq⟩
    exact ⟨id, hid, program, hprogram, byte, hbyte, heq⟩
  . intro ⟨id, hid, program, hprogram, byte, hbyte, heq⟩
    exact ⟨byte, ⟨program, ⟨id, hid, hprogram⟩, hbyte⟩, heq⟩

theorem program_universeLayout {t : InstalledTables} {u : Int32} {index : Nat}
    {program : CompiledDmxSourceProgram} (h : (t.planPrograms u)[index]? = some program)
    : (universeLayout t u).plan.program index = program := by
  change (t.planPrograms u).getD index _ = program
  rw [List.getD_eq_getElem?_getD, h, Option.getD_some]

theorem front_evaluationContext {programs planPrograms : List CompiledDmxSourceProgram}
    {id : Int32} {ids : List Int32}
    : (evaluationContext programs planPrograms (id :: ids)).front = sourceIndex planPrograms id := by
  unfold GoboEvaluationContext.front evaluationContext
  rw [List.map_cons, List.headD_cons]

end Peraviz.Runtime
