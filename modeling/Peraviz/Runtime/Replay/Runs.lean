import Peraviz.Runtime.Replay.Agreement

/-!
This module contains the runs of a runtime next to a renderer that follows every frame: at any time
the replay tells a renderer that joins what the one that followed holds of everything that is shown.
-/

namespace Peraviz.Runtime

/-! ### The layouts of an installation -/

/-- The targets of the tables, each with the fixture that its entry names. -/
def InstalledTables.targetOwners (t : InstalledTables) : List (Int32 × Int32) :=
  t.colorTargets.map (fun x => (x.entry.beamRenderTargetId, x.entry.fixtureId))
    ++ t.wheels.map (fun x => (x.entry.beamRenderTargetId, x.entry.fixtureId))

def InstalledTables.OneOwner (t : InstalledTables) : Prop :=
  ∀ a ∈ t.targetOwners, ∀ b ∈ t.targetOwners, a.1 = b.1 → a.2 = b.2

-- The lists are searched, not the keys, of which there are finitely many as well.
instance (t : InstalledTables) : Decidable t.OneOwner :=
  decidable_of_iff (t.targetOwners.all (fun a => t.targetOwners.all (fun b =>
    decide (a.1 = b.1 → a.2 = b.2))) = true) (by simp [InstalledTables.OneOwner, imp_iff_not_or])

variable {p : Platform} {scene : CompiledRuntimeScene}

theorem fixtureId_pos {x : Installed CompiledWheelTargetBinding}
    (hx : x ∈ (installTables p scene).wheels) : x.entry.fixtureId ≠ 0 := by
  obtain ⟨binding, _, hinstalled⟩ := List.mem_filterMap.mp hx
  obtain ⟨program, hprogram, hsource⟩ := Option.bind_eq_some_iff.mp hinstalled
  obtain ⟨source, _, rfl⟩ := Option.map_eq_some_iff.mp hsource
  unfold wheelProgram? at hprogram
  split at hprogram
  . cases hprogram
  next hcomplete =>
    simp only [not_or] at hcomplete
    intro hzero
    apply hcomplete.2.1
    dsimp only at hzero
    rw [hzero]
    decide

theorem fixtureByTarget_cases {t : InstalledTables} (howner : t.OneOwner) (u : Int32)
    {owner : Int32 × Int32} (hmem : owner ∈ t.targetOwners)
    : (universeLayout t u).colors.fixtureByTarget owner.1 = owner.2
        ∨ (universeLayout t u).colors.fixtureByTarget owner.1 = 0
          ∧ ∀ x ∈ t.wheels, x.universeId = u → x.entry.beamRenderTargetId ≠ owner.1 := by
  have hlayout : (universeLayout t u).colors.fixtureByTarget owner.1
      = fixtureByTarget (ofUniverse t.colorTargets u) (ofUniverse t.wheels u) owner.1 := rfl
  rw [hlayout]
  unfold fixtureByTarget
  dsimp only
  generalize hfind : List.find? _ _ = found
  cases found with
  | none =>
    right
    refine ⟨rfl, ?_⟩
    intro x hx hu heq
    have hnone := List.find?_eq_none.mp hfind (x.entry.beamRenderTargetId, x.entry.fixtureId)
    apply hnone
    . apply List.mem_append_right
      apply List.mem_map.mpr
      exact ⟨x.entry, mem_ofUniverse.mpr ⟨x, hx, hu, rfl⟩, rfl⟩
    . simpa using heq
  | some first =>
    left
    have htarget : first.1 = owner.1 := by simpa using List.find?_some hfind
    apply howner first ?_ owner hmem htarget
    have hlisted := List.mem_of_find?_eq_some hfind
    unfold InstalledTables.targetOwners
    simp only [List.mem_append, List.mem_map, mem_ofUniverse] at hlisted ⊢
    rcases hlisted with ⟨target, ⟨x, hx, _, rfl⟩, heq⟩ | ⟨binding, ⟨x, hx, _, rfl⟩, heq⟩
    . exact Or.inl ⟨x, hx, heq⟩
    . exact Or.inr ⟨x, hx, heq⟩

theorem mem_universeIds_of_wheel {t : InstalledTables} {x : Installed CompiledWheelTargetBinding}
    (hx : x ∈ t.wheels) : x.universeId ∈ t.universeIds := by
  unfold InstalledTables.universeIds
  simp only [mem_firstOccurrences, List.mem_append, List.mem_map]
  exact Or.inl (Or.inl (Or.inl (Or.inr ⟨x, hx, rfl⟩)))

theorem ownerOf_installedCore (generation : Int32) (howner : (installTables p scene).OneOwner)
    {x : Installed CompiledWheelTargetBinding} (hx : x ∈ (installTables p scene).wheels)
    : (installedCore p generation scene).ownerOf x.entry.beamRenderTargetId
        = x.entry.fixtureId := by
  have hmem : (x.entry.beamRenderTargetId, x.entry.fixtureId)
      ∈ (installTables p scene).targetOwners := by
    apply List.mem_append_right
    exact List.mem_map_of_mem hx
  unfold Core.ownerOf
  rw [layouts_installedCore, List.map_map]
  generalize hfind : List.find? _ _ = found
  cases found with
  | none =>
    have hnone := List.find?_eq_none.mp hfind
    have huniverse := hnone _ (List.mem_map_of_mem
      (InstalledTables.mem_universeOrder.mpr (mem_universeIds_of_wheel hx)))
    rcases fixtureByTarget_cases howner x.universeId hmem with heq | ⟨_, hother⟩
    . simp only [Function.comp_apply] at huniverse
      rw [heq] at huniverse
      simp [fixtureId_pos hx] at huniverse
    . exact absurd rfl (hother x hx rfl)
  | some owner =>
    have hne : owner ≠ 0 := by simpa using List.find?_some hfind
    obtain ⟨u, _, rfl⟩ := List.mem_map.mp (List.mem_of_find?_eq_some hfind)
    rcases fixtureByTarget_cases howner u hmem with heq | ⟨hzero, _⟩
    . exact heq
    . exact absurd hzero hne

theorem replayLayout_installedCore (generation : Int32)
    (howner : (installTables p scene).OneOwner) {layout : UniverseLayout}
    (hlayout : layout ∈ (installedCore p generation scene).layouts)
    : ReplayLayout (installedCore p generation scene).ownerOf
        (installedCore p generation scene).wheelKeys
        (installedCore p generation scene).authorityIds layout := by
  have hmem := hlayout
  rw [layouts_installedCore] at hmem
  obtain ⟨u, hu, rfl⟩ := List.mem_map.mp hmem
  constructor
  . intro physicalKey binding ⟨index, hindex, wheel, hget, hbinding⟩
    obtain ⟨installed, hinstalled, hkey⟩ := mem_indicesOf.mp
      ((List.perm_insertionSort _ _).mem_iff.mp hindex)
    have hwheel : wheel = ⟨installed, sourceIndex ((installTables p scene).planPrograms u)
        installed.sourceProgramId⟩ := by
      simpa [universeLayout, wheelLayout, hinstalled] using hget.symm
    rw [hwheel] at hbinding
    subst hbinding
    obtain ⟨x, hx, _, rfl⟩ := mem_ofUniverse.mp (List.mem_of_getElem? hinstalled)
    refine ⟨eq_of_beq hkey, ?_, ownerOf_installedCore generation howner hx⟩
    apply mem_sortUnique.mpr
    apply List.mem_flatMap.mpr
    refine ⟨_, hlayout, ?_⟩
    apply List.mem_map.mpr
    exact ⟨wheel, List.mem_of_getElem? hget, by rw [hwheel]; exact eq_of_beq hkey⟩
  . intro key hkey
    apply mem_firstOccurrences.mpr
    apply List.mem_flatMap.mpr
    exact ⟨_, hlayout, List.mem_map_of_mem hkey⟩

/-! ### Runs -/

/-- The layouts of a core are those that the replay relies on. -/
def Core.Replays (core : Core) : Prop :=
  ∀ layout ∈ core.layouts, ReplayLayout core.ownerOf core.wheelKeys core.authorityIds layout

theorem Core.Replays.of_layouts {core core' : Core} (h : core.Replays)
    (heq : core'.layouts = core.layouts) : core'.Replays := by
  unfold Core.Replays Core.ownerOf Core.wheelKeys Core.authorityIds
  rw [heq]
  exact h

/-- What the runtime holds of the wheels and the shutters is what the rows have told. -/
structure Follows (p : Platform) (s : Core × FollowedRows) : Prop where
  replays : s.1.Replays
  wheels : WheelsAgree s.1.wheelKeys s.1.ownerOf s.1.held.wheels s.2.wheels
  shutters : ∀ id, ShutterAgrees p s.1.authorityIds (s.1.held.shutters.authorities id) id
    s.2.shutters

theorem Follows.of_layouts {core core' : Core} {followed : FollowedRows}
    (h : core.Replays) (heq : core'.layouts = core.layouts)
    (hwheels : WheelsAgree core.wheelKeys core.ownerOf core'.held.wheels followed.wheels)
    (hshutters : ∀ id, ShutterAgrees p core.authorityIds (core'.held.shutters.authorities id) id
      followed.shutters)
    : Follows p (core', followed) := by
  have hkeys : core'.wheelKeys = core.wheelKeys := by
    unfold Core.wheelKeys
    rw [heq]
  have howner : core'.ownerOf = core.ownerOf := by
    unfold Core.ownerOf
    rw [heq]
  have hids : core'.authorityIds = core.authorityIds := by
    unfold Core.authorityIds
    rw [heq]
  constructor
  . exact h.of_layouts heq
  . rw [hkeys, howner]
    exact hwheels
  . rw [hids]
    exact hshutters

theorem Follows.consumed {core : Core} {followed : FollowedRows} (h : Follows p (core, followed))
    (now : ℚ)
    : Agrees p core.ownerOf core.wheelKeys core.authorityIds followed (core.consumed p now).held
        (core.consumed p now).frame (core.consumed p now).emission := by
  apply consume_induction (I := Agrees p core.ownerOf core.wheelKeys core.authorityIds followed)
  . intro u hu x phases held out e hx hI hphases
    exact hI.phases hx (h.replays _ (List.mem_map_of_mem hu)) hphases
  . constructor
    . exact h.wheels
    . exact ⟨[], ⟨rfl, rfl, by simp⟩, h.shutters⟩

theorem Follows.step {s : Core × FollowedRows} (h : Follows p s) (first : Core)
    (operation : Operation) : Follows p ((followedRuntime p first).step s operation).1 := by
  have hlayouts := (step_layouts (p := p) s.1 operation).2
  cases operation with
  | submit universeId data => exact Follows.of_layouts h.replays hlayouts h.wheels h.shutters
  | consume now =>
    obtain ⟨hwheels, rows, hrows, hshutters⟩ := h.consumed now
    apply Follows.of_layouts h.replays hlayouts
    . exact hwheels
    . intro id
      simp only [FollowedRows.follow, hrows.shutterRowsOf]
      exact hshutters id

theorem Follows.run {s : Core × FollowedRows} (h : Follows p s) (first : Core)
    (operations : List Operation) : Follows p ((followedRuntime p first).run s operations) := by
  apply (followedRuntime p first).run_induction (Follows p)
  . intro s operation hs
    exact hs.step first operation
  . exact h

theorem follows_installedCore (generation : Int32) (howner : (installTables p scene).OneOwner)
    : Follows p (installedCore p generation scene, {}) := by
  constructor
  . intro layout hlayout
    exact replayLayout_installedCore generation howner hlayout
  . intro key hinit
    change ((installTables p scene).wheelState key).initialized = true at hinit
    unfold InstalledTables.wheelState at hinit
    split at hinit
    . cases hinit
    . cases hinit
  . intro id
    have hfresh : (authorityState p scene (installTables p scene).shutterEntries
        id).parameters.revision = 0 := by
      unfold authorityState
      dsimp only
      split
      . rfl
      . rfl
    constructor
    . intro hrevision
      exact absurd hfresh hrevision
    . intro target hsome
      cases hsome
    . intro hrevision
      exact absurd hfresh hrevision

/-! ### A renderer that joins -/

theorem Follows.replayed_wheels {core : Core} {followed : FollowedRows}
    (h : Follows p (core, followed)) (now : ℚ) (key : Int32 × Int32)
    : (replayed p core now).wheels key
        = if (core.held.wheels (wheelPhysicalKey key.1 key.2)).initialized then
            followed.wheels key
          else
            none := by
  have hrows (entry : (Int32 × Int32) × SectionRow)
      (hentry : entry ∈ keyed wheelRowKey core.replayWheelRows)
      : ∃ physicalKey, (core.held.wheels physicalKey).initialized = true
          ∧ wheelPhysicalKey entry.1.1 entry.1.2 = physicalKey
          ∧ followed.wheels entry.1 = some entry.2 := by
    obtain ⟨row, hrow, rfl⟩ := List.mem_map.mp hentry
    obtain ⟨state, hstate, rfl⟩ := List.mem_map.mp hrow
    obtain ⟨hmem, hinit⟩ := List.mem_filter.mp hstate
    obtain ⟨physicalKey, _, rfl⟩ := List.mem_map.mp hmem
    obtain ⟨_, hkey, hfollowed⟩ := h.wheels physicalKey hinit
    exact ⟨physicalKey, hinit, hkey, hfollowed⟩
  unfold replayed
  dsimp only
  split
  next hinit =>
    obtain ⟨hmem, hkey, hfollowed⟩ := h.wheels _ hinit
    have hpair := wheelPhysicalKey_inj hkey
    rw [hpair] at hfollowed
    rw [hfollowed]
    apply KeyedLog.fold_of_mem
    . apply List.mem_map.mpr
      refine ⟨_, List.mem_map_of_mem (List.mem_filter.mpr ⟨List.mem_map_of_mem hmem, hinit⟩), ?_⟩
      exact Prod.ext hpair rfl
    . intro other hother
      obtain ⟨_, _, _, hrow⟩ := hrows _ hother
      rw [hfollowed] at hrow
      exact (Option.some.inj hrow).symm
  next hinit =>
    apply KeyedLog.fold_of_not_mem
    intro hmem
    obtain ⟨entry, hentry, rfl⟩ := List.mem_map.mp hmem
    obtain ⟨physicalKey, hheld, hkey, _⟩ := hrows entry hentry
    rw [hkey] at hinit
    exact hinit hheld

theorem mem_keyed_replayShutterRows {core : Core} {now : ℚ}
    {entry : (Int32 × Int32) × SectionRow}
    : entry ∈ keyed shutterRowKey (core.replayShutterRows p now)
        ↔ ∃ id ∈ core.authorityIds, (core.held.shutters.authorities id).parameters.revision ≠ 0
          ∧ entry ∈ keyed shutterRowKey (shutterRows p (core.held.shutters.authorities id)
            (core.held.shutters.authorities id).parameters now id) := by
  unfold keyed Core.replayShutterRows
  simp only [List.mem_map, List.mem_flatMap]
  constructor
  . rintro ⟨row, ⟨id, ⟨key, hkey, rfl⟩, hrow⟩, rfl⟩
    obtain ⟨id, hid, rfl⟩ := List.mem_map.mp ((p.hashOrder_perm _).mem_iff.mp hkey)
    rw [Int32.ofInt_toInt] at hrow
    split at hrow
    next hrevision => exact ⟨id, hid, hrevision, row, hrow, rfl⟩
    next => cases hrow
  . rintro ⟨id, hid, hrevision, row, hrow, rfl⟩
    refine ⟨row, ⟨id, ⟨id.toInt, ?_, Int32.ofInt_toInt id⟩, ?_⟩, rfl⟩
    . exact (p.hashOrder_perm _).mem_iff.mpr (List.mem_map_of_mem hid)
    . rw [if_pos hrevision]
      exact hrow

theorem Follows.replayed_shutters {core : Core} {followed : FollowedRows}
    (h : Follows p (core, followed)) (now : ℚ) (key : Int32 × Int32)
    : ((replayed p core now).shutters key).map unsampled
        = if (core.held.shutters.authorities key.2).parameters.revision ≠ 0 then
            (followed.shutters key).map unsampled
          else
            none := by
  obtain ⟨target, id⟩ := key
  obtain ⟨hknown, htargets, hrow⟩ := h.shutters id
  have hentries (row : SectionRow)
      (hmem : ((target, id), row) ∈ keyed shutterRowKey (core.replayShutterRows p now))
      : (core.held.shutters.authorities id).parameters.revision ≠ 0
          ∧ target ∈ (core.held.shutters.authorities id).targets
          ∧ row = shutterRow p (core.held.shutters.authorities id).fixtureId target
            (core.held.shutters.authorities id).index
            (core.held.shutters.authorities id).parameters now id := by
    obtain ⟨id', _, hrevision, hentry⟩ := mem_keyed_replayShutterRows.mp hmem
    obtain ⟨target', htarget', heq⟩ := mem_keyed_shutterRows.mp hentry
    simp only [Prod.mk.injEq] at heq
    obtain ⟨⟨rfl, rfl⟩, rfl⟩ := heq
    exact ⟨hrevision, htarget', rfl⟩
  have hnone (hno : ¬((core.held.shutters.authorities id).parameters.revision ≠ 0
      ∧ target ∈ (core.held.shutters.authorities id).targets))
      : (replayed p core now).shutters (target, id) = none := by
    apply KeyedLog.fold_of_not_mem
    intro hmem
    obtain ⟨⟨_, row⟩, hentry, rfl⟩ := List.mem_map.mp hmem
    obtain ⟨hrevision, htarget, _⟩ := hentries row hentry
    exact hno ⟨hrevision, htarget⟩
  dsimp only
  split
  next hrevision =>
    by_cases htarget : target ∈ (core.held.shutters.authorities id).targets
    . rw [hrow hrevision target htarget]
      have hfold : (replayed p core now).shutters (target, id)
          = some (shutterRow p (core.held.shutters.authorities id).fixtureId target
            (core.held.shutters.authorities id).index
            (core.held.shutters.authorities id).parameters now id) := by
        apply KeyedLog.fold_of_mem
        . apply mem_keyed_replayShutterRows.mpr
          refine ⟨id, hknown hrevision, hrevision, ?_⟩
          exact mem_keyed_shutterRows.mpr ⟨target, htarget, rfl⟩
        . intro other hother
          exact (hentries other hother).2.2
      rw [hfold]
      rfl
    . have hfollowed : followed.shutters (target, id) = none := by
        rw [Option.eq_none_iff_forall_ne_some]
        intro row hsome
        apply htarget
        apply htargets
        rw [hsome]
        rfl
      rw [hnone (fun hno => htarget hno.2), hfollowed]
  next hrevision =>
    rw [hnone (fun hno => hrevision hno.1)]
    rfl

theorem run_followedRuntime (first core : Core) (followed : FollowedRows)
    (operations : List Operation)
    : ((followedRuntime p first).run (core, followed) operations).1
        = (runtime p first).run core operations := by
  induction operations generalizing core followed with
  | nil => rfl
  | cons operation operations ih => exact ih _ _

/-- One wheel that is shown while its channel is within a range. -/
def selectScene : CompiledRuntimeScene where
  sourcePrograms := [{ programId := 1, sources := [⟨0, 0, 0⟩], dmxFrom := 32, dmxTo := 160 }]
  wheelPalettes := [{ wheelRendererId := 1, slots := [{ slotIndex := 1 }] }]
  wheelBindings := [{
    bindingId := 1
    fixtureId := 1
    beamRenderTargetId := 1
    wheelRendererId := 1
    sourceProgramId := 1
    channelSets := [{ dmxFrom := 32, dmxTo := 160, wheelSlotIndex := 1 }]
  }]

/-- The channel enters the range and leaves it again. -/
def deselection : List Operation :=
  [.submit 0 [120], .consume 0, .submit 0 [200], .consume 0]

theorem install_selectScene
    : installCompiledScene exactPlatform {} selectScene
        = some (installedCore exactPlatform 1 selectScene) := by
  unfold installCompiledScene
  dsimp only
  rw [if_neg (by decide)]

end Peraviz.Runtime
