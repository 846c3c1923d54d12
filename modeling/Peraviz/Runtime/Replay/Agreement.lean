import Peraviz.KeyedLog.Basic
import Peraviz.Runtime.Core.Impl
import Peraviz.Runtime.Core.Lemmas
import Peraviz.Runtime.Domains.Rules

/-!
This module contains the replay of the domains that are held, for a renderer that joins late, and a
renderer that has followed every frame: the last row of each key among all that were put out. The
replay agrees with it: what the runtime holds of a wheel or a shutter is what its last row said.
-/

namespace Peraviz.Runtime

/-! ### The replay -/

namespace Core

/-- The fixtures whose transform the runtime can hold, in the order of the replay. -/
def transformFixtures (core : Core) : List Int32 :=
  sortUnique (core.layouts.flatMap (fun layout =>
    layout.properties.map (fun program => program.property.fixtureId)))

def replayTransformRow (core : Core) (fixture : Int32) : SectionRow :=
  let state := core.held.properties.transformStateByFixture fixture
  {
    integers := [fixture, core.definitions.tables.components.pan fixture,
      core.definitions.tables.components.tilt fixture, VisualChangeTransform.toInt32]
    floats := [state.pan, state.tilt]
  }

def replayTransformRows (core : Core) : List SectionRow :=
  (core.transformFixtures.filter (fun fixture =>
    (core.held.properties.transformStateByFixture fixture).initialized)).map
      core.replayTransformRow

def wheelKeys (core : Core) : List Int :=
  sortUnique (core.layouts.flatMap (fun layout =>
    layout.wheels.bindings.map (fun wheel => wheel.binding.physicalKey)))

/-- The owner of a target in the first universe that knows one, which is never `0`. -/
def ownerOf (core : Core) (target : Int32) : Int32 :=
  ((core.layouts.map (fun layout => layout.colors.fixtureByTarget target)).find? (· != 0)).getD 0

end Core

def wheelStateRow (fixture : Int32) (state : WheelTargetState) : SectionRow where
  integers := [fixture, state.beamTargetId, state.wheelRendererId, state.mode.toUnderlying,
    state.slotA, state.slotB, VisualChangeColor.toInt32, state.revision]
  floats := [state.normalizedPhase, state.splitFraction, state.boundaryAngleDegrees,
    state.srgbRed, state.srgbGreen, state.srgbBlue, state.gain, 2 / 100]

namespace Core

def replayWheelRows (core : Core) : List SectionRow :=
  ((core.wheelKeys.map core.held.wheels).filter WheelTargetState.initialized).map (fun state =>
    wheelStateRow (core.ownerOf state.beamTargetId) state)

/-- The keys of `shutter_authorities_` whose parameters can have been updated. -/
def authorityIds (core : Core) : List Int32 :=
  firstOccurrences (core.layouts.flatMap (fun layout =>
    (targetsIn .shutter layout.plan.consumers).map Int32.ofInt))

def replayShutterRows (p : Platform) (core : Core) (now : ℚ) : List SectionRow :=
  ((p.hashOrder (core.authorityIds.map Int32.toInt)).map Int32.ofInt).flatMap (fun id =>
    let authority := core.held.shutters.authorities id
    if authority.parameters.revision ≠ 0 then
      shutterRows p authority authority.parameters now id
    else
      [])

end Core

def heldDomainReplay (p : Platform) (core : Core) (now : ℚ) : SectionedVisualFrame :=
  let frame : SectionedVisualFrame := { schemaGeneration := core.schema.schemaGeneration }
  let frame := appendSection frame .geometryTransform core.replayTransformRows
  let frame := appendSection frame .wheelSelection core.replayWheelRows
  (core.replayShutterRows p now).foldl appendShutterRow frame

/-! ### The rows of a consume -/

/-- The state of a consume in front of `packSections`. -/
def Core.consumed (p : Platform) (core : Core) (now : ℚ) : ConsumeState :=
  (updateAll (consumeUniverse p core.definitions now) core.consumeState core.universes).1

/-- The rows of a frame that has no sections but that of the shutters. -/
def shutterRowsOf (frame : SectionedVisualFrame) : List SectionRow :=
  (List.range (frame.integers.length / 10)).map (fun row =>
    ⟨(frame.integers.drop (10 * row)).take 10, (frame.floats.drop (7 * row)).take 7⟩)

/-- The target and the wheel renderer of a row of the wheel section. -/
def wheelRowKey (row : SectionRow) : Int32 × Int32 :=
  (row.integers.getD 1 0, row.integers.getD 2 0)

/-- The target and the authority of a row of the shutter section. -/
def shutterRowKey (row : SectionRow) : Int32 × Int32 :=
  (row.integers.getD 1 0, row.integers.getD 8 0)

def keyed (key : SectionRow → Int32 × Int32) (rows : List SectionRow)
    : List ((Int32 × Int32) × SectionRow) :=
  rows.map (fun row => (key row, row))

/-- The last row of every key. -/
structure FollowedRows where
  wheels : Int32 × Int32 → Option SectionRow := fun _ => none
  shutters : Int32 × Int32 → Option SectionRow := fun _ => none

def FollowedRows.follow (followed : FollowedRows) (e : Emission) (frame : SectionedVisualFrame)
    : FollowedRows where
  wheels := KeyedLog.fold followed.wheels (keyed wheelRowKey e.wheelRows)
  shutters := KeyedLog.fold followed.shutters (keyed shutterRowKey (shutterRowsOf frame))

/-- The runtime next to a renderer that folds every row of every consume. -/
def followedRuntime (p : Platform) (core : Core)
    : Machine (Core × FollowedRows) Operation (Option SectionedVisualFrame) where
  init := (core, {})
  step := fun s operation =>
    (((s.1.step p operation).1,
      match operation with
      | .submit _ _ => s.2
      | .consume now =>
        s.2.follow (s.1.consumed p now).emission (s.1.consumed p now).frame),
      (s.1.step p operation).2)

/-- A shutter row without the time at which it was sampled. -/
def unsampled (row : SectionRow) : SectionRow := { row with floats := row.floats.take 6 }

/-- What a renderer that joins now holds of the wheels and the shutters. -/
def replayed (p : Platform) (core : Core) (now : ℚ) : FollowedRows where
  wheels := KeyedLog.fold (fun _ => none) (keyed wheelRowKey core.replayWheelRows)
  shutters := KeyedLog.fold (fun _ => none) (keyed shutterRowKey (core.replayShutterRows p now))

/-! ### The rows of the shutter section -/

/-- The buffers hold the cells of the rows and nothing else. -/
structure HoldsRows (frame : SectionedVisualFrame) (rows : List SectionRow) : Prop where
  integers : frame.integers = rows.flatMap SectionRow.integers
  floats : frame.floats = rows.flatMap SectionRow.floats
  width : ∀ row ∈ rows, row.integers.length = 10 ∧ row.floats.length = 7

theorem integers_appendShutterRow (frame : SectionedVisualFrame) (row : SectionRow)
    : (appendShutterRow frame row).integers = frame.integers ++ row.integers
        ∧ (appendShutterRow frame row).floats = frame.floats ++ row.floats := by
  unfold appendShutterRow
  dsimp only
  split
  . exact ⟨rfl, rfl⟩
  . exact ⟨rfl, rfl⟩

theorem HoldsRows.append {frame : SectionedVisualFrame} {rows : List SectionRow}
    (h : HoldsRows frame rows) {more : List SectionRow}
    (hmore : ∀ row ∈ more, row.integers.length = 10 ∧ row.floats.length = 7)
    : HoldsRows (more.foldl appendShutterRow frame) (rows ++ more) := by
  induction more generalizing frame rows with
  | nil =>
    rw [List.append_nil]
    exact h
  | cons row more ih =>
    obtain ⟨hrow, hmore⟩ := List.forall_mem_cons.mp hmore
    obtain ⟨hintegers, hfloats⟩ := integers_appendShutterRow frame row
    have hone : HoldsRows (appendShutterRow frame row) (rows ++ [row]) := by
      constructor
      . rw [hintegers, h.integers]
        simp
      . rw [hfloats, h.floats]
        simp
      . intro other hother
        rcases List.mem_append.mp hother with hother | hother
        . exact h.width other hother
        . rw [List.mem_singleton.mp hother]
          exact hrow
    rw [List.foldl_cons, List.append_cons]
    exact ih hone hmore

theorem drop_take_flatMap {α β : Type} (f : α → List β) {width : Nat} {l : List α}
    (h : ∀ a ∈ l, (f a).length = width) {i : Nat} (hi : i < l.length)
    : ((l.flatMap f).drop (width * i)).take width = f l[i] := by
  induction l generalizing i with
  | nil => simp at hi
  | cons a l ih =>
    obtain ⟨ha, hl⟩ := List.forall_mem_cons.mp h
    cases i with
    | zero =>
      rw [Nat.mul_zero, List.drop_zero, List.flatMap_cons, ← ha, List.take_left']
      . rfl
      . rfl
    | succ i =>
      rw [List.flatMap_cons, Nat.mul_succ, Nat.add_comm, ← List.drop_drop, List.drop_left' ha]
      exact ih hl (Nat.lt_of_succ_lt_succ hi)

theorem HoldsRows.shutterRowsOf {frame : SectionedVisualFrame} {rows : List SectionRow}
    (h : HoldsRows frame rows) : shutterRowsOf frame = rows := by
  have hlength : frame.integers.length / 10 = rows.length := by
    rw [h.integers, List.length_flatMap, List.map_congr_left (fun row hrow => (h.width row hrow).1)]
    simp
  unfold Runtime.shutterRowsOf
  rw [hlength]
  apply List.ext_getElem
  . simp
  . intro i _ hi
    rw [List.getElem_map, List.getElem_range, h.integers, h.floats,
      drop_take_flatMap _ (fun row hrow => (h.width row hrow).1) hi,
      drop_take_flatMap _ (fun row hrow => (h.width row hrow).2) hi]

theorem width_shutterRows {p : Platform} {authority : ShutterAuthorityState}
    {parameters : ShutterParameters} {now : ℚ} {id : Int32}
    : ∀ row ∈ shutterRows p authority parameters now id,
        row.integers.length = 10 ∧ row.floats.length = 7 := by
  intro row hrow
  obtain ⟨target, _, rfl⟩ := List.mem_map.mp hrow
  exact ⟨rfl, rfl⟩

/-! ### What a follower has seen -/

theorem keyed_append (key : SectionRow → Int32 × Int32) (front back : List SectionRow)
    : keyed key (front ++ back) = keyed key front ++ keyed key back := List.map_append

/-- A wheel that is held shows what its last row said. -/
def WheelsAgree (keys : List Int) (owner : Int32 → Int32) (states : Int → WheelTargetState)
    (followed : Int32 × Int32 → Option SectionRow) : Prop :=
  ∀ key, (states key).initialized = true → key ∈ keys
    ∧ wheelPhysicalKey (states key).beamTargetId (states key).wheelRendererId = key
    ∧ followed ((states key).beamTargetId, (states key).wheelRendererId)
      = some (wheelStateRow (owner (states key).beamTargetId) (states key))

/-- The parameters of an authority are those its last rows said, one row for each target. -/
structure ShutterAgrees (p : Platform) (ids : List Int32) (authority : ShutterAuthorityState)
    (id : Int32) (followed : Int32 × Int32 → Option SectionRow) : Prop where
  known : authority.parameters.revision ≠ 0 → id ∈ ids
  target : ∀ target, (followed (target, id)).isSome = true → target ∈ authority.targets
  row : authority.parameters.revision ≠ 0 → ∀ target ∈ authority.targets,
    (followed (target, id)).map unsampled
      = some (unsampled (shutterRow p authority.fixtureId target authority.index
        authority.parameters 0 id))

/-! ### One change of a domain -/

section Wheels

variable {keys : List Int} {owner : Int32 → Int32} {update : WheelUpdate}
  {followed : Int32 × Int32 → Option SectionRow} {physicalKey : Int}

/-- The pending rows of the wheels as the sections put them out. -/
def wheelLog (rows : List PendingRow) : List ((Int32 × Int32) × SectionRow) :=
  keyed wheelRowKey ((rows.filter PendingRow.wheelRow).map wheelRow)

theorem wheelLog_append (front back : List PendingRow)
    : wheelLog (front ++ back) = wheelLog front ++ wheelLog back := by
  simp [wheelLog, keyed]

theorem WheelsAgree.clear
    (h : WheelsAgree keys owner update.states (KeyedLog.fold followed (wheelLog update.rows)))
    : WheelsAgree keys owner (update.clear physicalKey).states
        (KeyedLog.fold followed (wheelLog (update.clear physicalKey).rows)) := by
  unfold WheelUpdate.clear
  dsimp only
  split
  . intro key hkey
    by_cases heq : key = physicalKey
    . subst heq
      simp [clearWheel] at hkey
    . dsimp only at hkey ⊢
      rw [Function.update_of_ne heq] at hkey ⊢
      exact h key hkey
  . exact h

theorem WheelsAgree.merge {binding : CompiledWheelTargetBinding} {next : WheelResolution}
    (h : WheelsAgree keys owner update.states (KeyedLog.fold followed (wheelLog update.rows)))
    (hkey : binding.physicalKey = physicalKey) (hmem : physicalKey ∈ keys)
    (howner : owner binding.beamRenderTargetId = binding.fixtureId)
    : WheelsAgree keys owner (update.merge physicalKey binding next).states
        (KeyedLog.fold followed (wheelLog (update.merge physicalKey binding next).rows)) := by
  unfold WheelUpdate.merge
  dsimp only
  split
  . intro key hinit
    dsimp only at hinit ⊢
    rw [wheelLog_append, KeyedLog.fold_append]
    have hlog : wheelLog [wheelPendingRow binding next
          (showWheel (update.states physicalKey) binding next).revision]
        = [((binding.beamRenderTargetId, binding.wheelRendererId),
          wheelStateRow binding.fixtureId
            (showWheel (update.states physicalKey) binding next))] := rfl
    rw [hlog, KeyedLog.fold_singleton]
    by_cases heq : key = physicalKey
    . subst heq
      rw [Function.update_self]
      refine ⟨hmem, hkey, ?_⟩
      simp only [showWheel, Function.update_self, howner]
    . rw [Function.update_of_ne heq] at hinit ⊢
      obtain ⟨hmem', hkey', hrow⟩ := h key hinit
      refine ⟨hmem', hkey', ?_⟩
      rw [Function.update_of_ne]
      . exact hrow
      . intro hpair
        rw [Prod.mk.injEq] at hpair
        rw [hpair.1, hpair.2] at hkey'
        exact heq (hkey'.symm.trans hkey)
  . exact h

end Wheels

section Shutters

variable {p : Platform} {ids : List Int32} {followed : Int32 × Int32 → Option SectionRow}

def ShuttersAgree (p : Platform) (ids : List Int32) (followed : Int32 × Int32 → Option SectionRow)
    (update : ShutterHeld × SectionedVisualFrame) : Prop :=
  ∃ rows, HoldsRows update.2 rows ∧ ∀ id, ShutterAgrees p ids (update.1.authorities id) id
    (KeyedLog.fold followed (keyed shutterRowKey rows))

theorem ShuttersAgree.skip {held : ShutterHeld} {frame : SectionedVisualFrame}
    (h : ShuttersAgree p ids followed (held, frame)) (id : Int32)
    (unsupportedFixtures : Int32 → Bool) (diagnosed : Bool)
    : ShuttersAgree p ids followed (⟨Function.update held.authorities id
        { held.authorities id with diagnosed := diagnosed }, unsupportedFixtures⟩, frame) := by
  obtain ⟨rows, hrows, hagrees⟩ := h
  refine ⟨rows, hrows, ?_⟩
  intro other
  have hother := hagrees other
  by_cases heq : other = id
  . subst heq
    dsimp only
    rw [Function.update_self]
    exact ⟨hother.known, hother.target, hother.row⟩
  . dsimp only
    rw [Function.update_of_ne heq]
    exact hother

theorem mem_keyed_shutterRows {authority : ShutterAuthorityState} {parameters : ShutterParameters}
    {now : ℚ} {id : Int32} {entry : (Int32 × Int32) × SectionRow}
    : entry ∈ keyed shutterRowKey (shutterRows p authority parameters now id)
        ↔ ∃ target ∈ authority.targets, entry = ((target, id),
          shutterRow p authority.fixtureId target authority.index parameters now id) := by
  unfold keyed shutterRows
  rw [List.map_map, List.mem_map]
  constructor
  . intro ⟨target, htarget, heq⟩
    exact ⟨target, htarget, heq.symm⟩
  . intro ⟨target, htarget, heq⟩
    exact ⟨target, htarget, heq.symm⟩

-- The rows of an authority replace what was held of each of its targets, and nothing else.
theorem fold_shutterRows_of_mem {authority : ShutterAuthorityState}
    {parameters : ShutterParameters} {now : ℚ} {id target : Int32}
    (htarget : target ∈ authority.targets)
    : KeyedLog.fold followed (keyed shutterRowKey (shutterRows p authority parameters now id))
          (target, id)
        = some (shutterRow p authority.fixtureId target authority.index parameters now id) := by
  apply KeyedLog.fold_of_mem
  . exact mem_keyed_shutterRows.mpr ⟨target, htarget, rfl⟩
  . intro other hother
    obtain ⟨target', _, heq⟩ := mem_keyed_shutterRows.mp hother
    simp only [Prod.mk.injEq, and_true] at heq
    rw [heq.2, heq.1]

theorem fold_shutterRows_of_not {authority : ShutterAuthorityState}
    {parameters : ShutterParameters} {now : ℚ} {id : Int32} {key : Int32 × Int32}
    (h : ¬(key.1 ∈ authority.targets ∧ key.2 = id))
    : KeyedLog.fold followed (keyed shutterRowKey (shutterRows p authority parameters now id)) key
        = followed key := by
  apply KeyedLog.fold_of_not_mem
  intro hmem
  obtain ⟨entry, hentry, rfl⟩ := List.mem_map.mp hmem
  obtain ⟨target, htarget, rfl⟩ := mem_keyed_shutterRows.mp hentry
  exact h ⟨htarget, rfl⟩

theorem ShuttersAgree.update {held : ShutterHeld} {frame : SectionedVisualFrame}
    (h : ShuttersAgree p ids followed (held, frame)) {id : Int32} (hid : id ∈ ids)
    (unsupportedFixtures : Int32 → Bool) (diagnosed : Bool) (parameters : ShutterParameters)
    (now : ℚ)
    : ShuttersAgree p ids followed (⟨Function.update held.authorities id
        { held.authorities id with diagnosed := diagnosed, parameters := parameters },
        unsupportedFixtures⟩,
      (shutterRows p (held.authorities id) parameters now id).foldl appendShutterRow frame) := by
  obtain ⟨rows, hrows, hagrees⟩ := h
  refine ⟨_, hrows.append width_shutterRows, ?_⟩
  intro other
  have hother := hagrees other
  rw [keyed_append, KeyedLog.fold_append]
  dsimp only
  by_cases heq : other = id
  . subst heq
    rw [Function.update_self]
    constructor
    . intro _
      exact hid
    . intro target hsome
      by_cases htarget : target ∈ (held.authorities other).targets
      . exact htarget
      . rw [fold_shutterRows_of_not (fun h => htarget h.1)] at hsome
        exact hother.target target hsome
    . intro _ target htarget
      have hmem : target ∈ (held.authorities other).targets := htarget
      rw [fold_shutterRows_of_mem hmem]
      rfl
  . rw [Function.update_of_ne heq]
    constructor
    . exact hother.known
    . intro target hsome
      rw [fold_shutterRows_of_not (fun h => heq h.2)] at hsome
      exact hother.target target hsome
    . intro hrevision target htarget
      rw [fold_shutterRows_of_not (fun h => heq h.2)]
      exact hother.row hrevision target htarget

end Shutters

/-! ### The phases of a consume -/

/-- What the replay relies on of the layouts of a runtime. -/
structure ReplayLayout (owner : Int32 → Int32) (keys : List Int) (ids : List Int32)
    (layout : UniverseLayout) : Prop where
  wheels : ∀ physicalKey binding, layout.wheels.Controls physicalKey binding
    → binding.physicalKey = physicalKey ∧ physicalKey ∈ keys
      ∧ owner binding.beamRenderTargetId = binding.fixtureId
  shutters : ∀ key ∈ targetsIn .shutter layout.plan.consumers, Int32.ofInt key ∈ ids

/-- A renderer that has followed everything up to some rows of the current consume. -/
structure Agrees (p : Platform) (owner : Int32 → Int32) (keys : List Int) (ids : List Int32)
    (followed : FollowedRows) (held : HeldState) (out : SectionedVisualFrame) (e : Emission)
    : Prop where
  wheels : WheelsAgree keys owner held.wheels (KeyedLog.fold followed.wheels (wheelLog e.rows))
  shutters : ShuttersAgree p ids followed.shutters (held.shutters, out)

theorem wheelLog_of_others (rows : List PendingRow) (h : ∀ row ∈ rows, row.wheelRow = false)
    : wheelLog rows = [] := by
  have hfilter : rows.filter PendingRow.wheelRow = [] := by
    rw [List.filter_eq_nil_iff]
    intro row hrow
    rw [h row hrow]
    simp
  unfold wheelLog
  rw [hfilter]
  rfl

theorem UpdateContext.In.mem_targetsIn {x : UpdateContext} {p : Platform} {d : Definitions}
    {now : ℚ} {layout : UniverseLayout} (hx : x.In p d now layout) {domain : EvaluationDomain}
    {key : Int} (hkey : key ∈ targetsIn domain x.dirty)
    : key ∈ targetsIn domain layout.plan.consumers := by
  obtain ⟨consumer, hconsumer, hof, htarget⟩ := Runtime.mem_targetsIn.mp hkey
  exact Runtime.mem_targetsIn.mpr ⟨consumer, hx.dirty.subset hconsumer, hof, htarget⟩

theorem Agrees.phases {p : Platform} {owner : Int32 → Int32} {keys : List Int} {ids : List Int32}
    {followed : FollowedRows} {held : HeldState} {out : SectionedVisualFrame} {e : Emission}
    (h : Agrees p owner keys ids followed held out e) {x : UpdateContext} {phases : DomainPhases}
    {d : Definitions} {now : ℚ} {layout : UniverseLayout} (hx : x.In p d now layout)
    (hlayout : ReplayLayout owner keys ids layout) (hphases : x.Phases held out phases)
    : Agrees p owner keys ids followed (x.next held phases) phases.shutters.2
        (e.append (x.emission held phases)) := by
  constructor
  . obtain ⟨s, hwheels⟩ := hphases.wheels
    have hagrees : Answers (fun update => WheelsAgree keys owner update.states
          (KeyedLog.fold (KeyedLog.fold followed.wheels (wheelLog e.rows)) (wheelLog update.rows)))
        (x.sources.updateWheels x.layout.wheels x.definitions.palettes held.wheels
          phases.colors.dirtyWheels) := by
      apply answers_updateWheels
      . intro update physicalKey hupdate
        exact hupdate.clear
      . intro update physicalKey binding next hcontrols hupdate
        rw [hx.layout] at hcontrols
        obtain ⟨hkey, hmem, howner⟩ := hlayout.wheels physicalKey binding hcontrols
        exact hupdate.merge hkey hmem howner
      . exact h.wheels
    have hother : wheelLog phases.properties.rows = [] := by
      obtain ⟨t, hproperties⟩ := hphases.properties
      rw [hproperties]
      exact wheelLog_of_others _ (answers_rows_updateProperties.of t)
    have hresult := hagrees.of s
    rw [← hwheels] at hresult
    have hlog : wheelLog (e.append (x.emission held phases)).rows
        = wheelLog e.rows ++ wheelLog phases.wheels.rows := by
      simp only [Emission.append, UpdateContext.emission, wheelLog_append, hother,
        List.nil_append]
      rw [wheelLog_of_others (x.composed held phases).2 rows_composeColors,
        wheelLog_of_others (x.transforms phases).2 rows_mergeTransforms,
        List.append_nil, List.append_nil]
    rw [hlog, KeyedLog.fold_append]
    exact hresult
  . obtain ⟨s, hshutters⟩ := hphases.shutters
    have hagrees : Answers (ShuttersAgree p ids followed.shutters)
        (x.sources.evaluateShutters x.layout.shutters x.now held.shutters out
          (targetsIn .shutter x.dirty)) := by
      apply answers_evaluateShutters
      . intro key _ held frame unsupportedFixtures diagnosed hI
        exact hI.skip _ _ _
      . intro key hkey held frame unsupportedFixtures diagnosed next parameters hI _
        have hid := hlayout.shutters key (hx.mem_targetsIn hkey)
        have hupdate := hI.update hid unsupportedFixtures diagnosed parameters x.now
        rw [← hx.platform] at hupdate ⊢
        exact hupdate
      . exact h.shutters
    have hresult := hagrees.of s
    rw [← hshutters] at hresult
    exact hresult

end Peraviz.Runtime
