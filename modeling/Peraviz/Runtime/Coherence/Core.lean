import Peraviz.Runtime.Coherence.Cache
import Peraviz.Runtime.Core.Lemmas

/-!
This module contains the coherence of the caches of a runtime over every history of submissions and
consumes, and what follows from it: a runtime that forgets what it has cached puts out the same.
-/

namespace Peraviz.Runtime

/-! ### The layouts of an installation -/

section Layout

variable {t : InstalledTables} {u : Int32}

theorem covered_sourceIndex (h : t.Resolved) {id : Int32} (hid : id ∈ t.readIds u)
    : (universeLayout t u).Covered (sourceIndex (t.planPrograms u) id) := by
  obtain ⟨program, hprogram, hget⟩ := h.sourceIndex hid
  intro byte hbyte
  rw [program_universeLayout hget] at hbyte
  exact mem_interestOffsets.mpr ⟨id, hid, program, hprogram, byte, hbyte, rfl⟩

theorem within_evaluationContext (h : t.Resolved) {ids : List Int32} (hne : ids ≠ [])
    (hids : ∀ id ∈ ids, id ∈ t.readIds u)
    : (evaluationContext t.programs (t.planPrograms u) ids).Within
        (universeLayout t u).Covered := by
  constructor
  . cases ids with
    | nil => exact absurd rfl hne
    | cons id ids =>
      rw [front_evaluationContext]
      exact covered_sourceIndex h (hids id List.mem_cons_self)
  . intro source hsource
    obtain ⟨id, hid, rfl⟩ := List.mem_map.mp hsource
    exact covered_sourceIndex h (hids id hid)

theorem within_universeLayout (h : t.Resolved)
    : (universeLayout t u).Within (universeLayout t u).Covered := by
  constructor
  . intro program hprogram source hsource
    obtain ⟨property, hproperty, rfl⟩ := List.mem_map.mp hprogram
    obtain ⟨contributor, hcontributor, rfl⟩ := List.mem_map.mp hsource
    apply covered_sourceIndex h
    simp only [InstalledTables.readIds, List.mem_append, List.mem_flatMap, List.mem_map]
    exact Or.inl (Or.inl (Or.inl (Or.inl (Or.inl
      ⟨property, hproperty, contributor, hcontributor, rfl⟩))))
  . intro target htarget input hinput
    obtain ⟨compiled, hcompiled, rfl⟩ := List.mem_map.mp htarget
    obtain ⟨binding, hbinding, rfl⟩ := List.mem_map.mp hinput
    dsimp only
    apply covered_sourceIndex h
    simp only [InstalledTables.readIds, List.mem_append, List.mem_flatMap, List.mem_map]
    exact Or.inl (Or.inl (Or.inl (Or.inl (Or.inr ⟨compiled, hcompiled, binding, hbinding, rfl⟩))))
  . intro wheel hwheel
    obtain ⟨binding, hbinding, rfl⟩ := List.mem_map.mp hwheel
    dsimp only
    apply covered_sourceIndex h
    simp only [InstalledTables.readIds, List.mem_append, List.mem_map]
    exact Or.inl (Or.inl (Or.inl (Or.inr ⟨binding, hbinding, rfl⟩)))
  . intro gobo hgobo
    obtain ⟨binding, hbinding, rfl⟩ := List.mem_map.mp hgobo
    obtain ⟨x, hx, _, rfl⟩ := mem_ofUniverse.mp hbinding
    apply within_evaluationContext h (h.gobos x hx).1
    intro id hid
    simp only [InstalledTables.readIds, List.mem_append, List.mem_flatMap]
    exact Or.inl (Or.inl (Or.inr ⟨x.entry, hbinding, hid⟩))
  . intro motion hmotion
    obtain ⟨binding, hbinding, rfl⟩ := List.mem_map.mp hmotion
    obtain ⟨x, hx, _, rfl⟩ := mem_ofUniverse.mp hbinding
    apply within_evaluationContext h (h.motions x hx).1
    intro id hid
    simp only [InstalledTables.readIds, List.mem_append, List.mem_flatMap]
    exact Or.inl (Or.inr ⟨x.entry, hbinding, hid⟩)
  . intro shutter hshutter
    obtain ⟨entry, hentry, rfl⟩ := List.mem_map.mp hshutter
    obtain ⟨x, hx, _, rfl⟩ := mem_ofUniverse.mp hentry
    apply within_evaluationContext h (h.shutters x hx).1
    intro id hid
    simp only [InstalledTables.readIds, List.mem_append, List.mem_flatMap]
    exact Or.inr ⟨x.entry, hentry, hid⟩

/-- Every byte of the programs of a scene is a slot of its universe. -/
def AddressesInRange (scene : CompiledRuntimeScene) : Prop :=
  ∀ program ∈ scene.sourcePrograms, ∀ byte ∈ program.sources,
    0 ≤ byte.address ∧ byte.address < 512

theorem sound_universeLayout {p : Platform} {scene : CompiledRuntimeScene}
    (haddresses : AddressesInRange scene) (u : Int32)
    : (universeLayout (installTables p scene) u).Sound := by
  refine ⟨within_universeLayout (resolved_installTables p scene), ?_⟩
  intro offset hoffset
  obtain ⟨byte, hbyte, rfl⟩ := List.mem_map.mp (mem_sortUnique.mp hoffset)
  obtain ⟨program, hprogram, hmem⟩ := List.mem_flatMap.mp hbyte
  obtain ⟨id, _, hid⟩ := List.mem_filterMap.mp hprogram
  obtain ⟨_, original, horiginal, rfl⟩ := mem_installPrograms (program?_eq_some hid).1
  exact haddresses original horiginal byte (mem_sources_sortSources.mp hmem)

end Layout

/-! ### Two runtimes that differ in what they have cached -/

variable {p : Platform}

/-- The universes of two runtimes, one by one, with the frames that were processed last. -/
inductive AllTwins (p : Platform) : List (List UInt8) → List Universe → List Universe → Prop
  | nil : AllTwins p [] [] []
  | cons {frame : List UInt8} {u v : Universe} {frames : List (List UInt8)} {us vs : List Universe}
    (head : UniverseTwins p frame u v) (tail : AllTwins p frames us vs)
    : AllTwins p (frame :: frames) (u :: us) (v :: vs)

theorem AllTwins.consume {frames : List (List UInt8)} {us vs : List Universe}
    (h : AllTwins p frames us vs) {c c' : ConsumeState} (hc : ConsumeTwins c c') (d : Definitions)
    (now : ℚ)
    : ConsumeTwins (updateAll (consumeUniverse p d now) c us).1
          (updateAll (consumeUniverse p d now) c' vs).1
        ∧ AllTwins p (us.zipWith processedFrame frames)
          (updateAll (consumeUniverse p d now) c us).2
          (updateAll (consumeUniverse p d now) c' vs).2 := by
  induction h generalizing c c' with
  | nil => exact ⟨hc, AllTwins.nil⟩
  | cons head tail ih =>
    obtain ⟨hc', htwins⟩ := head.consumeUniverse hc d now
    obtain ⟨hc'', hrest⟩ := ih hc'
    exact ⟨hc'', AllTwins.cons htwins hrest⟩

theorem UniverseTwins.submit {frame : List UInt8} {u v : Universe} (h : UniverseTwins p frame u v)
    (universeId : Int32) (data : List UInt8)
    : UniverseTwins p frame (submitToUniverse universeId data u)
        (submitToUniverse universeId data v) := by
  unfold submitToUniverse
  rw [h.layout]
  split
  . have := h.state
    exact ⟨rfl, h.sound, rfl, rfl, this.lastRelevantValues, this.hasLastRelevantValues,
      this.colorInputs, ⟨this.left.values, this.left.fresh⟩, ⟨this.right.values, this.right.fresh⟩,
      this.caches⟩
  . exact h

theorem AllTwins.submit {frames : List (List UInt8)} {us vs : List Universe}
    (h : AllTwins p frames us vs) (universeId : Int32) (data : List UInt8)
    : AllTwins p frames (us.map (submitToUniverse universeId data))
        (vs.map (submitToUniverse universeId data)) := by
  induction h with
  | nil => exact AllTwins.nil
  | cons head tail ih => exact AllTwins.cons (head.submit universeId data) ih

def Universe.forget (u : Universe) : Universe :=
  { u with state := { u.state with
    workspace := { u.state.workspace with invalid := fun _ => true } } }

def Core.forget (core : Core) : Core :=
  { core with universes := core.universes.map Universe.forget }

theorem UniverseTwins.forget {frame : List UInt8} {u v : Universe} (h : UniverseTwins p frame u v)
    : UniverseTwins p frame u v.forget := by
  have := h.state
  refine ⟨h.layout, h.sound, this.latestFrame, this.hasPendingFrame, this.lastRelevantValues,
    this.hasLastRelevantValues, this.colorInputs, this.left, ⟨this.right.values, fun _ _ => rfl⟩,
    this.caches.left, ⟨?_, this.caches.right.warnings, ?_⟩, ?_⟩
  . intro source hvalid
    cases hvalid
  . exact ⟨this.caches.right.stamped.changed, this.caches.right.stamped.activations⟩
  . have := this.caches.stamps
    exact ⟨this.generation, this.changed, this.consumers, this.activationGenerations,
      this.activations⟩

theorem AllTwins.forget {frames : List (List UInt8)} {us vs : List Universe}
    (h : AllTwins p frames us vs) : AllTwins p frames us (vs.map Universe.forget) := by
  induction h with
  | nil => exact AllTwins.nil
  | cons head tail ih => exact AllTwins.cons head.forget ih

structure CoreTwins (p : Platform) (frames : List (List UInt8)) (core core' : Core) : Prop where
  definitions : core'.definitions = core.definitions
  schema : core'.schema = core.schema
  held : core'.held = core.held
  universes : AllTwins p frames core.universes core'.universes

theorem CoreTwins.forget {frames : List (List UInt8)} {core core' : Core}
    (h : CoreTwins p frames core core') : CoreTwins p frames core core'.forget :=
  ⟨h.definitions, h.schema, h.held, h.universes.forget⟩

/-- The frames that were processed last, after an operation. -/
def Core.processed (core : Core) (frames : List (List UInt8)) : Operation → List (List UInt8)
  | .submit _ _ => frames
  | .consume _ => core.universes.zipWith processedFrame frames

/-- A runtime that evaluates every source anew where it is read in a consume. -/
def Core.fullStep (p : Platform) (core : Core) (operation : Operation)
    : Core × Option SectionedVisualFrame :=
  core.forget.step p operation

theorem CoreTwins.step {frames : List (List UInt8)} {core core' : Core}
    (h : CoreTwins p frames core core') (operation : Operation)
    : (core'.step p operation).2 = (core.step p operation).2
        ∧ CoreTwins p (core.processed frames operation) (core.step p operation).1
          (core'.step p operation).1 := by
  cases operation with
  | submit universeId data =>
    exact ⟨rfl, h.definitions, h.schema, h.held, h.universes.submit universeId data⟩
  | consume now =>
    have hc : ConsumeTwins core.consumeState core'.consumeState :=
      ⟨h.held, by simp only [Core.consumeState, h.schema], rfl⟩
    obtain ⟨hc', huniverses⟩ := h.universes.consume hc core.definitions now
    simp only [Core.step, consumeLatestVisualFrame, Core.finish, Core.processed, h.definitions]
    refine ⟨by rw [hc'.frame, hc'.emission], rfl, h.schema, hc'.held, huniverses⟩

/-! ### Histories -/

/-- The frame that each universe has processed last, after a history from `frames` on. -/
def processedFrames (p : Platform) : Core → List (List UInt8) → List Operation → List (List UInt8)
  | _, frames, [] => frames
  | core, frames, operation :: operations =>
    processedFrames p (core.step p operation).1 (core.processed frames operation) operations

def fullRuntime (p : Platform) (core : Core)
    : Machine Core Operation (Option SectionedVisualFrame) where
  init := core
  step := Core.fullStep p

theorem CoreTwins.run {frames : List (List UInt8)} {core core' : Core}
    (h : CoreTwins p frames core core') (operations : List Operation) (first : Core)
    : (fullRuntime p first).trace core' operations = (runtime p first).trace core operations
        ∧ CoreTwins p (processedFrames p core frames operations)
          ((runtime p first).run core operations)
          ((fullRuntime p first).run core' operations) := by
  induction operations generalizing frames core core' with
  | nil => exact ⟨rfl, h⟩
  | cons operation operations ih =>
    obtain ⟨hout, hstep⟩ := h.forget.step operation
    obtain ⟨htrace, hrun⟩ := ih hstep
    refine ⟨?_, hrun⟩
    simp only [Machine.trace]
    congr 1
    exact congrArg (Prod.mk operation) hout

theorem UniverseTwins.installed {t : InstalledTables} {u : Int32}
    (hsound : (universeLayout t u).Sound)
    : UniverseTwins p [] (t.installUniverse p u) (t.installUniverse p u) := by
  have hcoherent : Coherent ⟨p, [], (universeLayout t u).plan⟩ (universeLayout t u).Covered {} :=
    ⟨by simp, fun _ => rfl, EvaluationWorkspace.Stamped.initial⟩
  refine ⟨rfl, hsound, rfl, rfl, rfl, rfl, rfl, ⟨by simp [InstalledTables.installUniverse], ?_⟩,
    ⟨by simp [InstalledTables.installUniverse], ?_⟩, hcoherent, hcoherent, rfl, rfl, rfl, rfl, rfl⟩
  . intro _ _
    rfl
  . intro _ _
    rfl

theorem AllTwins.installed {t : InstalledTables} (hsound : ∀ u, (universeLayout t u).Sound)
    (ids : List Int32)
    : AllTwins p ((ids.map (t.installUniverse p)).map (fun _ => []))
        (ids.map (t.installUniverse p)) (ids.map (t.installUniverse p)) := by
  induction ids with
  | nil => exact AllTwins.nil
  | cons u ids ih => exact AllTwins.cons (UniverseTwins.installed (hsound u)) ih

theorem CoreTwins.installed {core core' : Core} {scene : CompiledRuntimeScene}
    (haddresses : AddressesInRange scene) (h : installCompiledScene p core scene = some core')
    : CoreTwins p (core'.universes.map (fun _ => [])) core' core' := by
  rw [installCompiledScene_eq_some h]
  exact ⟨rfl, rfl, rfl, AllTwins.installed (sound_universeLayout haddresses) _⟩

/-- Every value of a universe that is not marked invalid is that of its source on the frame. -/
def Universe.CachesOf (p : Platform) (u : Universe) (frame : List UInt8) : Prop :=
  ∀ source, u.state.workspace.invalid source = false →
    u.state.workspace.values source
      = (evaluateSourceProgram p frame (u.layout.plan.program source)).1

theorem AllTwins.cachesOf {frames : List (List UInt8)} {us vs : List Universe}
    (h : AllTwins p frames us vs) : List.Forall₂ (Universe.CachesOf p) us frames := by
  induction h with
  | nil => exact List.Forall₂.nil
  | cons head tail ih =>
    apply List.Forall₂.cons
    . intro source hvalid
      exact (head.state.caches.left.values source hvalid).2
    . exact ih

/--
In every reachable state the values of the sources that are not marked invalid are those of a
decoding of the frame that was processed last, and every consume puts out and holds what it would
if every source that it reads were decoded anew.
-/
theorem run_cachesOf {core core' : Core} {scene : CompiledRuntimeScene}
    (haddresses : AddressesInRange scene) (hinstall : installCompiledScene p core scene = some core')
    (operations : List Operation)
    : List.Forall₂ (Universe.CachesOf p) ((runtime p core').run core' operations).universes
          (processedFrames p core' (core'.universes.map (fun _ => [])) operations)
        ∧ (fullRuntime p core').trace core' operations = (runtime p core').trace core' operations
        ∧ ((fullRuntime p core').run core' operations).held
          = ((runtime p core').run core' operations).held := by
  obtain ⟨htrace, hrun⟩ := (CoreTwins.installed haddresses hinstall).run operations core'
  exact ⟨hrun.universes.cachesOf, htrace, hrun.held⟩

def fineDimmerScene : CompiledRuntimeScene where
  fixtures := [{ fixtureId := 1, universeId := 0, startAddress := 1 }]
  sourcePrograms := [{ programId := 1, semantic := .listed .dimmer, sources := [⟨0, 0, 0⟩, ⟨0, 1, 1⟩] }]
  properties := [{
    propertyId := 1
    fixtureId := 1
    semantic := .listed .dimmer
    contributors := [{ sourceProgramId := 1 }]
  }]

def fineDimmerCore : Core := installedCore exactPlatform 1 fineDimmerScene

-- the second frame is shorter, its missing byte is the one that changes
theorem run_cachesOf_fineDimmer
    : List.Forall₂ (Universe.CachesOf exactPlatform)
        ((runtime exactPlatform fineDimmerCore).run fineDimmerCore
          [.submit 0 [1, 2], .consume 0, .submit 0 [1], .consume 1]).universes
        (processedFrames exactPlatform fineDimmerCore (fineDimmerCore.universes.map (fun _ => []))
          [.submit 0 [1, 2], .consume 0, .submit 0 [1], .consume 1]) :=
  (@run_cachesOf exactPlatform {} fineDimmerCore fineDimmerScene
    (by simp [AddressesInRange, fineDimmerScene]) rfl _).1

end Peraviz.Runtime
