import Peraviz.Runtime.Motion.Universe
import Peraviz.Runtime.Replay.Agreement

/-!
This module contains the motions over the runs of a runtime: what is published of a layer goes on
from where it was at every consume, and does what the newest DMX of its universe asks for.
-/

namespace Peraviz.Runtime

/-- The newest DMX of a universe, and what was the newest at the last consume. -/
structure UniverseInput where
  received : List UInt8 := []
  evaluated : List UInt8 := []

def UniverseInput.next (id : Int32) (input : UniverseInput) : Operation → UniverseInput
  | .submit universeId data =>
    if id = universeId ∧ data ≠ [] then { input with received := data.take 512 } else input
  | .consume _ => { input with evaluated := input.received }

def universeInput (id : Int32) (past : List Operation) : UniverseInput :=
  past.foldl (UniverseInput.next id) {}

def consumeTimes (operations : List Operation) : List ℚ :=
  operations.filterMap (fun operation =>
    match operation with
    | .submit _ _ => none
    | .consume now => some now)

/-- The runtime with the last row of every layer among all that were put out. -/
def motionRuntime (p : Platform) (core : Core)
    : Machine (Core × (Int → Option GoboRotationRow)) Operation (Option SectionedVisualFrame) where
  init := (core, fun _ => none)
  step := fun s operation =>
    (((s.1.step p operation).1,
      match operation with
      | .submit _ _ => s.2
      | .consume now =>
        KeyedLog.fold s.2 (keyedRotations (s.1.consumed p now).emission.goboRotationRows)),
      (s.1.step p operation).2)

def publishedMotion (p : Platform) (core : Core) (layer : Int) (past : List Operation)
    : Option GoboRotationRow :=
  ((motionRuntime p core).run (core, fun _ => none) past).2 layer

/-- A layer with a binding, all of them in one universe. -/
def InstalledTables.LayerIn (t : InstalledTables) (u : Int32) (layer : Int) : Prop :=
  (∃ x ∈ t.motions, x.entry.binding.layer = layer)
    ∧ ∀ x ∈ t.motions, x.entry.binding.layer = layer → x.universeId = u

variable {p : Platform} {d : Definitions} {now : ℚ}

/-! ### One universe -/

/-- A universe that has received and processed an input. -/
structure Universe.Has (p : Platform) (input : UniverseInput) (u : Universe) : Prop where
  layout : u.layout.Moves
  current : u.state.Current p u.layout input.evaluated
  received : u.state.latestFrame = input.received
  idle : u.state.hasPendingFrame = false → input.evaluated = input.received

namespace Universe.Has

variable {input : UniverseInput} {u : Universe}

theorem submit (h : u.Has p input) (universeId : Int32) (data : List UInt8)
    : (submitToUniverse universeId data u).Has p
        (input.next u.layout.universeId (.submit universeId data)) := by
  unfold submitToUniverse UniverseInput.next
  dsimp only
  split
  next hdata =>
    refine ⟨h.layout, ?_, rfl, fun hfalse => by cases hfalse⟩
    exact {
      relevant := ⟨h.current.relevant.values, h.current.relevant.fresh⟩
      coherent := h.current.coherent
      evaluated := h.current.evaluated
      received := by simp
      has := h.current.has
      pending := fun _ => by simpa using hdata.2
    }
  next => exact h

theorem processedFrame_eq (h : u.Has p input) : processedFrame u input.evaluated = input.received := by
  unfold processedFrame
  cases hpending : u.state.hasPendingFrame with
  | false => exact h.idle hpending
  | true => exact h.received

theorem moves (h : u.Has p input) (c : ConsumeState)
    : ∃ keys, MovesTo p now u.layout input.evaluated input.received c
        (consumeUniverse p d now c u).1 keys := by
  rw [← h.processedFrame_eq]
  exact (consumeUniverse_motions h.layout h.current c).1

theorem consume (h : u.Has p input) (c : ConsumeState)
    : (consumeUniverse p d now c u).2.Has p (input.next u.layout.universeId (.consume now)) := by
  obtain ⟨_, hcurrent, hreceived, _⟩ := @consumeUniverse_motions p d now _ u h.layout h.current c
  rw [h.processedFrame_eq] at hcurrent
  constructor
  . rw [layout_consumeUniverse]
    exact h.layout
  . rw [layout_consumeUniverse]
    exact hcurrent
  . exact hreceived.trans h.received
  . intro _
    rfl

end Universe.Has

/-! ### One layer -/

/-- A layer does what its scan asks for, unless it never had a byte to be visited for. -/
def UniverseLayout.Holds (layout : UniverseLayout) (p : Platform) (frame : List UInt8)
    (layer : Int) (s : GoboRotationState) (now : ℚ) : Prop :=
  frame ≠ [] ∧ (layout.scan p frame layer).Tracks s now
    ∨ s = {} ∧ (frame = [] ∨ ¬ layout.ReadsSlot layer)

/-- An update goes on from where a motion was, unless one of its two exceptions is met. -/
def Continues (old new : MotionScan) (s s' : GoboRotationState) (now : ℚ) : Prop :=
  s.initialized = true → s'.initialized = true
    ∧ (s'.motionAt now = s.motionAt now
      ∨ new.selectedPos ≠ old.selectedPos
      ∨ s.mode ≠ .indexed ∧ s'.mode = .indexed)

/-- The held motions and the rows put out so far, in the course of a consume. -/
structure ConsumeState.Moving (c : ConsumeState) (last : Int → Option GoboRotationRow) (now : ℚ)
    : Prop where
  valid : ∀ layer, (c.held.gobos.rotationStateByLayer layer).Valid now
  published : ∀ layer,
    Published (KeyedLog.fold last (keyedRotations c.emission.goboRotationRows) layer)
      (c.held.gobos.rotationStateByLayer layer)

section Layer

variable {layout : UniverseLayout} {frame next : List UInt8} {c c' : ConsumeState}
  {keys : List Int} {layer : Int} {last : Int → Option GoboRotationRow}

theorem UniverseLayout.Holds.valid {s : GoboRotationState} (h : layout.Holds p frame layer s now)
    : s.Valid now := by
  cases h with
  | inl h => exact h.2.valid
  | inr h =>
    rw [h.1]
    exact GoboRotationState.valid_fresh now

theorem UniverseLayout.Holds.mono {s : GoboRotationState} {later : ℚ}
    (h : layout.Holds p frame layer s now) (hlater : now ≤ later)
    : layout.Holds p frame layer s later := by
  cases h with
  | inl h => exact Or.inl ⟨h.1, h.2.mono hlater⟩
  | inr h => exact Or.inr h

theorem MovesTo.state (h : MovesTo p now layout frame next c c' keys)
    (hexact : ∀ x, p.toFloat x = x) (hvalid : (c.held.gobos.rotationStateByLayer layer).Valid now)
    : c'.held.gobos.rotationStateByLayer layer
        = if layer ∈ keys then
            nextRotation p (c.held.gobos.rotationStateByLayer layer) (layout.scan p next layer) now
          else
            c.held.gobos.rotationStateByLayer layer := by
  rw [h.states]
  exact @fst_foldl_stepMotion ⟨p, next, layout.plan⟩ layout.gobos now layer
    (c.held.gobos.rotationStateByLayer, []) hexact keys hvalid

theorem MovesTo.other (h : MovesTo p now layout frame next c c' keys)
    (hexact : ∀ x, p.toFloat x = x) (hvalid : (c.held.gobos.rotationStateByLayer layer).Valid now)
    (hother : ¬ ∃ motion ∈ layout.gobos.motionBindings, motion.binding.layer = layer)
    : c'.held.gobos.rotationStateByLayer layer = c.held.gobos.rotationStateByLayer layer := by
  rw [h.state hexact hvalid, if_neg]
  intro hkey
  exact hother (h.known layer hkey)

theorem MovesTo.moving (h : MovesTo p now layout frame next c c' keys)
    (hexact : ∀ x, p.toFloat x = x) (hlayout : layout.Moves) (hc : c.Moving last now)
    : c'.Moving last now := by
  constructor
  . intro layer
    rw [h.state hexact (hc.valid layer)]
    split
    . exact (tracks_nextRotation hexact (hc.valid layer)).valid
    . exact hc.valid layer
  . intro layer
    rw [h.rows, h.states]
    have hpublished := @foldl_stepMotion_published ⟨p, next, layout.plan⟩ layout.gobos now layer
      (KeyedLog.fold last (keyedRotations c.emission.goboRotationRows))
      (c.held.gobos.rotationStateByLayer, []) hexact hlayout.laidOut keys h.known hc.valid
      (hc.published layer)
    rw [keyedRotations, List.map_append, KeyedLog.fold_append]
    exact hpublished

-- A consume of the universe of a layer keeps it doing what is asked for, from where it was.
theorem MovesTo.holds (h : MovesTo p now layout frame next c c' keys)
    (hexact : ∀ x, p.toFloat x = x)
    (hholds : layout.Holds p frame layer (c.held.gobos.rotationStateByLayer layer) now)
    : layout.Holds p next layer (c'.held.gobos.rotationStateByLayer layer) now
        ∧ Continues (layout.scan p frame layer) (layout.scan p next layer)
          (c.held.gobos.rotationStateByLayer layer) (c'.held.gobos.rotationStateByLayer layer)
          now := by
  rw [h.state hexact hholds.valid]
  split
  next hkey =>
    have hnext := h.visited (List.ne_nil_of_mem hkey)
    refine ⟨Or.inl ⟨hnext, tracks_nextRotation hexact hholds.valid⟩, ?_⟩
    intro hinit
    cases hholds with
    | inl htracks =>
      exact ⟨initialized_nextRotation htracks.2.valid hinit, motionAt_nextRotation hexact htracks.2⟩
    | inr hfresh =>
      rw [hfresh.1] at hinit
      cases hinit
  next hskipped =>
    refine ⟨?_, fun hinit => ⟨hinit, Or.inl rfl⟩⟩
    cases hholds with
    | inl htracks =>
      rw [UniverseLayout.Holds, h.skipped layer hskipped htracks.1]
      exact Or.inl ⟨h.kept htracks.1, htracks.2⟩
    | inr hfresh =>
      refine Or.inr ⟨hfresh.1, ?_⟩
      by_cases hframe : frame = []
      . by_cases hnext : next = []
        . exact Or.inl hnext
        . exact Or.inr (h.untouched layer hskipped hframe hnext)
      . exact Or.inr (hfresh.2.resolve_left hframe)

end Layer

/-! ### One consume -/

/-- Whether a universe has a binding of the layer. -/
def Universe.Moves (u : Universe) (layer : Int) : Prop :=
  ∃ motion ∈ u.layout.gobos.motionBindings, motion.binding.layer = layer

section Consume

variable {inputs : Int32 → UniverseInput} {us : List Universe} {c : ConsumeState} {layer : Int}
  {last : Int → Option GoboRotationRow}

theorem updateAll_has (h : ∀ u ∈ us, u.Has p (inputs u.layout.universeId))
    : ∀ u ∈ (updateAll (consumeUniverse p d now) c us).2,
        u.Has p ((inputs u.layout.universeId).next u.layout.universeId (.consume now)) := by
  induction us generalizing c with
  | nil => simp [updateAll]
  | cons u us ih =>
    rw [updateAll]
    intro v hv
    rcases List.mem_cons.mp hv with heq | hv
    . have hnext := @Universe.Has.consume p d now _ u (h u List.mem_cons_self) c
      rw [heq, layout_consumeUniverse]
      exact hnext
    . exact ih (fun w hw => h w (List.mem_cons_of_mem u hw)) v hv

theorem consumeUniverse_moving (hexact : ∀ x, p.toFloat x = x) {u : Universe}
    {input : UniverseInput} (hu : u.Has p input) (hc : c.Moving last now)
    : (consumeUniverse p d now c u).1.Moving last now := by
  obtain ⟨keys, hmoves⟩ := @Universe.Has.moves p d now input u hu c
  exact hmoves.moving hexact hu.layout hc

theorem updateAll_moving (hexact : ∀ x, p.toFloat x = x)
    (h : ∀ u ∈ us, u.Has p (inputs u.layout.universeId)) (hc : c.Moving last now)
    : (updateAll (consumeUniverse p d now) c us).1.Moving last now := by
  induction us generalizing c with
  | nil => exact hc
  | cons u us ih =>
    apply ih (fun w hw => h w (List.mem_cons_of_mem u hw))
    exact consumeUniverse_moving hexact (h u List.mem_cons_self) hc

theorem updateAll_other (hexact : ∀ x, p.toFloat x = x)
    (h : ∀ u ∈ us, u.Has p (inputs u.layout.universeId)) (hc : c.Moving last now)
    (hother : ∀ u ∈ us, ¬ u.Moves layer)
    : (updateAll (consumeUniverse p d now) c us).1.held.gobos.rotationStateByLayer layer
        = c.held.gobos.rotationStateByLayer layer := by
  induction us generalizing c with
  | nil => rfl
  | cons u us ih =>
    have hu := h u List.mem_cons_self
    obtain ⟨keys, hmoves⟩ := @Universe.Has.moves p d now _ u hu c
    apply (ih (fun w hw => h w (List.mem_cons_of_mem u hw))
      (consumeUniverse_moving hexact hu hc)
      (fun w hw => hother w (List.mem_cons_of_mem u hw))).trans
    exact hmoves.other hexact (hc.valid layer) (hother u List.mem_cons_self)

theorem updateAll_holds (hexact : ∀ x, p.toFloat x = x) {u : Universe} (hu : u ∈ us)
    (h : ∀ u ∈ us, u.Has p (inputs u.layout.universeId))
    (hnodup : (us.map (fun u => u.layout.universeId)).Nodup)
    (hone : ∀ v ∈ us, v.Moves layer → v.layout.universeId = u.layout.universeId)
    (hc : c.Moving last now)
    (hholds : u.layout.Holds p (inputs u.layout.universeId).evaluated layer
      (c.held.gobos.rotationStateByLayer layer) now)
    : let s := c.held.gobos.rotationStateByLayer layer
      let s' := (updateAll (consumeUniverse p d now) c us).1.held.gobos.rotationStateByLayer layer
      u.layout.Holds p (inputs u.layout.universeId).received layer s' now
        ∧ Continues (u.layout.scan p (inputs u.layout.universeId).evaluated layer)
          (u.layout.scan p (inputs u.layout.universeId).received layer) s s' now := by
  induction us generalizing c with
  | nil => cases hu
  | cons first us ih =>
    have hfirst := h first List.mem_cons_self
    have hrest : ∀ w ∈ us, w.Has p (inputs w.layout.universeId) :=
      fun w hw => h w (List.mem_cons_of_mem first hw)
    obtain ⟨keys, hmoves⟩ := @Universe.Has.moves p d now _ first hfirst c
    have hmoving := hmoves.moving hexact hfirst.layout hc
    rw [List.map_cons, List.nodup_cons] at hnodup
    intro s s'
    rcases List.mem_cons.mp hu with rfl | hmem
    . have hsame : s' = (consumeUniverse p d now c u).1.held.gobos.rotationStateByLayer layer := by
        apply updateAll_other hexact hrest hmoving
        intro v hv hlayer
        apply hnodup.1
        rw [← hone v (List.mem_cons_of_mem u hv) hlayer]
        exact List.mem_map_of_mem hv
      rw [hsame]
      exact hmoves.holds hexact hholds
    . have hsame : (consumeUniverse p d now c first).1.held.gobos.rotationStateByLayer layer
          = s := by
        apply hmoves.other hexact (hc.valid layer)
        intro hlayer
        apply hnodup.1
        rw [hone first List.mem_cons_self hlayer]
        exact List.mem_map_of_mem hmem
      have hnext := ih hmem hrest hnodup.2 (fun v hv => hone v (List.mem_cons_of_mem first hv))
        hmoving (by rw [hsame]; exact hholds)
      rw [hsame] at hnext
      exact hnext

end Consume

end Peraviz.Runtime
