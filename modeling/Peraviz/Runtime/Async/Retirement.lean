import Peraviz.Runtime.Async.Handover
import Peraviz.Runtime.Core.Lemmas

/-!
This module contains the runtime core as a session finds it: the input that it holds of its
universes, what submissions and transactions make of it, and what it holds after a retirement.
-/

namespace Peraviz.Runtime

open KeyedLog
open Dmx (RealtimeSubscription RealtimeUniverseMailbox)

/-! ### The input that a core holds -/

def heldUniverse (u : Universe) : Int × List UInt8 :=
  (u.layout.universeId.toInt, u.state.latestFrame)

/-- The universes in the order of their identifiers. -/
def Core.heldUniverses (core : Core) : List (Int × List UInt8) :=
  (core.universes.map heldUniverse).insertionSort (fun a b => a.1 ≤ b.1)

theorem heldUniverse_submitToUniverse {id : Int} {data : List UInt8} (hdata : data ≠ [])
    (hid : (Int32.ofInt id).toInt = id) (u : Universe)
    : heldUniverse (submitToUniverse (Int32.ofInt id) data u)
        = Async.after [(id, data)] (heldUniverse u) := by
  unfold submitToUniverse
  by_cases heq : u.layout.universeId = Int32.ofInt id
  . have hkey : id = u.layout.universeId.toInt := by rw [heq, hid]
    rw [if_pos ⟨heq, hdata⟩]
    simp [heldUniverse, Async.after, ← hkey]
  . have hne : id ≠ u.layout.universeId.toInt := by
      intro hkey
      apply heq
      rw [hkey, Int32.ofInt_toInt]
    rw [if_neg (fun h => heq h.1)]
    simp [heldUniverse, Async.after, valuesOf_of_ne hne]

theorem insertionSort_map_after (log : List (Int × List UInt8)) (helds : List (Int × List UInt8))
    : (helds.map (Async.after log)).insertionSort (fun a b => a.1 ≤ b.1)
        = (helds.insertionSort (fun a b => a.1 ≤ b.1)).map (Async.after log) := by
  symm
  apply List.map_insertionSort
  intro a _ b _
  exact Iff.rfl

theorem heldUniverses_submit {core : Core} {id : Int} {data : List UInt8} (hdata : data ≠ [])
    (hid : (Int32.ofInt id).toInt = id)
    : (submitUniverseFrame core (Int32.ofInt id) data).heldUniverses
        = core.heldUniverses.map (Async.after [(id, data)]) := by
  unfold Core.heldUniverses submitUniverseFrame
  rw [← insertionSort_map_after, List.map_map, List.map_map]
  congr 1
  apply List.map_congr_left
  intro u _
  exact heldUniverse_submitToUniverse hdata hid u

theorem heldUniverses_other {core : Core} {id : Int} {data : List UInt8}
    (hid : (Int32.ofInt id).toInt ≠ id)
    : core.heldUniverses = core.heldUniverses.map (Async.after [(id, data)]) := by
  have hsame (held : Int × List UInt8) (hheld : held ∈ core.heldUniverses)
      : Async.after [(id, data)] held = held := by
    obtain ⟨u, _, rfl⟩ := List.mem_map.mp ((List.perm_insertionSort _ _).mem_iff.mp hheld)
    have hne : id ≠ u.layout.universeId.toInt := by
      intro hkey
      apply hid
      rw [hkey, Int32.ofInt_toInt]
    simp [heldUniverse, Async.after, valuesOf_of_ne hne]
  rw [List.map_congr_left hsame, List.map_id']

variable {p : Platform}

theorem heldUniverse_consumeUniverse (d : Definitions) (now : ℚ) (c : ConsumeState) (u : Universe)
    : heldUniverse (consumeUniverse p d now c u).2 = heldUniverse u := by
  unfold consumeUniverse
  split
  . rfl
  . dsimp only
    split
    . rfl
    . unfold runDomains
      generalize updateDomains p d _ none now _ _ _ _ _ = result
      rfl

theorem heldUniverse_updateAll (d : Definitions) (now : ℚ) (c : ConsumeState) (us : List Universe)
    : (updateAll (consumeUniverse p d now) c us).2.map heldUniverse = us.map heldUniverse := by
  induction us generalizing c with
  | nil => rfl
  | cons u us ih =>
    simp only [updateAll, List.map_cons]
    rw [ih, heldUniverse_consumeUniverse]

theorem heldUniverses_consume (core : Core) (now : ℚ)
    : (consumeLatestVisualFrame p core now).1.heldUniverses = core.heldUniverses := by
  unfold Core.heldUniverses consumeLatestVisualFrame Core.finish
  rw [heldUniverse_updateAll]

/-! ### The core of a session -/

/-- A core with the presentation that its frames go to. -/
structure Presented (π : Type) where
  core : Core
  presentation : π
  distinct : (core.layouts.map UniverseLayout.universeId).Nodup

namespace Presented

variable {π σ : Type}

theorem distinct_step {core : Core}
    (h : (core.layouts.map UniverseLayout.universeId).Nodup) (operation : Operation)
    : ((core.step p operation).1.layouts.map UniverseLayout.universeId).Nodup := by
  rw [(step_layouts core operation).2]
  exact h

def submit (c : Presented π) (id : Int) (data : List UInt8) : Presented π :=
  if (Int32.ofInt id).toInt = id then
    { c with
      core := submitUniverseFrame c.core (Int32.ofInt id) data
      distinct := distinct_step (p := exactPlatform) c.distinct (.submit (Int32.ofInt id) data)
    }
  else
    c

/-- The transaction of the pipeline, `compose` is its part outside of the core. -/
def consume (p : Platform) (now : π → ℚ) (compose : π → SectionedVisualFrame → Option (π × σ))
    (c : Presented π) : Option (Presented π × σ) :=
  (compose c.presentation (consumeLatestVisualFrame p c.core (now c.presentation)).2).map
    (fun result => (⟨(consumeLatestVisualFrame p c.core (now c.presentation)).1, result.1,
      distinct_step c.distinct (.consume (now c.presentation))⟩, result.2))

theorem nodup_heldUniverses (c : Presented π) : (c.core.heldUniverses.map Prod.fst).Nodup := by
  have hperm : (c.core.heldUniverses.map Prod.fst).Perm
      ((c.core.layouts.map UniverseLayout.universeId).map Int32.toInt) := by
    unfold Core.layouts
    rw [List.map_map, List.map_map]
    have hsorted := (List.perm_insertionSort (fun a b => a.1 ≤ b.1)
      (c.core.universes.map heldUniverse)).map Prod.fst
    rw [List.map_map] at hsorted
    exact hsorted
  rw [hperm.nodup_iff]
  apply c.distinct.map
  intro a b hab
  exact Int32.toInt_inj.mp hab

def pipelineCore (p : Platform) (now : π → ℚ)
    (compose : π → SectionedVisualFrame → Option (π × σ))
    : Presentation.Core (Presented π) σ where
  heldUniverses c := c.core.heldUniverses
  submitUniverseFrame := submit
  consume := consume p now compose
  schemaGeneration c := c.core.schema.schemaGeneration
  nodup_heldUniverses := nodup_heldUniverses

theorem lawful (p : Platform) (now : π → ℚ)
    (compose : π → SectionedVisualFrame → Option (π × σ))
    : Async.Lawful (pipelineCore p now compose) := by
  constructor
  . intro c id data hdata
    change (submit c id data).core.heldUniverses = c.core.heldUniverses.map _
    unfold submit
    split
    next hid => exact heldUniverses_submit hdata hid
    next hid => exact heldUniverses_other hid
  . intro c id data
    change (submit c id data).core.schema.schemaGeneration = _
    unfold submit
    split
    . rfl
    . rfl
  . intro c c' content hconsume
    obtain ⟨result, _, heq⟩ := Option.map_eq_some_iff.mp hconsume
    cases heq
    exact ⟨heldUniverses_consume c.core _, rfl⟩

end Presented

/-! ### After a retirement -/

/-- The last state of a universe that was taken, or what the universe held before. -/
def lastTaken (log : List (Int × List UInt8)) (held : Int × List UInt8) : Int × List UInt8 :=
  (held.1, (valuesOf held.1 log).getLast?.getD held.2)

theorem after_eq_lastTaken {log : List (Int × List UInt8)}
    (h : ∀ state ∈ log, state.2.length ≤ 512) (held : Int × List UInt8)
    : Async.after log held = lastTaken log held := by
  unfold Async.after lastTaken
  cases hlast : (valuesOf held.1 log).getLast? with
  | none => rfl
  | some data =>
    obtain ⟨state, hstate, rfl⟩ := List.mem_map.mp (List.mem_of_getLast? hlast)
    have htake := List.take_of_length_le (h state (List.mem_filter.mp hstate).1)
    rw [Option.map_some, htake]

theorem length_of_mem_taken {γ σ : Type} {trace : List (Async.Event γ × Async.Output σ)}
    : ∀ state ∈ Async.taken trace, state.2.length ≤ 512 := by
  intro state hstate
  obtain ⟨⟨event, out⟩, _, hout⟩ := List.mem_flatMap.mp hstate
  cases out with
  | took frames =>
    obtain ⟨frame, _, rfl⟩ := List.mem_map.mp hout
    exact Async.length_payload frame
  | _ => cases hout

variable {p : Platform} {π σ : Type}

/--
In a run in which every state that is pumped has a byte and finds no failed session, the core holds
the last state of every universe once no session is attached and no call is under way.
-/
theorem run_lastTaken (now : π → ℚ) (compose : π → SectionedVisualFrame → Option (π × σ))
    (mailbox : RealtimeUniverseMailbox) (c : Presented π)
    {events : List (Async.Event (Presented π))}
    (hsteady : (Async.machine (Presented.pipelineCore p now compose) mailbox c).StepsMeet
      Async.Steady (Async.machine (Presented.pipelineCore p now compose) mailbox c).init events)
    (hbound : (Async.taken ((Async.machine (Presented.pipelineCore p now compose) mailbox c).trace
      (Async.machine (Presented.pipelineCore p now compose) mailbox c).init events)).length
        < 2 ^ 64)
    : let M := Async.machine (Presented.pipelineCore p now compose) mailbox c
      (M.run M.init events).session = none → (M.run M.init events).pump = .idle
        → (M.run M.init events).core.core.heldUniverses
          = c.core.heldUniverses.map (lastTaken (Async.taken (M.trace M.init events))) := by
  intro M hsession hpump
  have hhands := Async.run_hands (Presented.lawful p now compose) mailbox c hsteady hbound
  obtain ⟨done, hdone, hheld⟩ := hhands.core hsession
  rw [hpump] at hdone
  change done ++ [] = _ at hdone
  rw [List.append_nil] at hdone
  rw [hdone] at hheld
  apply hheld.trans
  apply List.map_congr_left
  intro held _
  exact after_eq_lastTaken length_of_mem_taken held

/-! ### A session that has failed -/

def oneUniverse : CompiledRuntimeScene where
  sourcePrograms := [{ programId := 1, sources := [⟨0, 0, 0⟩] }]
  colorTargets := [{
    colorTargetId := 1
    fixtureId := 1
    beamRenderTargetId := 1
    inputs := [{ sourceProgramId := 1, semantic := .listed .colorAddRed }]
  }]

def presentedUniverse : Presented Unit where
  core := installedCore exactPlatform 1 oneUniverse
  presentation := ()
  distinct := by decide +kernel

/-- The runtime of one universe whose session accepts every frame. -/
def oneRuntime : Machine (Async.VisualRuntime (Presented Unit) Unit)
    (Async.Event (Presented Unit)) (Async.Output Unit) :=
  Async.machine
    (Presented.pipelineCore exactPlatform (fun _ => 0) (fun presentation _ =>
      some (presentation, ())))
    (RealtimeUniverseMailbox.init.setSubscription (some (RealtimeSubscription.build [(0, [0])])))
    presentedUniverse

/-- A packet arrives, is pumped, and its session is retired. -/
def pumpAndRetire : List (Async.Event (Presented Unit)) :=
  [.publish 0 (some [5]) 1 0 0, .pumpMailbox none, .main, .main, .main, .main, .retireAsync,
    .coordinator, .main, .main, .main]

theorem run_lastTaken_oneRuntime
    : (oneRuntime.run oneRuntime.init (.attachAsync :: pumpAndRetire)).core.core.heldUniverses
        = presentedUniverse.core.heldUniverses.map
          (lastTaken (Async.taken (oneRuntime.trace oneRuntime.init
            (.attachAsync :: pumpAndRetire)))) := by
  apply run_lastTaken
  . decide +kernel
  . decide +kernel
  . rw [← Option.isNone_iff_eq_none]
    decide +kernel
  . apply Async.pump_of_idle
    decide +kernel

/-- The coordinator fails in front of the pump, the state is taken and reaches nobody. -/
theorem exists_lost_state
    : let r := oneRuntime.run oneRuntime.init
        (.attachAsync :: .fail presentedUniverse :: pumpAndRetire)
      r.Idle ∧ r.session.isNone = true ∧ r.core.core.heldUniverses = [(0, [])]
        ∧ Async.taken (oneRuntime.trace oneRuntime.init
          (.attachAsync :: .fail presentedUniverse :: pumpAndRetire)) = [(0, [5])] := by
  decide +kernel

end Peraviz.Runtime
