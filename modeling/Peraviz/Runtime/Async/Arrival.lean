import Peraviz.Dmx.Mailbox.Arrival
import Peraviz.Runtime.Async.Retirement

/-!
This module contains the way of a packet through the runtime, from the mailbox to the universe of
the core that reads it, over any number of sessions: the mailbox is a component of the runtime, and
the core holds what the reader of the mailbox was handed last.
-/

namespace Peraviz.Runtime

open Dmx (DmxFrame RealtimeSubscription RealtimeUniverseMailbox kDmxSlotCount)
open Dmx.RealtimeUniverseMailbox (handed handedBy heard lastOf unread unreadAfter)

/-- The offsets that the installed programs read, with their universes as 16 bit values. -/
def Core.realtimeInterestOffsets (core : Core) : List (Nat × List Nat) :=
  core.layouts.map (fun layout => ((layout.universeId.toInt % 65536).toNat,
    (layout.interestOffsets.filter (fun offset => decide (IsSlot offset))).map
      (fun offset => offset.toInt.toNat)))

namespace Async

variable {γ σ : Type}

/-! ### The sections of the mailbox -/

namespace VisualRuntime

def pumpSections (r : VisualRuntime γ σ) : List RealtimeUniverseMailbox.Event :=
  match r.pump with
  | .holding => [.heldStates]
  | .collecting (_ + 1) _ => if r.mailbox.pendingDirtyCount = 0 then [] else [.consumeNext]
  | _ => []

/-- The sections of the mailbox that a step of the runtime runs. -/
def sections (r : VisualRuntime γ σ) (event : Event γ) : List RealtimeUniverseMailbox.Event :=
  match event with
  | .publish universeId data length sequence nowUs =>
    [.publish universeId data length sequence nowUs]
  | .resetSession => [.resetSession]
  | .pumpMailbox (some subscription) =>
    if r.Idle then [.setSubscription (some subscription)] else []
  | .main => r.pumpSections
  | _ => []

end VisualRuntime

def tookFrames : Output σ → List DmxFrame
  | .took frames => frames
  | _ => []

/-- A step leaves the mailbox and its pump. -/
structure Aside (r r' : VisualRuntime γ σ) (out : Output σ) : Prop where
  mailbox : r'.mailbox = r.mailbox
  pump : r'.pump = r.pump
  quiet : tookFrames out = []

namespace Aside

variable {core : Presentation.Core γ σ} {r : VisualRuntime γ σ}

theorem refl (r : VisualRuntime γ σ) : Aside r r .quiet := ⟨rfl, rfl, rfl⟩

theorem inSession (event : Presentation.AsyncPipeline.Event)
    : Aside r (r.inSession core event).1 (r.inSession core event).2 := by
  unfold VisualRuntime.inSession
  split
  . exact .refl r
  . exact ⟨rfl, rfl, rfl⟩

theorem call (event : Presentation.AsyncPipeline.Event)
    : Aside r (r.call core event).1 (r.call core event).2 := by
  unfold VisualRuntime.call
  split
  . exact inSession event
  . exact .refl r

theorem attachAsync : Aside r (if r.Idle then r.attachAsync core else r) .quiet := by
  unfold VisualRuntime.attachAsync
  split
  . split
    . exact .refl r
    . exact ⟨rfl, rfl, rfl⟩
  . exact .refl r

theorem consume
    : Aside r (if r.Idle then r.consume core else (r, .quiet)).1
        (if r.Idle then r.consume core else (r, .quiet)).2 := by
  unfold VisualRuntime.consume
  split
  . split
    . exact .refl r
    . split
      . exact .refl r
      . exact ⟨rfl, rfl, rfl⟩
  . exact .refl r

theorem fail (c : γ) : Aside r (r.fail core c) .quiet := by
  unfold VisualRuntime.fail
  split
  . exact .refl r
  . split
    . exact ⟨rfl, rfl, rfl⟩
    . exact .refl r

theorem stepSession : Aside r (r.stepSession core).1 (r.stepSession core).2 := by
  unfold VisualRuntime.stepSession
  split
  . exact .refl r
  . dsimp only
    split
    . exact ⟨rfl, rfl, rfl⟩
    . exact ⟨rfl, rfl, rfl⟩

end Aside

/-- What the mailbox and its reader see of a step. -/
structure Runs (r r' : VisualRuntime γ σ) (out : Output σ)
    (sections : List RealtimeUniverseMailbox.Event) : Prop where
  mailbox : r'.mailbox = RealtimeUniverseMailbox.machine.run r.mailbox sections
  frames : tookFrames out = handed (RealtimeUniverseMailbox.machine.trace r.mailbox sections)
  unread : ∀ before, (before = true → r.pump = .holding)
    → unread before sections = true → r'.pump = .holding

namespace Runs

variable {core : Presentation.Core γ σ} {r : VisualRuntime γ σ}

theorem of_aside {r' : VisualRuntime γ σ} {out : Output σ} (h : Aside r r' out)
    : Runs r r' out [] := by
  refine ⟨h.mailbox, h.quiet, ?_⟩
  intro before hbefore hunread
  rw [h.pump]
  exact hbefore hunread

theorem collect {left : Nat} {frames : List DmxFrame} (hpump : r.pump = .collecting left frames)
    : Runs r (r.collect left frames).1 (r.collect left frames).2 r.pumpSections := by
  have hbusy (before : Bool) (hbefore : before = true → r.pump = .holding) : before = false := by
    rw [← Bool.not_eq_true]
    intro htrue
    rw [hbefore htrue] at hpump
    contradiction
  unfold VisualRuntime.pumpSections
  rw [hpump]
  unfold VisualRuntime.collect
  cases left with
  | zero =>
    refine ⟨rfl, rfl, ?_⟩
    intro before hbefore hunread
    rw [hbusy before hbefore] at hunread
    contradiction
  | succ left =>
    dsimp only
    split
    . refine ⟨rfl, rfl, ?_⟩
      intro before hbefore hunread
      rw [hbusy before hbefore] at hunread
      contradiction
    . refine ⟨rfl, (List.append_nil _).symm, ?_⟩
      intro before hbefore hunread
      rw [hbusy before hbefore] at hunread
      contradiction

theorem stepMain : Runs r (r.stepMain core).1 (r.stepMain core).2 r.pumpSections := by
  unfold VisualRuntime.stepMain
  split
  next hpump =>
    unfold VisualRuntime.pumpSections
    rw [hpump]
    exact of_aside .stepSession
  next hpump =>
    unfold VisualRuntime.pumpSections
    rw [hpump]
    refine ⟨rfl, (List.append_nil _).symm, ?_⟩
    intro before _ hunread
    contradiction
  next left frames hpump => exact collect hpump
  next hpump =>
    unfold VisualRuntime.pumpSections
    rw [hpump]
    refine ⟨rfl, rfl, ?_⟩
    intro before hbefore hunread
    rw [hbefore hunread] at hpump
    contradiction
  next frame frames hpump =>
    unfold VisualRuntime.pumpSections
    rw [hpump]
    refine ⟨?_, rfl, ?_⟩
    . unfold VisualRuntime.submitNativeFrame
      split
      . rfl
      . rfl
    . intro before hbefore hunread
      rw [hbefore hunread] at hpump
      contradiction

theorem pumpMailbox (install : Option RealtimeSubscription)
    : Runs r (if r.Idle then r.pumpMailbox install else r) .quiet
        (r.sections (.pumpMailbox install)) := by
  cases install with
  | none =>
    split
    next hidle =>
      refine ⟨rfl, rfl, ?_⟩
      intro before hbefore hunread
      have hpump := hbefore hunread
      rw [pump_of_idle hidle] at hpump
      contradiction
    next => exact of_aside (.refl r)
  | some subscription =>
    unfold VisualRuntime.sections
    dsimp only
    split
    next => exact ⟨rfl, rfl, fun _ _ _ => rfl⟩
    next => exact of_aside (.refl r)

theorem step (event : Event γ)
    : Runs r (r.step core event).1 (r.step core event).2 (r.sections event) := by
  cases event with
  | publish universeId data length sequence nowUs => exact ⟨rfl, rfl, fun _ hbefore => hbefore⟩
  | resetSession => exact ⟨rfl, rfl, fun _ hbefore => hbefore⟩
  | pumpMailbox install => exact pumpMailbox install
  | attachAsync => exact of_aside .attachAsync
  | flushInput => exact of_aside (.call _)
  | tryAcquire => exact of_aside (.call _)
  | release bank => exact of_aside (.call _)
  | retireAsync => exact of_aside (.call _)
  | consume => exact of_aside .consume
  | main => exact stepMain
  | coordinator => exact of_aside (.inSession _)
  | fail c => exact of_aside (.fail c)

end Runs

/-! ### Over a run -/

section Run

variable (core : Presentation.Core γ σ) (mailbox : RealtimeUniverseMailbox) (c : γ)

theorem component_mailbox
    : Machine.Component (machine core mailbox c) RealtimeUniverseMailbox.machine
        VisualRuntime.mailbox VisualRuntime.sections :=
  ⟨fun _ event => (Runs.step event).mailbox⟩

theorem taken_eq_map (trace : List (Event γ × Output σ))
    : taken trace = (trace.flatMap (fun entry => tookFrames entry.2)).map stateOf := by
  unfold taken
  rw [List.map_flatMap]
  congr 1
  funext entry
  unfold tookBy tookFrames
  cases entry.2 with
  | took frames => rfl
  | quiet => rfl
  | session out => rfl
  | consumed content => rfl

theorem taken_eq_handed (r : VisualRuntime γ σ) (events : List (Event γ))
    : taken ((machine core mailbox c).trace r events)
      = (handed (RealtimeUniverseMailbox.machine.trace r.mailbox
          ((machine core mailbox c).share VisualRuntime.sections r events))).map stateOf := by
  rw [taken_eq_map]
  congr 1
  apply (component_mailbox core mailbox c).outputs
  intro s event
  exact (Runs.step event).frames

theorem unread_run {r : VisualRuntime γ σ} {before : Bool}
    (hbefore : before = true → r.pump = .holding) (events : List (Event γ))
    : unread before ((machine core mailbox c).share VisualRuntime.sections r events) = true
      → ((machine core mailbox c).run r events).pump = .holding := by
  induction events generalizing r before with
  | nil => exact hbefore
  | cons event events ih =>
    rw [Machine.share, Dmx.RealtimeUniverseMailbox.unread_append, Machine.run_cons]
    apply ih
    exact (Runs.step event).unread before hbefore

end Run

section Configured

variable (core : Presentation.Core γ σ) (past : List RealtimeUniverseMailbox.Event) (c : γ)

/-- A runtime on a mailbox that ran before. -/
abbrev machineAfter : Machine (VisualRuntime γ σ) (Event γ) (Output σ) :=
  machine core (RealtimeUniverseMailbox.machine.run RealtimeUniverseMailbox.machine.init past) c

/-- What was heard until the end of a run, packets in front of the run included. -/
def heardAfter (events : List (Event γ)) : Dmx.RealtimeUniverseMailbox.Observed :=
  heard (past ++ (machineAfter core past c).share VisualRuntime.sections (machineAfter core past c).init
    events)

variable {core past c}

theorem recorded_machineAfter (events : List (Event γ))
    : Dmx.RealtimeUniverseMailbox.Recorded (heardAfter core past c events)
        ((machineAfter core past c).run (machineAfter core past c).init events).mailbox := by
  rw [(component_mailbox core _ c).run]
  change Dmx.RealtimeUniverseMailbox.Recorded _ (RealtimeUniverseMailbox.machine.run
    (RealtimeUniverseMailbox.machine.run RealtimeUniverseMailbox.machine.init past) _)
  rw [← Machine.run_append]
  exact Dmx.RealtimeUniverseMailbox.recorded_run _

theorem idle_init : (machineAfter core past c).init.Idle := by
  intro s hs
  contradiction

/-- The runtime while a configuration holds the mailbox. -/
def configured (core : Presentation.Core γ σ) (past : List RealtimeUniverseMailbox.Event) (c : γ)
    (install : RealtimeSubscription) : VisualRuntime γ σ :=
  { (machineAfter core past c).init with
    mailbox := (machineAfter core past c).init.mailbox.setSubscription (some install)
    pump := .holding
  }

theorem step_configured (install : RealtimeSubscription)
    : (machineAfter core past c).step (machineAfter core past c).init (.pumpMailbox (some install))
      = (configured core past c install, .quiet) := by
  change (if (machineAfter core past c).init.Idle then configured core past c install else _, _) = _
  rw [if_pos idle_init]

theorem coherent_configured (install : RealtimeSubscription)
    : (configured core past c install).mailbox.Coherent := by
  apply Dmx.RealtimeUniverseMailbox.coherent_setSubscription
  exact Dmx.RealtimeUniverseMailbox.coherent_run past

-- The held states are read at the begin, so nothing that was handed out before has to count.
theorem handed_configured (install : RealtimeSubscription) (events : List (Event γ))
    (hpump : ((machineAfter core past c).run (configured core past c install) events).pump = .idle)
    : Dmx.RealtimeUniverseMailbox.Handed
        (((machineAfter core past c).trace (configured core past c install) events).flatMap
          (fun entry => tookFrames entry.2))
        ((machineAfter core past c).run (configured core past c install) events).mailbox := by
  have hread : unread true ((machineAfter core past c).share VisualRuntime.sections
      (configured core past c install) events) = false := by
    rw [← Bool.not_eq_true]
    intro hunread
    have hholding := unread_run core _ c (fun _ => rfl) events hunread
    rw [hpump] at hholding
    contradiction
  rw [(component_mailbox core _ c).run, (component_mailbox core _ c).outputs
    (fun _ event => (Runs.step event).frames)]
  apply Dmx.RealtimeUniverseMailbox.handed_run (coherent_configured install) _ _ hread
  intro hfalse
  contradiction

theorem handed_machineAfter (install : RealtimeSubscription) (events : List (Event γ))
    (hpump : ((machineAfter core past c).run (machineAfter core past c).init
      (.pumpMailbox (some install) :: events)).pump = .idle)
    : Dmx.RealtimeUniverseMailbox.Handed
        (((machineAfter core past c).trace (machineAfter core past c).init
          (.pumpMailbox (some install) :: events)).flatMap (fun entry => tookFrames entry.2))
        ((machineAfter core past c).run (machineAfter core past c).init
          (.pumpMailbox (some install) :: events)).mailbox := by
  rw [Machine.run_cons, step_configured] at hpump ⊢
  rw [Machine.trace, step_configured]
  exact handed_configured install events hpump

theorem mem_sections {r : VisualRuntime γ σ} {event : Event γ}
    {subscription : Option RealtimeSubscription}
    (h : .setSubscription subscription ∈ r.sections event)
    : ∃ install, subscription = some install ∧ event = .pumpMailbox (some install) := by
  unfold VisualRuntime.sections at h
  split at h
  next => simp at h
  next => simp at h
  next install =>
    split at h
    next =>
      rw [List.mem_singleton] at h
      exact ⟨install, by injection h, rfl⟩
    next => contradiction
  next =>
    unfold VisualRuntime.pumpSections at h
    split at h
    . simp at h
    . split at h
      . contradiction
      . simp at h
    . contradiction
  next => contradiction

theorem subscription_heardAfter {install : RealtimeSubscription} {events : List (Event γ)}
    (hinstalls : ∀ subscription, .pumpMailbox (some subscription) ∈ events
      → subscription = install)
    : (heardAfter core past c (.pumpMailbox (some install) :: events)).subscription
      = some install := by
  have hfirst : (machineAfter core past c).init.sections (.pumpMailbox (some install))
      = [.setSubscription (some install)] := by
    unfold VisualRuntime.sections
    exact if_pos idle_init
  unfold heardAfter
  rw [Machine.share, hfirst, Dmx.RealtimeUniverseMailbox.heard_append, List.foldl_append,
    Dmx.RealtimeUniverseMailbox.subscription_hear]
  . rfl
  . intro subscription hmem
    obtain ⟨r, event, hevent, hsections⟩ := Machine.mem_share hmem
    obtain ⟨other, rfl, rfl⟩ := mem_sections hsections
    rw [hinstalls other hevent]
    rfl

end Configured

theorem getLast?_valuesOf_stateOf (frames : List DmxFrame) (universeId : Nat)
    : (KeyedLog.valuesOf (universeId : Int) (frames.map stateOf)).getLast?
      = (lastOf frames universeId).map payload := by
  have hvalues : KeyedLog.valuesOf (universeId : Int) (frames.map stateOf)
      = (KeyedLog.valuesOf universeId
          (frames.map Dmx.RealtimeUniverseMailbox.keyed)).map payload := by
    unfold KeyedLog.valuesOf
    rw [List.filter_map, List.filter_map, List.map_map, List.map_map, List.map_map]
    change (frames.filter (fun frame => decide ((frame.universeId : Int) = universeId))).map payload
      = (frames.filter (fun frame => decide (frame.universeId = universeId))).map payload
    congr 1
    apply List.filter_congr
    intro frame _
    rw [decide_eq_decide, Int.natCast_inj]
  unfold lastOf
  rw [hvalues, KeyedLog.fold_apply, Option.or_none, List.getLast?_map]

theorem byteOf_payload (frame : DmxFrame) {offset : Int32} (hoffset : IsSlot offset)
    : byteOf (payload frame) offset = frame.byteAt offset.toInt.toNat := by
  have hlt : offset.toInt.toNat < 512 := by
    have hbound := Int32.lt_iff_toInt_lt.mp hoffset.2
    change offset.toInt < 512 at hbound
    omega
  unfold byteOf frameByte payload DmxFrame.byteAt Dmx.byteAt
  rw [if_pos hoffset.1, List.getElem?_take, List.getElem?_take, if_pos hlt, List.getD_eq_getElem?_getD]
  split
  . rfl
  . rfl

end Async

/-! ### To the core -/

namespace Presented

variable {π : Type}

/-- The subscription that a scene is configured with. -/
def interests (c : Presented π) : RealtimeSubscription :=
  .build c.core.realtimeInterestOffsets

theorem offsets_interests (c : Presented π) {layout : UniverseLayout}
    (hlayout : layout ∈ c.core.layouts) {index : Dmx.UniverseIndex}
    (hid : layout.universeId.toInt = index.val) {offset : Int32}
    (hoffset : offset ∈ layout.interestOffsets) (hslot : IsSlot offset)
    : c.interests.offsets index offset.toInt.toNat = true := by
  have hlt : offset.toInt.toNat < 512 := by
    have hbound := Int32.lt_iff_toInt_lt.mp hslot.2
    change offset.toInt < 512 at hbound
    omega
  apply (RealtimeSubscription.offsets_build _ _ _).mpr
  refine ⟨hlt, _, List.mem_map_of_mem hlayout, ?_, ?_⟩
  . have hindex : index.val < 32768 := index.isLt
    dsimp only
    rw [hid]
    omega
  . apply List.mem_map_of_mem
    rw [List.mem_filter]
    exact ⟨hoffset, decide_eq_true hslot⟩

end Presented

variable {p : Platform} {π σ : Type}

-- The state of a universe that was handed out last is the state that the core holds of it.
theorem mem_heldUniverses_of_last {core core' : Core} {frames : List DmxFrame}
    (hheld : core'.heldUniverses
      = core.heldUniverses.map (Async.after (frames.map Async.stateOf)))
    {layout : UniverseLayout} (hlayout : layout ∈ core.layouts) {index : Dmx.UniverseIndex}
    (hid : layout.universeId.toInt = index.val) {frame : DmxFrame}
    (hlast : lastOf frames index.val = some frame)
    : (layout.universeId.toInt, Async.payload frame) ∈ core'.heldUniverses := by
  obtain ⟨u, hu, rfl⟩ := List.mem_map.mp hlayout
  have hmem : heldUniverse u ∈ core.heldUniverses :=
    (List.perm_insertionSort _ _).mem_iff.mpr (List.mem_map_of_mem hu)
  have hvalues := Async.getLast?_valuesOf_stateOf frames index.val
  rw [hlast, Option.map_some, ← hid] at hvalues
  rw [hheld]
  refine List.mem_map.mpr ⟨heldUniverse u, hmem, ?_⟩
  unfold Async.after heldUniverse
  rw [hvalues, Option.map_some, List.take_of_length_le (Async.length_payload frame)]
  rfl

/--
A scene is installed over a mailbox that ran before, and configured with its interests. In every run
from there in which no session fails in front of a state, the core ends up with the bytes of the
last packet that was heard of every universe, at every offset that a program reads.
-/
theorem run_arrives (now : π → ℚ) (compose : π → SectionedVisualFrame → Option (π × σ))
    (past : List RealtimeUniverseMailbox.Event) (c : Presented π)
    (events : List (Async.Event (Presented π)))
    (hinstalls : ∀ subscription, .pumpMailbox (some subscription) ∈ events
      → subscription = c.interests)
    : let core := Presented.pipelineCore p now compose
      let M := Async.machineAfter core past c
      let all := .pumpMailbox (some c.interests) :: events
      M.StepsMeet Async.Steady M.init all → (Async.taken (M.trace M.init all)).length < 2 ^ 64
        → (M.run M.init all).session = none → (M.run M.init all).pump = .idle
        → ∀ layout ∈ c.core.layouts, ∀ index : Dmx.UniverseIndex,
          layout.universeId.toInt = index.val → index ∉ (M.run M.init all).mailbox.ready
          → ∀ packet, (Async.heardAfter core past c all).latest index = some packet
          → ∃ frame, (layout.universeId.toInt, frame) ∈ (M.run M.init all).core.core.heldUniverses
            ∧ ∀ offset ∈ layout.interestOffsets, IsSlot offset
              → byteOf frame offset = Dmx.byteAt packet.data packet.length offset.toInt.toNat := by
  intro core M all hsteady hbound hsession hpump layout hlayout index hid hready packet hpacket
  have hrecorded : Dmx.RealtimeUniverseMailbox.Recorded (Async.heardAfter core past c all)
      (M.run M.init all).mailbox := Async.recorded_machineAfter all
  have hhanded : Dmx.RealtimeUniverseMailbox.Handed
      ((M.trace M.init all).flatMap (fun entry => Async.tookFrames entry.2))
      (M.run M.init all).mailbox := Async.handed_machineAfter c.interests events hpump
  obtain ⟨subscription, frame, harrived⟩ := hrecorded.arrived hhanded hpacket hready
  have hinterests : subscription = c.interests := by
    have hinstalled := hrecorded.subscription.symm.trans harrived.installed
    rw [Async.subscription_heardAfter hinstalls] at hinstalled
    exact (Option.some.inj hinstalled).symm
  obtain ⟨done, hdone, hheld⟩ := (Async.run_hands (Presented.lawful p now compose) _ c hsteady
    hbound).core hsession
  rw [hpump] at hdone
  change done ++ [] = _ at hdone
  rw [List.append_nil, Async.taken_eq_map] at hdone
  rw [hdone] at hheld
  refine ⟨Async.payload frame, mem_heldUniverses_of_last hheld hlayout hid harrived.last, ?_⟩
  intro offset hoffset hslot
  rw [Async.byteOf_payload frame hslot]
  apply harrived.reads
  rw [hinterests]
  exact c.offsets_interests hlayout hid hoffset hslot

/-- A packet that was heard of the universe of `presentedUniverse` before it was configured. -/
def heardBefore : List RealtimeUniverseMailbox.Event :=
  [.setSubscription (some presentedUniverse.interests), .publish 0 (some [3]) 1 0 0]

/-- The runtime of `presentedUniverse` on a mailbox with a held state. -/
def rehydratedRuntime : Machine (Async.VisualRuntime (Presented Unit) Unit)
    (Async.Event (Presented Unit)) (Async.Output Unit) :=
  Async.machineAfter (Presented.pipelineCore exactPlatform (fun _ => 0) (fun presentation _ =>
    some (presentation, ()))) heardBefore presentedUniverse

/-- The held state is submitted, then a packet is pumped into a session. -/
def rehydrateAndPump : List (Async.Event (Presented Unit)) :=
  [.main, .main, .main, .attachAsync] ++ pumpAndRetire

def presentedLayout : UniverseLayout := presentedUniverse.core.layouts.headD { universeId := 0 }

theorem run_arrives_rehydrated
    : ∃ frame, (presentedLayout.universeId.toInt, frame) ∈ (rehydratedRuntime.run
          rehydratedRuntime.init (.pumpMailbox (some presentedUniverse.interests)
            :: rehydrateAndPump)).core.core.heldUniverses
        ∧ ∀ offset ∈ presentedLayout.interestOffsets, IsSlot offset
          → byteOf frame offset = Dmx.byteAt [5] 1 offset.toInt.toNat := by
  refine run_arrives (fun _ => 0) (fun presentation _ => some (presentation, ())) heardBefore
    presentedUniverse rehydrateAndPump ?_ ?_ ?_ ?_ ?_ presentedLayout ?_ ⟨0, by decide⟩ ?_ ?_
    ⟨[5], 1⟩ ?_
  . intro subscription hmem
    simp [rehydrateAndPump, pumpAndRetire] at hmem
  . decide +kernel
  . decide +kernel
  . rw [← Option.isNone_iff_eq_none]
    decide +kernel
  . apply Async.pump_of_idle
    decide +kernel
  . exact List.mem_of_mem_head? rfl
  . decide +kernel
  . decide +kernel
  . decide +kernel

end Peraviz.Runtime
