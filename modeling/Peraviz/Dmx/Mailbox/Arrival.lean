import Peraviz.Dmx.Mailbox.Protocol
import Peraviz.KeyedLog.Basic

/-!
This module contains the arrival of packets at the reader of a mailbox: once a reader has seen the
held states of a subscription, the last frame that it was handed of a universe reads as the last
packet that was heard of it, unless the universe is still queued.
-/

namespace Peraviz.Dmx
namespace RealtimeUniverseMailbox

/-! ### The packets that count -/

/--
A packet counts from when it was heard, until its session ends or a subscription no longer reads its
universe, or reads offsets of it that were not subscribed.
-/
def Observed.hear (s : Observed) (event : Event) : Observed :=
  match event with
  | .setSubscription subscription =>
    { subscription := subscription
      latest := fun index =>
        if subscription.any (fun next =>
            next.used index && !hasNewOffsets s.subscription next index) then
          s.latest index
        else
          none
    }
  | event => s.next event

def heard (events : List Event) : Observed := events.foldl .hear {}

@[simp]
theorem heard_append (front back : List Event)
    : heard (front ++ back) = back.foldl .hear (heard front) := by
  simp [heard]

theorem subscription_hear {s : Observed} {events : List Event}
    (h : ∀ subscription, .setSubscription subscription ∈ events → subscription = s.subscription)
    : (events.foldl .hear s).subscription = s.subscription := by
  induction events generalizing s with
  | nil => rfl
  | cons event events ih =>
    have hfirst : (s.hear event).subscription = s.subscription := by
      cases event with
      | setSubscription subscription => exact h subscription List.mem_cons_self
      | publish universeId data length sequence nowUs =>
        cases data with
        | none => rfl
        | some bytes => rfl
      | _ => rfl
    rw [List.foldl_cons, ih, hfirst]
    intro subscription hmem
    rw [hfirst]
    exact h subscription (List.mem_cons_of_mem event hmem)

/-- The packets that count are those of the slots that hold one. -/
structure Recorded (s : Observed) (m : RealtimeUniverseMailbox) : Prop
    extends Faithful s m where
  known : ∀ index packet, s.latest index = some packet
    → m.Used index ∧ ∃ slot, m.slots index = some slot ∧ slot.initialized = true

theorem recorded_init : Recorded {} init where
  toFaithful := faithful_init
  known := by
    intro index packet h
    contradiction

/-- The frames have the same bytes in use. -/
def SamePayload (frame frame' : DmxFrame) : Prop :=
  frame.length = frame'.length ∧ frame.data = frame'.data

theorem ReadsAs.congr {frame frame' : DmxFrame} {mask : Nat → Bool} {packet : Packet}
    (h : ReadsAs frame mask packet) (hsame : SamePayload frame' frame)
    : ReadsAs frame' mask packet := by
  intro o ho
  rw [← h o ho]
  unfold DmxFrame.byteAt
  rw [hsame.1, hsame.2]

/-- What `publish` does to the slots where it finds one for its packet. -/
structure Publishes (m m' : RealtimeUniverseMailbox) (index : UniverseIndex) (slot slot' : Slot)
    : Prop where
  subscription : m'.subscription = m.subscription
  self : m'.slots index = some slot'
  other : ∀ other, other ≠ index → m'.slots other = m.slots other
  initialized : slot'.initialized = true
  clean : slot'.dirty = false
    → slot.dirty = false ∧ slot.initialized = true ∧ SamePayload slot'.held slot.held

theorem Published.publishes {m : RealtimeUniverseMailbox} {mask : Nat → Bool}
    {index : UniverseIndex} {slot : Slot} {data : List UInt8} {length : Nat} {sequence : UInt8}
    {nowUs : UInt64} {res : RealtimeUniverseMailbox × Bool}
    (h : Published m mask index slot data length sequence nowUs res)
    : ∃ slot', Publishes m res.1 index slot slot' := by
  cases h with
  | unchanged hinit hsame =>
    refine ⟨slot.touch sequence nowUs, rfl, slots_setSlot_self .., ?_, hinit, ?_⟩
    . intro other hne
      exact slots_setSlot_of_ne _ _ hne
    . intro hclean
      exact ⟨hclean, hinit, rfl, rfl⟩
  | coalesced hdirty =>
    refine ⟨accept slot index data length sequence nowUs, rfl, slots_setSlot_self .., ?_, rfl, ?_⟩
    . intro other hne
      exact slots_setSlot_of_ne _ _ hne
    . intro hclean
      change slot.dirty = false at hclean
      simp [hdirty] at hclean
  | queued hdirty =>
    refine ⟨_, rfl, slots_setSlot_self .., ?_, rfl, ?_⟩
    . intro other hne
      exact slots_setSlot_of_ne _ _ hne
    . intro hclean
      contradiction

/-- What a round of `consumeDirtyFrames` does to the slot that it delivers. -/
structure Delivers (m m' : RealtimeUniverseMailbox) (index : UniverseIndex) (slot slot' : Slot)
    : Prop where
  subscription : m'.subscription = m.subscription
  before : m.slots index = some slot
  self : m'.slots index = some slot'
  other : ∀ other, other ≠ index → m'.slots other = m.slots other
  held : slot'.held = slot.held
  initialized : slot.initialized = true
  stays : slot'.initialized = true
  universeId : slot.held.universeId = index.val

theorem consumeNext_delivers {m : RealtimeUniverseMailbox} (hm : m.Coherent)
    : m.consumeNext = (m, none)
        ∨ ∃ index slot slot', m.consumeNext.2 = some slot.held
          ∧ Delivers m m.consumeNext.1 index slot slot' := by
  have hcons := consumeNext_consumed hm
  generalize m.consumeNext = res at hcons
  cases hcons with
  | idle hready => exact Or.inl rfl
  | delivered token q slot hring hslot hdirty =>
    have hcoh := hm.slot _ slot hslot
    have hinit := hcoh.initialized hdirty
    refine Or.inr ⟨token.universeIndex, slot, _, rfl, rfl, hslot, slots_setSlot_self .., ?_, rfl,
      hinit, hinit, hcoh.universeId hinit⟩
    intro other hne
    exact slots_setSlot_of_ne _ _ hne

namespace Recorded

variable {s : Observed} {m : RealtimeUniverseMailbox}

theorem setSubscription (h : Recorded s m) (subscription : Option RealtimeSubscription)
    : Recorded (s.hear (.setSubscription subscription)) (m.setSubscription subscription) := by
  constructor
  . constructor
    . exact coherent_setSubscription h.coherent subscription
    . rfl
    . intro s' hs' index hused slot hslot hinit
      cases hs'
      obtain ⟨hnew, slot', hold, hinit', hheld⟩ := resubscribeSlot_initialized hslot hused hinit
      obtain ⟨p, hp, hpused, hsubset⟩ := hasNewOffsets_eq_false hnew
      obtain ⟨packet, hpacket, hreads⟩ := h.held p hp index hpused slot' hold hinit'
      refine ⟨packet, ?_, ?_⟩
      . simp [Observed.hear, ← h.subscription, hused, hnew, hpacket]
      . intro o ho
        rw [hheld]
        exact hreads o (hsubset o ho)
  . intro index packet hpacket
    simp only [Observed.hear, Option.any_eq_true] at hpacket
    split at hpacket
    next hkept =>
      obtain ⟨next, rfl, hnext⟩ := hkept
      rw [Bool.and_eq_true, Bool.not_eq_true', ← h.subscription] at hnext
      obtain ⟨_, slot, hslot, hinit⟩ := h.known index packet hpacket
      refine ⟨⟨next, rfl, hnext.1⟩, { slot.retire (m.subscriptionGeneration + 1) with
        initialized := true }, ?_, rfl⟩
      simp [RealtimeUniverseMailbox.setSubscription, resubscribeSlot, hnext.1, hnext.2, hslot,
        hinit, Slot.retire]
    next => contradiction

theorem publish (h : Recorded s m) (universeId : Nat) (data : Option (List UInt8)) (length : Nat)
    (sequence : UInt8) (nowUs : UInt64)
    : Recorded (s.hear (.publish universeId data length sequence nowUs))
        (m.publish universeId data length sequence nowUs).1 := by
  refine ⟨faithful_publish h.toFaithful .., ?_⟩
  intro index packet hpacket
  cases publish_cases h.coherent universeId data length sequence nowUs with
  | inl hpub =>
    rw [hpub.1]
    cases data with
    | none => exact h.known index packet hpacket
    | some bytes =>
      have hnot : ¬(index.val = universeId ∧ usedBy s.subscription index = true) := by
        intro hboth
        obtain ⟨subscription, hs, hused⟩ := (Option.any_eq_true _ _).mp hboth.2
        exact hpub.2 index hboth.1 rfl ⟨subscription, h.subscription.trans hs, hused⟩
      simp only [Observed.hear, Observed.next, if_neg hnot] at hpacket
      exact h.known index packet hpacket
  | inr hpub =>
    obtain ⟨subscription, other, bytes, slot, hs, hused, rfl, rfl, hslot, hpub⟩ := hpub
    obtain ⟨slot', hpub⟩ := hpub.publishes
    unfold Used
    rw [hpub.subscription]
    by_cases heq : index = other
    . rw [heq]
      exact ⟨⟨subscription, hs, hused⟩, slot', hpub.self, hpub.initialized⟩
    . have hval : index.val ≠ other.val := fun hval => heq (Fin.ext hval)
      simp only [Observed.hear, Observed.next, hval, false_and, if_false] at hpacket
      rw [hpub.other index heq]
      exact h.known index packet hpacket

theorem consumeNext (h : Recorded s m) : Recorded (s.hear .consumeNext) m.consumeNext.1 := by
  refine ⟨faithful_consumeNext h.toFaithful, ?_⟩
  intro index packet hpacket
  obtain ⟨hused, slot, hslot, hinit⟩ := h.known index packet hpacket
  cases consumeNext_delivers h.coherent with
  | inl hidle =>
    rw [hidle]
    exact ⟨hused, slot, hslot, hinit⟩
  | inr hdelivered =>
    obtain ⟨other, before, after, _, hdelivers⟩ := hdelivered
    unfold Used
    rw [hdelivers.subscription]
    refine ⟨hused, ?_⟩
    by_cases heq : index = other
    . rw [heq]
      exact ⟨after, hdelivers.self, hdelivers.stays⟩
    . rw [hdelivers.other index heq]
      exact ⟨slot, hslot, hinit⟩

theorem step (h : Recorded s m) (event : Event) : Recorded (s.hear event) (m.step event).1 := by
  cases event with
  | setSubscription subscription => exact h.setSubscription subscription
  | resetSession =>
    refine ⟨faithful_resetSession h.toFaithful, ?_⟩
    intro index packet hpacket
    contradiction
  | publish universeId data length sequence nowUs => exact h.publish ..
  | consumeNext => exact h.consumeNext
  | held universeId => exact h
  | heldStates => exact h
  | pendingDirtyCount => exact h

end Recorded

theorem recorded_run (events : List Event)
    : Recorded (heard events) (machine.run machine.init events) := by
  apply machine.history_induction (fun past m => Recorded (heard past) m)
  . exact recorded_init
  . intro past m event h
    rw [heard_append]
    exact h.step event

/-! ### The frames that a reader was handed -/

def handedBy : Output → List DmxFrame
  | .consumed frame => frame.toList
  | .heldStates frames => frames
  | _ => []

def handed (trace : List (Event × Output)) : List DmxFrame :=
  trace.flatMap (fun entry => handedBy entry.2)

def keyed (frame : DmxFrame) : Nat × DmxFrame := (frame.universeId, frame)

/-- The last frame of every universe. -/
def lastOf (frames : List DmxFrame) : Nat → Option DmxFrame :=
  KeyedLog.fold (fun _ => none) (frames.map keyed)

theorem lastOf_append (front back : List DmxFrame)
    : lastOf (front ++ back) = KeyedLog.fold (lastOf front) (back.map keyed) := by
  unfold lastOf
  rw [List.map_append, KeyedLog.fold_append]

/-- Whether a subscription was installed whose held states were not read yet. -/
def unreadAfter (unread : Bool) : Event → Bool
  | .setSubscription _ => true
  | .heldStates => false
  | _ => unread

def unread (before : Bool) (events : List Event) : Bool := events.foldl unreadAfter before

theorem unread_append (before : Bool) (front back : List Event)
    : unread before (front ++ back) = unread (unread before front) back := by
  simp [unread]

/-- The reader has the payload of every slot that is not queued. -/
def Handed (frames : List DmxFrame) (m : RealtimeUniverseMailbox) : Prop :=
  ∀ index slot, m.Used index → m.slots index = some slot → slot.initialized = true
    → slot.dirty = false
    → ∃ frame, lastOf frames index.val = some frame ∧ SamePayload frame slot.held

namespace Handed

variable {m : RealtimeUniverseMailbox} {frames : List DmxFrame}

theorem publish (hm : m.Coherent) (h : Handed frames m) (universeId : Nat)
    (data : Option (List UInt8)) (length : Nat) (sequence : UInt8) (nowUs : UInt64)
    : Handed frames (m.publish universeId data length sequence nowUs).1 := by
  cases publish_cases hm universeId data length sequence nowUs with
  | inl hpub =>
    rw [hpub.1]
    exact h
  | inr hpub =>
    obtain ⟨subscription, other, bytes, slot, hs, hused, rfl, rfl, hslot, hpub⟩ := hpub
    obtain ⟨slot', hpub⟩ := hpub.publishes
    intro index last huses hlast hinit hclean
    unfold Used at huses
    rw [hpub.subscription] at huses
    by_cases heq : index = other
    . subst heq
      rw [hpub.self] at hlast
      cases hlast
      obtain ⟨hclean, hinit, hsame⟩ := hpub.clean hclean
      obtain ⟨frame, hframe, hpayload⟩ := h index slot huses hslot hinit hclean
      exact ⟨frame, hframe, hpayload.1.trans hsame.1.symm, hpayload.2.trans hsame.2.symm⟩
    . rw [hpub.other index heq] at hlast
      exact h index last huses hlast hinit hclean

theorem consumeNext (hm : m.Coherent) (h : Handed frames m)
    : Handed (frames ++ m.consumeNext.2.toList) m.consumeNext.1 := by
  cases consumeNext_delivers hm with
  | inl hidle =>
    rw [hidle]
    rw [Option.toList_none, List.append_nil]
    exact h
  | inr hdelivered =>
    obtain ⟨other, before, after, hframe, hdelivers⟩ := hdelivered
    intro index slot huses hslot hinit hclean
    unfold Used at huses
    rw [hdelivers.subscription] at huses
    rw [hframe, Option.toList_some, lastOf_append]
    change ∃ frame, KeyedLog.fold (lastOf frames) [(before.held.universeId, before.held)] index.val
      = some frame ∧ SamePayload frame slot.held
    rw [KeyedLog.fold_singleton, hdelivers.universeId]
    by_cases heq : index = other
    . subst heq
      rw [hdelivers.self] at hslot
      cases hslot
      rw [Function.update_self, hdelivers.held]
      exact ⟨before.held, rfl, rfl, rfl⟩
    . have hval : index.val ≠ other.val := fun hval => heq (Fin.ext hval)
      rw [hdelivers.other index heq] at hslot
      rw [Function.update_of_ne hval]
      exact h index slot huses hslot hinit hclean

theorem resetSession (frames : List DmxFrame) : Handed frames m.resetSession := by
  intro index slot _ hslot hinit
  obtain ⟨slot', _, rfl⟩ := Option.map_eq_some_iff.mp hslot
  contradiction

theorem universeId_of_heldOf (hm : m.Coherent) {index : UniverseIndex} {frame : DmxFrame}
    (h : m.heldOf index = some frame) : frame.universeId = index.val := by
  unfold heldOf at h
  split at h
  next => contradiction
  next slot hslot =>
    split at h
    next hinit =>
      cases h
      rw [Bool.and_eq_true] at hinit
      exact (hm.slot index slot hslot).universeId hinit.1
    next => contradiction

-- Every held state is read, whatever the reader had before.
theorem heldStates (hm : m.Coherent) (frames : List DmxFrame)
    : Handed (frames ++ m.heldStates) m := by
  intro index slot huses hslot hinit _
  obtain ⟨subscription, hs, hused⟩ := huses
  have hcoh := hm.slot index slot hslot
  have hheld : m.heldOf index = some slot.held := by
    unfold heldOf
    rw [hslot]
    simp [hinit, hcoh.generation]
  have hstates : m.heldStates = subscription.universes.filterMap m.heldOf := by
    unfold RealtimeUniverseMailbox.heldStates
    rw [hs]
  refine ⟨slot.held, ?_, rfl, rfl⟩
  rw [lastOf_append, hstates]
  apply KeyedLog.fold_of_mem
  . apply List.mem_map.mpr
    refine ⟨slot.held, ?_, by rw [keyed, hcoh.universeId hinit]⟩
    exact List.mem_filterMap.mpr ⟨index, (subscription.hused index).mp hused, hheld⟩
  . intro frame hframe
    obtain ⟨frame', hmem, hkey⟩ := List.mem_map.mp hframe
    obtain ⟨hid, rfl⟩ := Prod.mk.inj hkey
    obtain ⟨other, _, hother⟩ := List.mem_filterMap.mp hmem
    have hsame : other = index := by
      apply Fin.ext
      rw [← hid, universeId_of_heldOf hm hother]
    rw [hsame, hheld] at hother
    exact (Option.some.inj hother).symm

theorem step (hm : m.Coherent) {unread : Bool} (h : unread = false → Handed frames m)
    (event : Event)
    : unreadAfter unread event = false
      → Handed (frames ++ handedBy (m.step event).2) (m.step event).1 := by
  intro hread
  cases event with
  | setSubscription subscription => contradiction
  | heldStates => exact heldStates hm frames
  | resetSession => exact resetSession _
  | publish universeId data length sequence nowUs =>
    simp only [RealtimeUniverseMailbox.step, handedBy, List.append_nil]
    exact (h hread).publish hm universeId data length sequence nowUs
  | consumeNext => exact (h hread).consumeNext hm
  | held universeId =>
    simp only [RealtimeUniverseMailbox.step, handedBy, List.append_nil]
    exact h hread
  | pendingDirtyCount =>
    simp only [RealtimeUniverseMailbox.step, handedBy, List.append_nil]
    exact h hread

end Handed

/-! ### Over a run -/

theorem handed_run {m : RealtimeUniverseMailbox} (hm : m.Coherent) {before : Bool}
    (hbefore : before = false → Handed [] m) (events : List Event)
    : unread before events = false
      → Handed (handed (machine.trace m events)) (machine.run m events) := by
  induction events using List.reverseRecOn with
  | nil => exact hbefore
  | append_singleton past event ih =>
    have hpast : (machine.run m past).Coherent :=
      machine.run_induction Coherent (fun _ event hm => coherent_step hm event) hm past
    rw [unread_append, Machine.trace_append, Machine.run_concat, handed, List.flatMap_append]
    simp only [Machine.trace, List.flatMap_singleton]
    exact Handed.step hpast ih event

/-- What the reader of a mailbox has of a universe that a packet was heard of. -/
structure Arrived (m : RealtimeUniverseMailbox) (frames : List DmxFrame) (index : UniverseIndex)
    (packet : Packet) (subscription : RealtimeSubscription) (frame : DmxFrame) : Prop where
  installed : m.subscription = some subscription
  used : subscription.used index = true
  last : lastOf frames index.val = some frame
  reads : ReadsAs frame (subscription.offsets index) packet

theorem Recorded.arrived {s : Observed} {m : RealtimeUniverseMailbox} (h : Recorded s m)
    {frames : List DmxFrame} (hhanded : Handed frames m) {index : UniverseIndex} {packet : Packet}
    (hpacket : s.latest index = some packet) (hready : index ∉ m.ready)
    : ∃ subscription frame, Arrived m frames index packet subscription frame := by
  obtain ⟨⟨subscription, hs, hused⟩, slot, hslot, hinit⟩ := h.known index packet hpacket
  have hclean : slot.dirty = false := by
    rw [← Bool.not_eq_true, (h.coherent.slot index slot hslot).ready]
    exact hready
  obtain ⟨frame, hframe, hsame⟩ := hhanded index slot ⟨subscription, hs, hused⟩ hslot hinit hclean
  obtain ⟨packet', hpacket', hreads⟩ := h.held subscription hs index hused slot hslot hinit
  rw [hpacket] at hpacket'
  cases hpacket'
  exact ⟨subscription, frame, hs, hused, hframe, hreads.congr hsame⟩

/--
After every interleaving of the threads around a mailbox, the last frame that was handed out of a
universe reads as the last packet that was heard of it, once the held states were read and unless
the universe is queued.
-/
theorem run_arrived (events : List Event) (hread : unread false events = false)
    {index : UniverseIndex} {packet : Packet}
    (hpacket : (heard events).latest index = some packet)
    (hready : index ∉ (machine.run machine.init events).ready)
    : ∃ subscription frame, Arrived (machine.run machine.init events)
        (handed (machine.trace machine.init events)) index packet subscription frame := by
  apply (recorded_run events).arrived _ hpacket hready
  apply handed_run coherent_init _ events hread
  intro _ index slot _ hslot
  contradiction

deriving instance DecidableEq for Packet

/-- A packet that is heard in front of a new subscription to the same offset. -/
def reinstalled : List Event :=
  [.setSubscription (some (RealtimeSubscription.build [(0, [0])])),
    .publish 0 (some [5]) 1 0 0,
    .setSubscription (some (RealtimeSubscription.build [(0, [0])])),
    .heldStates]

theorem run_arrived_reinstalled
    : ∃ subscription frame, Arrived (machine.run machine.init reinstalled)
        (handed (machine.trace machine.init reinstalled)) ⟨0, by decide⟩ ⟨[5], 1⟩ subscription
        frame := by
  apply run_arrived
  . rfl
  . decide +kernel
  . decide +kernel

end RealtimeUniverseMailbox
end Peraviz.Dmx
