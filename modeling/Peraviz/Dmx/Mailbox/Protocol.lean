import Peraviz.Dmx.Mailbox.Lemmas

/-!
This module contains what the threads around a mailbox may rely on over a whole run: the tokens in
the ring, the delivery of every accepted packet and the bytes of the held state.
-/

namespace Peraviz.Dmx
namespace RealtimeUniverseMailbox

structure Packet where
  data : List UInt8
  length : Nat

/-- The sections that retire everything that is pending. -/
def Event.retires : Event → Bool
  | .setSubscription _ => true
  | .resetSession => true
  | _ => false

def Event.consumes : Event → Bool
  | .consumeNext => true
  | _ => false

/-- The packet of `index` that a section accepted, if it did. -/
def accepted (index : UniverseIndex) : Event × Output → Option Packet
  | (.publish universeId (some data) length _ _, .published true) =>
    if universeId = index.val then some ⟨data, length⟩ else none
  | _ => none

/-- The last packet of `index` that was accepted along a trace, `packet` if there was none. -/
def lastAccepted (index : UniverseIndex) (packet : Packet) (trace : List (Event × Output))
    : Packet :=
  trace.foldl (fun packet entry => (accepted index entry).getD packet) packet

/-- The frame is a state of `index` with the payload of `packet`. -/
structure Carries (frame : DmxFrame) (index : UniverseIndex) (packet : Packet) : Prop where
  universeId : frame.universeId = index.val
  length : frame.length = min packet.length kDmxSlotCount
  data : frame.data = copyPayload packet.data (min packet.length kDmxSlotCount)

@[simp]
theorem accepted_of_not_published (index : UniverseIndex) (event : Event)
    : accepted index (event, .published false) = none := by
  unfold accepted
  split <;> simp_all

theorem carries_accept (slot : Slot) (index : UniverseIndex) (data : List UInt8) (length : Nat)
    (sequence : UInt8) (nowUs : UInt64)
    : Carries (accept slot index data length sequence nowUs).held index ⟨data, length⟩ :=
  ⟨rfl, rfl, rfl⟩

theorem carries_publish {m : RealtimeUniverseMailbox} (hm : m.Coherent) {index : UniverseIndex}
    {slot : Slot} {packet : Packet} (hslot : m.slots index = some slot)
    (hheld : Carries slot.held index packet) (universeId : Nat) (data : Option (List UInt8))
    (length : Nat) (sequence : UInt8) (nowUs : UInt64) {m' : RealtimeUniverseMailbox} {output : Output}
    (h : m.step (.publish universeId data length sequence nowUs) = (m', output))
    : ∃ slot', m'.slots index = some slot'
        ∧ Carries slot'.held index
            ((accepted index (.publish universeId data length sequence nowUs, output)).getD packet) := by
  simp only [step] at h
  cases publish_cases hm universeId data length sequence nowUs with
  | inl hpub =>
    rw [hpub.1] at h
    cases h
    exact ⟨slot, hslot, by simpa using hheld⟩
  | inr hpub =>
    obtain ⟨s, other, bytes, slot', hs, hused, rfl, rfl, hslot', hpub⟩ := hpub
    generalize m.publish other (some bytes) length sequence nowUs = res at h hpub
    by_cases hne : index = other
    . subst hne
      cases hpub with
      | unchanged hinit hsame =>
        cases h
        rw [hslot] at hslot'
        cases hslot'
        refine ⟨_, slots_setSlot_self .., ?_⟩
        rw [accepted_of_not_published]
        exact ⟨hheld.universeId, hheld.length, hheld.data⟩
      | coalesced hdirty =>
        cases h
        refine ⟨_, slots_setSlot_self .., ?_⟩
        simp only [accepted, if_pos, Option.getD_some]
        exact carries_accept ..
      | queued hdirty =>
        cases h
        refine ⟨_, slots_setSlot_self .., ?_⟩
        simp only [accepted, if_pos, Option.getD_some]
        exact carries_accept ..
    . have hval : other.val ≠ index.val := fun heq => hne (Fin.ext heq.symm)
      have hacc : ∀ output', accepted index
          (.publish other (some bytes) length sequence nowUs, output') = none := by
        intro output'
        unfold accepted
        split <;> simp_all
      rw [hacc, Option.getD_none]
      refine ⟨slot, ?_, hheld⟩
      cases hpub with
      | unchanged hinit hsame =>
        cases h
        rw [slots_setSlot_of_ne _ _ hne, hslot]
      | coalesced hdirty =>
        cases h
        rw [slots_setSlot_of_ne _ _ hne, hslot]
      | queued hdirty =>
        cases h
        rw [queue, slots_setSlot_of_ne _ _ hne, hslot]

-- `publish` only ever appends to the ring, and only the universe whose packet it accepts.
theorem ready_publish {m : RealtimeUniverseMailbox} (hm : m.Coherent) (universeId : Nat)
    (data : Option (List UInt8)) (length : Nat) (sequence : UInt8) (nowUs : UInt64)
    {m' : RealtimeUniverseMailbox} {output : Output}
    (h : m.step (.publish universeId data length sequence nowUs) = (m', output))
    : ∃ back, m'.ready = m.ready ++ back ∧ ∀ index ∈ back, (accepted index
        (.publish universeId data length sequence nowUs, output)).isSome = true := by
  simp only [step] at h
  cases publish_cases hm universeId data length sequence nowUs with
  | inl hpub =>
    rw [hpub.1] at h
    cases h
    exact ⟨[], by simp⟩
  | inr hpub =>
    obtain ⟨s, index, bytes, slot, hs, hused, rfl, rfl, hslot, hpub⟩ := hpub
    have hcoh := hm.slot index slot hslot
    generalize m.publish index (some bytes) length sequence nowUs = res at h hpub
    cases hpub with
    | unchanged hinit hsame =>
      cases h
      exact ⟨[], by simp [ready]⟩
    | coalesced hdirty =>
      cases h
      exact ⟨[], by simp [ready]⟩
    | queued hdirty =>
      cases h
      refine ⟨[index], ready_queue hm ?_ _, ?_⟩
      . rw [← hcoh.ready]
        simp [hdirty]
      . simp [accepted]

/-- A state of `index` with the payload of `packet` waits behind `n` other tokens. -/
structure Pending (m : RealtimeUniverseMailbox) (index : UniverseIndex) (packet : Packet) (n : Nat)
    : Prop where
  held : ∃ slot, m.slots index = some slot ∧ Carries slot.held index packet
  ready : m.ready[n]? = some index

/-- The outcome of a section, for a pending state. -/
inductive Advanced (m' : RealtimeUniverseMailbox) (output : Output) (event : Event)
    (index : UniverseIndex) (packet : Packet) (n : Nat) : Prop where
  | delivered (frame : DmxFrame) (hevent : event = .consumeNext)
      (houtput : output = .consumed (some frame)) (hframe : Carries frame index packet)
  | consumed (k : Nat) (hn : n = k + 1)
      (hpending : m'.Pending index ((accepted index (event, output)).getD packet) k)
  | waits (hevent : event.consumes = false)
      (hpending : m'.Pending index ((accepted index (event, output)).getD packet) n)

theorem Pending.step {m m' : RealtimeUniverseMailbox} {output : Output} {index : UniverseIndex}
    {packet : Packet} {n : Nat} (hm : m.Coherent) (hpending : m.Pending index packet n)
    {event : Event} (hretires : event.retires = false) (h : m.step event = (m', output))
    : Advanced m' output event index packet n := by
  obtain ⟨⟨slot, hslot, hheld⟩, hready⟩ := hpending
  cases event with
  | setSubscription subscription => contradiction
  | resetSession => contradiction
  | publish universeId data length sequence nowUs =>
    apply Advanced.waits
    . rfl
    . obtain ⟨back, hback, _⟩ := ready_publish hm _ _ _ _ _ h
      refine ⟨carries_publish hm hslot hheld _ _ _ _ _ h, ?_⟩
      rw [hback, List.getElem?_append_left]
      . exact hready
      . exact (List.getElem?_eq_some_iff.mp hready).1
  | consumeNext =>
    have hcons := consumeNext_consumed hm
    simp only [RealtimeUniverseMailbox.step] at h
    generalize m.consumeNext = res at h hcons
    cases hcons with
    | idle hidle => simp [hidle] at hready
    | delivered token q slot' hring hslot' hdirty =>
      cases h
      have hcons : m.ready = token.universeIndex :: q.toList.map (·.universeIndex) := by
        simp [RealtimeUniverseMailbox.ready, hring]
      rw [hcons] at hready
      cases n with
      | zero =>
        simp only [List.getElem?_cons_zero, Option.some.injEq] at hready
        rw [hready, hslot] at hslot'
        cases hslot'
        exact .delivered _ rfl rfl hheld
      | succ k =>
        rw [List.getElem?_cons_succ] at hready
        have hne : index ≠ token.universeIndex := by
          have hnodup := hm.nodup
          rw [hcons, List.nodup_cons] at hnodup
          intro heq
          apply hnodup.1
          rw [← heq]
          exact List.mem_of_getElem? hready
        refine .consumed k rfl ⟨⟨slot, ?_, hheld⟩, hready⟩
        rw [slots_setSlot_of_ne _ _ hne, hslot]
  | held universeId =>
    cases h
    exact .waits rfl ⟨⟨slot, hslot, hheld⟩, hready⟩
  | heldStates =>
    cases h
    exact .waits rfl ⟨⟨slot, hslot, hheld⟩, hready⟩
  | pendingDirtyCount =>
    cases h
    exact .waits rfl ⟨⟨slot, hslot, hheld⟩, hready⟩

/-- Some round of the consumer delivers a state of `index` with its last accepted packet. -/
def DeliveredIn (m : RealtimeUniverseMailbox) (index : UniverseIndex) (packet : Packet)
    (post : List Event) : Prop :=
  ∃ front back frame, post = front ++ .consumeNext :: back
    ∧ ((machine.run m front).step .consumeNext).2 = .consumed (some frame)
    ∧ Carries frame index (lastAccepted index packet (machine.trace m front))

theorem DeliveredIn.cons {m : RealtimeUniverseMailbox} {index : UniverseIndex} {packet : Packet}
    {post : List Event} {event : Event}
    (h : (m.step event).1.DeliveredIn index
      ((accepted index (event, (m.step event).2)).getD packet) post)
    : m.DeliveredIn index packet (event :: post) := by
  obtain ⟨front, back, frame, hpost, hout, hcarries⟩ := h
  exact ⟨event :: front, back, frame, by rw [hpost]; rfl, hout, hcarries⟩

-- As long as nothing is retired, a pending state is delivered or moves up with every token the
-- consumer takes, and it always has the payload of the last packet accepted by then.
theorem Pending.run (post : List Event) {m : RealtimeUniverseMailbox} {index : UniverseIndex}
    {packet : Packet} {n : Nat} (hm : m.Coherent) (hpending : m.Pending index packet n)
    (hretires : ∀ event ∈ post, event.retires = false)
    : m.DeliveredIn index packet post
        ∨ ∃ k, k + post.countP (·.consumes) ≤ n
            ∧ (machine.run m post).Pending index
                (lastAccepted index packet (machine.trace m post)) k := by
  induction post generalizing m packet n with
  | nil => exact .inr ⟨n, by simp, hpending⟩
  | cons event post ih =>
    have hadv := hpending.step hm (hretires event List.mem_cons_self) rfl
    have hm' := coherent_step hm event
    have hretires' : ∀ event ∈ post, event.retires = false := by
      intro event h
      exact hretires event (List.mem_cons_of_mem _ h)
    cases hadv with
    | delivered frame hevent houtput hframe =>
      subst hevent
      exact .inl ⟨[], post, frame, rfl, houtput, hframe⟩
    | consumed k hn hpending' =>
      cases ih hm' hpending' hretires' with
      | inl h => exact .inl h.cons
      | inr h =>
        obtain ⟨j, hj, h⟩ := h
        refine .inr ⟨j, ?_, h⟩
        rw [List.countP_cons]
        split <;> omega
    | waits hevent hpending' =>
      cases ih hm' hpending' hretires' with
      | inl h => exact .inl h.cons
      | inr h =>
        obtain ⟨j, hj, h⟩ := h
        exact .inr ⟨j, by simpa [List.countP_cons, hevent] using hj, h⟩

theorem pending_of_accepted {m m' : RealtimeUniverseMailbox} (hm : m.Coherent)
    {index : UniverseIndex} {data : List UInt8} {length : Nat} {sequence : UInt8} {nowUs : UInt64}
    (h : m.publish index (some data) length sequence nowUs = (m', true))
    : ∃ n, n < m'.pendingDirtyCount ∧ m'.Pending index ⟨data, length⟩ n := by
  have hm' : m'.Coherent := by
    have := coherent_publish hm index (some data) length sequence nowUs
    rwa [h] at this
  have hstate : ∃ slot, m'.slots index = some slot ∧ slot.dirty = true
      ∧ Carries slot.held index ⟨data, length⟩ := by
    cases publish_cases hm index (some data) length sequence nowUs with
    | inl hpub =>
      rw [hpub.1] at h
      cases h
    | inr hpub =>
      obtain ⟨s, other, bytes, slot, hs, hused, hindex, hdata, hslot, hpub⟩ := hpub
      obtain rfl := Fin.ext hindex
      cases hdata
      rw [h] at hpub
      cases hpub with
      | coalesced hdirty => exact ⟨_, slots_setSlot_self .., hdirty, carries_accept ..⟩
      | queued hdirty => exact ⟨_, slots_setSlot_self .., rfl, carries_accept ..⟩
  obtain ⟨slot, hslot, hdirty, hcarries⟩ := hstate
  rw [(hm'.slot index slot hslot).ready] at hdirty
  obtain ⟨n, hn⟩ := List.getElem?_of_mem hdirty
  refine ⟨n, ?_, ⟨slot, hslot, hcarries⟩, hn⟩
  simpa [ready, pendingDirtyCount] using (List.getElem?_eq_some_iff.mp hn).1

theorem not_mem_ready_step {m m' : RealtimeUniverseMailbox} {output : Output} (hm : m.Coherent)
    {index : UniverseIndex} {event : Event} (hready : index ∉ m.ready)
    (h : m.step event = (m', output)) (hacc : accepted index (event, output) = none)
    : index ∉ m'.ready := by
  cases event with
  | setSubscription subscription =>
    cases h
    simp [setSubscription, ready]
  | resetSession =>
    cases h
    simp [resetSession, ready]
  | publish universeId data length sequence nowUs =>
    obtain ⟨back, hback, hisSome⟩ := ready_publish hm _ _ _ _ _ h
    rw [hback, List.mem_append, not_or]
    refine ⟨hready, ?_⟩
    intro hmem
    simpa [hacc] using hisSome index hmem
  | consumeNext =>
    have hcons := consumeNext_consumed hm
    simp only [step] at h
    generalize m.consumeNext = res at h hcons
    cases hcons with
    | idle hidle =>
      cases h
      exact hready
    | delivered token q slot hring hslot hdirty =>
      cases h
      intro hmem
      apply hready
      simp only [ready, hring, List.map_cons]
      exact List.mem_cons_of_mem _ hmem
  | held universeId =>
    cases h
    exact hready
  | heldStates =>
    cases h
    exact hready
  | pendingDirtyCount =>
    cases h
    exact hready

theorem not_mem_ready_run (events : List Event) {m : RealtimeUniverseMailbox} (hm : m.Coherent)
    {index : UniverseIndex} (hready : index ∉ m.ready)
    (hacc : ∀ entry ∈ machine.trace m events, accepted index entry = none)
    : index ∉ (machine.run m events).ready := by
  induction events generalizing m with
  | nil => exact hready
  | cons event events ih =>
    apply ih
    . exact coherent_step hm event
    . apply not_mem_ready_step hm hready rfl
      apply hacc
      exact List.mem_cons_self
    . intro entry h
      apply hacc
      rw [Machine.trace]
      exact List.mem_cons_of_mem _ h

theorem ready_of_delivered {m m' : RealtimeUniverseMailbox} (hm : m.Coherent)
    {index : UniverseIndex} {frame : DmxFrame} (h : m.consumeNext = (m', some frame))
    (hid : frame.universeId = index.val)
    : index ∈ m.ready ∧ index ∉ m'.ready := by
  have hcons := consumeNext_consumed hm
  rw [h] at hcons
  cases hcons with
  | delivered token q slot hring hslot hdirty =>
    have hcoh := hm.slot _ slot hslot
    have hindex : token.universeIndex = index := by
      apply Fin.ext
      rw [← hid, hcoh.universeId (hcoh.initialized hdirty)]
    have hready : m.ready = index :: q.toList.map (·.universeIndex) := by
      simp [ready, hring, hindex]
    have hnodup := hm.nodup
    rw [hready, List.nodup_cons] at hnodup
    refine ⟨?_, hnodup.1⟩
    rw [hready]
    exact List.mem_cons_self

/-- What an observer of the sections knows of the scene and of the packets of this session. -/
structure Observed where
  subscription : Option RealtimeSubscription := none
  latest : UniverseIndex → Option Packet := fun _ => none

def usedBy (subscription : Option RealtimeSubscription) (index : UniverseIndex) : Bool :=
  subscription.any (·.used index)

/--
A packet counts for as long as its universe stays subscribed and the session goes on, changed or
not.
-/
def Observed.next (s : Observed) : Event → Observed
  | .setSubscription subscription =>
    { subscription := subscription
      latest := fun index =>
        if usedBy s.subscription index && usedBy subscription index then s.latest index else none
    }
  | .resetSession => { s with latest := fun _ => none }
  | .publish universeId (some data) length _ _ =>
    { s with
      latest := fun index =>
        if index.val = universeId ∧ usedBy s.subscription index = true then
          some ⟨data, length⟩
        else
          s.latest index
    }
  | _ => s

def observe (events : List Event) : Observed := events.foldl .next {}

@[simp]
theorem observe_concat (events : List Event) (event : Event)
    : observe (events ++ [event]) = (observe events).next event := by
  simp [observe]

/-- The frame reads like the packet wherever the scene reads. -/
def ReadsAs (frame : DmxFrame) (mask : Nat → Bool) (packet : Packet) : Prop :=
  ∀ o, mask o = true → frame.byteAt o = byteAt packet.data packet.length o

/-- The held bytes are the observed ones. -/
structure Faithful (s : Observed) (m : RealtimeUniverseMailbox) : Prop where
  coherent : m.Coherent
  subscription : m.subscription = s.subscription
  held : ∀ subscription, m.subscription = some subscription → ∀ index,
    subscription.used index = true → ∀ slot, m.slots index = some slot → slot.initialized = true →
    ∃ packet, s.latest index = some packet
      ∧ ReadsAs slot.held (subscription.offsets index) packet

theorem hasNewOffsets_eq_false {previous : Option RealtimeSubscription}
    {subscription : RealtimeSubscription} {index : UniverseIndex}
    (h : hasNewOffsets previous subscription index = false)
    : ∃ p, previous = some p ∧ p.used index = true
        ∧ ∀ o, subscription.offsets index o = true → p.offsets index o = true := by
  unfold hasNewOffsets at h
  split at h
  . contradiction
  . next p =>
    simp only [Bool.or_eq_false_iff, Bool.not_eq_false', List.any_eq_false, List.mem_range,
      Bool.and_eq_true, Bool.not_eq_true', not_and, Bool.not_eq_false] at h
    refine ⟨p, rfl, h.1, ?_⟩
    intro o ho
    exact h.2 o (subscription.hoffset index o ho) ho

theorem resubscribeSlot_initialized {previous : Option RealtimeSubscription}
    {subscription : RealtimeSubscription} {generation : UInt64} {index : UniverseIndex}
    {old : Option Slot} {slot : Slot}
    (h : resubscribeSlot previous (some subscription) generation index old = some slot)
    (hused : subscription.used index = true) (hinit : slot.initialized = true)
    : hasNewOffsets previous subscription index = false
        ∧ ∃ slot', old = some slot' ∧ slot'.initialized = true ∧ slot.held = slot'.held := by
  obtain ⟨_, _, _, hold⟩ := resubscribeSlot_eq_some h
  refine ⟨?_, hold hinit⟩
  unfold resubscribeSlot at h
  simp only [hused, if_true, Option.some.injEq] at h
  subst h
  simp only [Slot.retire] at hinit
  split at hinit
  . contradiction
  . next hnew => simpa using hnew

theorem readsAs_of_not_relevantChange {slot : Slot} {subscription : RealtimeSubscription}
    {index : UniverseIndex} {data : List UInt8} {length : Nat}
    (h : slot.relevantChange (subscription.offsets index) data (min length kDmxSlotCount) = false)
    : ReadsAs slot.held (subscription.offsets index) ⟨data, length⟩ := by
  intro o ho
  have hlt := subscription.hoffset index o ho
  unfold Slot.relevantChange at h
  simp only [List.any_eq_false, List.mem_range, Bool.and_eq_true, bne_iff_ne, ne_eq, not_and,
    not_not] at h
  rw [← h o hlt ho]
  exact byteAt_min hlt

theorem readsAs_accept (slot : Slot) (subscription : RealtimeSubscription) (index : UniverseIndex)
    (data : List UInt8) (length : Nat) (sequence : UInt8) (nowUs : UInt64)
    : ReadsAs (accept slot index data length sequence nowUs).held (subscription.offsets index)
        ⟨data, length⟩ := by
  intro o ho
  have hmin : byteAt data (min length kDmxSlotCount) o = byteAt data length o :=
    byteAt_min (subscription.hoffset index o ho)
  rw [← hmin]
  exact byteAt_copyPayload data _ o

theorem faithful_init : Faithful {} init where
  coherent := coherent_init
  subscription := rfl
  held := by
    intro subscription h
    contradiction

theorem faithful_setSubscription {s : Observed} {m : RealtimeUniverseMailbox} (h : Faithful s m)
    (subscription : Option RealtimeSubscription)
    : Faithful (s.next (.setSubscription subscription)) (m.setSubscription subscription) where
  coherent := coherent_setSubscription h.coherent subscription
  subscription := rfl
  held := by
    intro s' hs' index hused slot hslot hinit
    cases hs'
    obtain ⟨hnew, slot', hold, hinit', hheld⟩ := resubscribeSlot_initialized hslot hused hinit
    obtain ⟨p, hp, hpused, hsubset⟩ := hasNewOffsets_eq_false hnew
    obtain ⟨packet, hpacket, hreads⟩ := h.held p hp index hpused slot' hold hinit'
    refine ⟨packet, ?_, ?_⟩
    . simp only [Observed.next]
      rw [if_pos]
      . exact hpacket
      . simp [usedBy, ← h.subscription, hp, hpused, hused]
    . intro o ho
      rw [hheld]
      exact hreads o (hsubset o ho)

theorem faithful_resetSession {s : Observed} {m : RealtimeUniverseMailbox} (h : Faithful s m)
    : Faithful (s.next .resetSession) m.resetSession where
  coherent := coherent_resetSession h.coherent
  subscription := h.subscription
  held := by
    intro s' hs' index hused slot hslot hinit
    obtain ⟨slot', _, rfl⟩ := Option.map_eq_some_iff.mp hslot
    contradiction

theorem Faithful.write {s : Observed} {m m' : RealtimeUniverseMailbox} (h : Faithful s m)
    {subscription : RealtimeSubscription} (hs : m.subscription = some subscription)
    {index : UniverseIndex} (hused : subscription.used index = true) {slot : Slot}
    {data : List UInt8} {length : Nat} {sequence : UInt8} {nowUs : UInt64} (hm' : m'.Coherent)
    (hsub : m'.subscription = m.subscription) (hself : m'.slots index = some slot)
    (hother : ∀ other, other ≠ index → m'.slots other = m.slots other)
    (hreads : ReadsAs slot.held (subscription.offsets index) ⟨data, length⟩)
    : Faithful (s.next (.publish index (some data) length sequence nowUs)) m' where
  coherent := hm'
  subscription := by rw [hsub, h.subscription]; rfl
  held := by
    intro s' hs' other hused' slot' hslot' hinit'
    rw [hsub, hs] at hs'
    cases hs'
    by_cases hne : other = index
    . subst hne
      rw [hself] at hslot'
      cases hslot'
      refine ⟨_, ?_, hreads⟩
      simp [Observed.next, usedBy, ← h.subscription, hs, hused]
    . rw [hother other hne] at hslot'
      obtain ⟨packet, hpacket, hreads⟩ := h.held _ hs other hused' slot' hslot' hinit'
      refine ⟨packet, ?_, hreads⟩
      have hval : other.val ≠ index.val := fun heq => hne (Fin.ext heq)
      simp [Observed.next, hval, hpacket]

theorem faithful_publish {s : Observed} {m : RealtimeUniverseMailbox} (h : Faithful s m)
    (universeId : Nat) (data : Option (List UInt8)) (length : Nat) (sequence : UInt8) (nowUs : UInt64)
    : Faithful (s.next (.publish universeId data length sequence nowUs))
        (m.publish universeId data length sequence nowUs).1 := by
  have hm' := coherent_publish h.coherent universeId data length sequence nowUs
  cases publish_cases h.coherent universeId data length sequence nowUs with
  | inl hpub =>
    rw [hpub.1]
    refine ⟨h.coherent, ?_, ?_⟩
    . rw [h.subscription]
      cases data <;> rfl
    . intro s' hs' index hused slot hslot hinit
      obtain ⟨packet, hpacket, hreads⟩ := h.held s' hs' index hused slot hslot hinit
      cases data with
      | none => exact ⟨packet, hpacket, hreads⟩
      | some data =>
        have hval : index.val ≠ universeId := by
          intro hid
          exact hpub.2 index hid rfl ⟨s', hs', hused⟩
        exact ⟨packet, by simp [Observed.next, hval, hpacket], hreads⟩
  | inr hpub =>
    obtain ⟨s', index, bytes, slot, hs', hused, rfl, rfl, hslot, hpub⟩ := hpub
    generalize m.publish index (some bytes) length sequence nowUs = res at hm' hpub
    cases hpub with
    | unchanged hinit hsame =>
      apply h.write hs' hused hm' rfl (slots_setSlot_self ..)
      . intro other hne
        exact slots_setSlot_of_ne _ _ hne
      . exact readsAs_of_not_relevantChange hsame
    | coalesced hdirty =>
      apply h.write hs' hused hm' rfl (slots_setSlot_self ..)
      . intro other hne
        exact slots_setSlot_of_ne _ _ hne
      . exact readsAs_accept slot s' index bytes length sequence nowUs
    | queued hdirty =>
      apply h.write hs' hused hm' rfl (slots_setSlot_self ..)
      . intro other hne
        exact slots_setSlot_of_ne _ _ hne
      . exact readsAs_accept slot s' index bytes length sequence nowUs

theorem faithful_consumeNext {s : Observed} {m : RealtimeUniverseMailbox} (h : Faithful s m)
    : Faithful (s.next .consumeNext) m.consumeNext.1 := by
  have hm' := (consumeNext_consumed h.coherent).coherent h.coherent
  have hcons := consumeNext_consumed h.coherent
  generalize m.consumeNext = res at hm' hcons
  cases hcons with
  | idle hready => exact h
  | delivered token q slot hring hslot hdirty =>
    refine ⟨hm', h.subscription, ?_⟩
    intro s' hs' index hused slot' hslot' hinit
    by_cases hne : index = token.universeIndex
    . subst hne
      rw [slots_setSlot_self] at hslot'
      cases hslot'
      exact h.held s' hs' _ hused slot hslot hinit
    . rw [slots_setSlot_of_ne _ _ hne] at hslot'
      exact h.held s' hs' index hused slot' hslot' hinit

theorem faithful_step {s : Observed} {m : RealtimeUniverseMailbox} (h : Faithful s m)
    (event : Event)
    : Faithful (s.next event) (m.step event).1 := by
  cases event with
  | setSubscription subscription => exact faithful_setSubscription h subscription
  | resetSession => exact faithful_resetSession h
  | publish universeId data length sequence nowUs => exact faithful_publish h ..
  | consumeNext => exact faithful_consumeNext h
  | held universeId => exact h
  | heldStates => exact h
  | pendingDirtyCount => exact h

theorem faithful_run (events : List Event)
    : Faithful (observe events) (machine.run machine.init events) := by
  apply machine.history_induction (fun past m => Faithful (observe past) m)
  . exact faithful_init
  . intro past m event h
    rw [observe_concat]
    exact faithful_step h event

/-- The state of `index` that a reader is handed: it is subscribed and reads as observed. -/
def ShowsLatest (s : Observed) (index : UniverseIndex) (frame : DmxFrame) : Prop :=
  frame.universeId = index.val ∧ ∃ subscription packet, s.subscription = some subscription
    ∧ subscription.used index = true ∧ s.latest index = some packet
    ∧ ReadsAs frame (subscription.offsets index) packet

theorem Faithful.showsLatest {s : Observed} {m : RealtimeUniverseMailbox} (h : Faithful s m)
    {subscription : RealtimeSubscription} (hs : m.subscription = some subscription)
    {index : UniverseIndex} (hused : subscription.used index = true) {slot : Slot}
    (hslot : m.slots index = some slot) (hinit : slot.initialized = true)
    : ShowsLatest s index slot.held := by
  obtain ⟨packet, hpacket, hreads⟩ := h.held subscription hs index hused slot hslot hinit
  have hid := (h.coherent.slot index slot hslot).universeId hinit
  exact ⟨hid, subscription, packet, h.subscription ▸ hs, hused, hpacket, hreads⟩

theorem showsLatest_of_heldOf {s : Observed} {m : RealtimeUniverseMailbox} (h : Faithful s m)
    {subscription : RealtimeSubscription} (hs : m.subscription = some subscription)
    {index : UniverseIndex} (hused : subscription.used index = true) {frame : DmxFrame}
    (hheld : m.heldOf index = some frame)
    : ShowsLatest s index frame := by
  unfold heldOf at hheld
  split at hheld
  . contradiction
  . next slot hslot =>
    split at hheld
    . next hinit =>
      cases hheld
      rw [Bool.and_eq_true] at hinit
      exact h.showsLatest hs hused hslot hinit.1
    . contradiction

theorem showsLatest_of_held {s : Observed} {m : RealtimeUniverseMailbox} (h : Faithful s m)
    {universeId : Nat} {frame : DmxFrame} (hheld : m.held universeId = some frame)
    : ∃ index : UniverseIndex, index.val = universeId ∧ ShowsLatest s index frame := by
  unfold held at hheld
  split at hheld
  . contradiction
  . next subscription hs =>
    split at hheld
    . next hused =>
      have hlt := RealtimeSubscription.lt_of_contains hused
      refine ⟨⟨universeId, hlt⟩, rfl, showsLatest_of_heldOf h hs ?_ hheld⟩
      simpa [RealtimeSubscription.contains, hlt] using hused
    . contradiction

theorem showsLatest_of_mem_heldStates {s : Observed} {m : RealtimeUniverseMailbox}
    (h : Faithful s m) {frame : DmxFrame} (hheld : frame ∈ m.heldStates)
    : ∃ index : UniverseIndex, ShowsLatest s index frame := by
  unfold heldStates at hheld
  split at hheld
  . simp at hheld
  . next subscription hs =>
    obtain ⟨index, hindex, hframe⟩ := List.mem_filterMap.mp hheld
    exact ⟨index, showsLatest_of_heldOf h hs ((subscription.hused index).mpr hindex) hframe⟩

theorem showsLatest_of_consumed {s : Observed} {m : RealtimeUniverseMailbox} (h : Faithful s m)
    {frame : DmxFrame} (hconsumed : m.consumeNext.2 = some frame)
    : ∃ index : UniverseIndex, ShowsLatest s index frame := by
  have hcons := consumeNext_consumed h.coherent
  generalize m.consumeNext = res at hcons hconsumed
  cases hcons with
  | idle hready => contradiction
  | delivered token q slot hring hslot hdirty =>
    cases hconsumed
    have hcoh := h.coherent.slot _ slot hslot
    obtain ⟨subscription, hs, hused⟩ := hcoh.used hdirty
    exact ⟨_, h.showsLatest hs hused hslot (hcoh.initialized hdirty)⟩

/-- The tokens in the ring that carry `index` and the current generation. -/
def tokenCount (m : RealtimeUniverseMailbox) (index : UniverseIndex) : Nat :=
  m.dirtyTokens.toList.countP
    (fun token => token.universeIndex == index && token.generation == m.subscriptionGeneration)

theorem Coherent.tokenCount_eq {m : RealtimeUniverseMailbox} (hm : m.Coherent)
    (index : UniverseIndex)
    : m.tokenCount index = m.ready.count index := by
  unfold tokenCount ready
  rw [List.count, List.countP_map]
  apply List.countP_congr
  intro token htoken
  simp [(hm.token token htoken).generation]

theorem Coherent.dirty_iff_tokenCount {m : RealtimeUniverseMailbox} (hm : m.Coherent)
    (index : UniverseIndex)
    : (∃ slot, m.slots index = some slot ∧ slot.dirty = true) ↔ m.tokenCount index = 1 := by
  rw [hm.tokenCount_eq]
  constructor
  . intro ⟨slot, hslot, hdirty⟩
    rw [(hm.slot index slot hslot).ready] at hdirty
    exact List.count_eq_one_of_mem hm.nodup hdirty
  . intro hcount
    apply hm.slot_of_mem_ready
    apply List.count_pos_iff.mp
    omega

/-- A packet that `publish` accepts is delivered, superseded by one that is, or still queued. -/
def DeliversAccepted (m : RealtimeUniverseMailbox) : Prop :=
  ∀ universeId data length sequence nowUs m',
    m.publish universeId data length sequence nowUs = (m', true) →
    ∃ (index : UniverseIndex) (bytes : List UInt8), universeId = index.val ∧ data = some bytes
      ∧ ∀ post : List Event, (∀ event ∈ post, event.retires = false) →
        m'.DeliveredIn index ⟨bytes, length⟩ post
          ∨ ∃ n, n + post.countP (·.consumes) < m'.pendingDirtyCount
              ∧ (machine.run m' post).Pending index
                  (lastAccepted index ⟨bytes, length⟩ (machine.trace m' post)) n

/-- After a delivery, only a newly accepted packet leads to another one of the same universe. -/
def DeliversOnce (m : RealtimeUniverseMailbox) : Prop :=
  ∀ (index : UniverseIndex) frame m', m.consumeNext = (m', some frame) →
    frame.universeId = index.val → ∀ mid : List Event,
      (∀ entry ∈ machine.trace m' mid, accepted index entry = none) →
      ∀ frame', (machine.run m' mid).consumeNext.2 = some frame' → frame'.universeId ≠ index.val

/-- Every frame handed out is the latest packet as far as the scene reads it. -/
def HandsOutLatest (s : Observed) (m : RealtimeUniverseMailbox) : Prop :=
  (∀ universeId frame, m.held universeId = some frame →
      ∃ index : UniverseIndex, index.val = universeId ∧ ShowsLatest s index frame)
    ∧ (∀ frame ∈ m.heldStates, ∃ index, ShowsLatest s index frame)
    ∧ ∀ frame, m.consumeNext.2 = some frame → ∃ index, ShowsLatest s index frame

theorem Coherent.deliversAccepted {m : RealtimeUniverseMailbox} (hm : m.Coherent)
    : m.DeliversAccepted := by
  intro universeId data length sequence nowUs m' h
  cases publish_cases hm universeId data length sequence nowUs with
  | inl hpub =>
    rw [hpub.1] at h
    cases h
  | inr hpub =>
    obtain ⟨s, index, bytes, slot, hs, hused, rfl, rfl, hslot, hpub⟩ := hpub
    refine ⟨index, bytes, rfl, rfl, ?_⟩
    intro post hretires
    obtain ⟨n, hn, hpending⟩ := pending_of_accepted hm h
    have hm' : m'.Coherent := by
      have := coherent_publish hm index (some bytes) length sequence nowUs
      rwa [h] at this
    cases hpending.run post hm' hretires with
    | inl hdelivered => exact .inl hdelivered
    | inr hwaits =>
      obtain ⟨k, hk, hwaits⟩ := hwaits
      exact .inr ⟨k, by omega, hwaits⟩

theorem Coherent.deliversOnce {m : RealtimeUniverseMailbox} (hm : m.Coherent)
    : m.DeliversOnce := by
  intro index frame m' h hid mid hacc frame' h' hid'
  have hm' : m'.Coherent := by
    have := (consumeNext_consumed hm).coherent hm
    rwa [h] at this
  have hready := not_mem_ready_run mid hm' (ready_of_delivered hm h hid).2 hacc
  have hrun : (machine.run m' mid).Coherent :=
    machine.run_induction Coherent (fun _ event hm => coherent_step hm event) hm' mid
  have hpair : (machine.run m' mid).consumeNext
      = ((machine.run m' mid).consumeNext.1, some frame') := by
    rw [← h']
  exact hready (ready_of_delivered hrun hpair hid').1

theorem Faithful.handsOutLatest {s : Observed} {m : RealtimeUniverseMailbox} (h : Faithful s m)
    : HandsOutLatest s m :=
  ⟨fun _ _ => showsLatest_of_held h, fun _ => showsLatest_of_mem_heldStates h,
    fun _ => showsLatest_of_consumed h⟩

/-- The protocol of the mailbox, after every interleaving of the sections of its threads. -/
theorem run_protocol (past : List Event)
    : let m := machine.run machine.init past
      (∀ index, (∃ slot, m.slots index = some slot ∧ slot.dirty = true) ↔ m.tokenCount index = 1)
        ∧ m.dirtyTokens.toList.length ≤ kArtNetUniverseCount
        ∧ m.DeliversAccepted
        ∧ m.DeliversOnce
        ∧ HandsOutLatest (observe past) m := by
  intro m
  have h := faithful_run past
  refine ⟨h.coherent.dirty_iff_tokenCount, ?_, h.coherent.deliversAccepted,
    h.coherent.deliversOnce, h.handsOutLatest⟩
  rw [RingQueue.length_toList]
  exact m.dirtyTokens.hcount

end RealtimeUniverseMailbox
end Peraviz.Dmx
