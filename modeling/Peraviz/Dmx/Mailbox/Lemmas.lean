import Mathlib.Data.Fintype.Card
import Mathlib.Data.Fintype.List
import Peraviz.Dmx.Mailbox.Impl

/-!
This module contains the invariant of the mailbox and what each of its sections does to it.
-/

namespace Peraviz.Dmx
namespace RealtimeUniverseMailbox

@[simp]
theorem subscription_setSlot (m : RealtimeUniverseMailbox) (index : UniverseIndex) (slot : Slot)
    : (m.setSlot index slot).subscription = m.subscription := rfl

@[simp]
theorem dirtyTokens_setSlot (m : RealtimeUniverseMailbox) (index : UniverseIndex) (slot : Slot)
    : (m.setSlot index slot).dirtyTokens = m.dirtyTokens := rfl

@[simp]
theorem subscriptionGeneration_setSlot (m : RealtimeUniverseMailbox) (index : UniverseIndex)
    (slot : Slot)
    : (m.setSlot index slot).subscriptionGeneration = m.subscriptionGeneration := rfl

@[simp]
theorem slots_setSlot_self (m : RealtimeUniverseMailbox) (index : UniverseIndex) (slot : Slot)
    : (m.setSlot index slot).slots index = some slot := by
  simp [setSlot]

theorem slots_setSlot_of_ne (m : RealtimeUniverseMailbox) {index other : UniverseIndex}
    (slot : Slot) (h : other ≠ index)
    : (m.setSlot index slot).slots other = m.slots other := by
  simp [setSlot, h]

/-- The mailbox reads the slots of this universe. -/
def Used (m : RealtimeUniverseMailbox) (index : UniverseIndex) : Prop :=
  ∃ subscription, m.subscription = some subscription ∧ subscription.used index = true

/-- The universes of the ready ring, oldest token first. -/
def ready (m : RealtimeUniverseMailbox) : List UniverseIndex :=
  m.dirtyTokens.toList.map (·.universeIndex)

/-- What holds of one slot at any time. -/
structure SlotCoherent (m : RealtimeUniverseMailbox) (index : UniverseIndex) (slot : Slot)
    : Prop where
  generation : slot.generation = m.subscriptionGeneration
  queued : slot.queued = slot.dirty
  ready : slot.dirty = true ↔ index ∈ m.ready
  used : slot.dirty = true → m.Used index
  initialized : slot.dirty = true → slot.initialized = true
  universeId : slot.initialized = true → slot.held.universeId = index.val

/-- What holds of one token as long as it is in the ring. -/
structure TokenCurrent (m : RealtimeUniverseMailbox) (token : DirtyToken) : Prop where
  generation : token.generation = m.subscriptionGeneration
  slot : ∃ slot, m.slots token.universeIndex = some slot ∧ slot.tokenId = token.tokenId

/--
The invariant of the mailbox. Since every section that starts a new generation also drops the ring,
a token in the ring is never stale.
-/
structure Coherent (m : RealtimeUniverseMailbox) : Prop where
  slot : ∀ index slot, m.slots index = some slot → m.SlotCoherent index slot
  token : ∀ token ∈ m.dirtyTokens.toList, m.TokenCurrent token
  nodup : m.ready.Nodup
  allocated : ∀ index, m.Used index → ∃ slot, m.slots index = some slot

namespace Coherent

variable {m : RealtimeUniverseMailbox}

theorem slot_of_mem_ready (hm : m.Coherent) {index : UniverseIndex} (h : index ∈ m.ready)
    : ∃ slot, m.slots index = some slot ∧ slot.dirty = true := by
  obtain ⟨token, htoken, rfl⟩ := List.mem_map.mp h
  obtain ⟨slot, hslot, _⟩ := (hm.token token htoken).slot
  refine ⟨slot, hslot, ?_⟩
  rw [(hm.slot _ slot hslot).ready]
  exact h

theorem count_lt (hm : m.Coherent) {index : UniverseIndex} (h : index ∉ m.ready)
    : m.dirtyTokens.count < kArtNetUniverseCount := by
  have hnodup : (index :: m.ready).Nodup := List.nodup_cons.mpr ⟨h, hm.nodup⟩
  have hcard := hnodup.length_le_card
  simp only [List.length_cons, ready, List.length_map, RingQueue.length_toList,
    Fintype.card_fin] at hcard
  omega

end Coherent

theorem coherent_init : init.Coherent where
  slot := by simp [init]
  token := by simp [init]
  nodup := by simp [init, ready]
  allocated := by simp [init, Used]

-- A section that starts a new generation leaves every slot clean and the ring empty.
theorem coherent_of_retired {m : RealtimeUniverseMailbox} (hring : m.dirtyTokens.toList = [])
    (hslot : ∀ index slot, m.slots index = some slot
      → slot.generation = m.subscriptionGeneration ∧ slot.queued = false ∧ slot.dirty = false
        ∧ (slot.initialized = true → slot.held.universeId = index.val))
    (halloc : ∀ index, m.Used index → ∃ slot, m.slots index = some slot)
    : m.Coherent where
  slot := by
    intro index slot h
    obtain ⟨hgen, hqueued, hdirty, hid⟩ := hslot index slot h
    constructor <;> simp_all [ready]
  token := by simp [hring]
  nodup := by simp [ready, hring]
  allocated := halloc

theorem resubscribeSlot_eq_some {previous subscription : Option RealtimeSubscription}
    {generation : UInt64} {index : UniverseIndex} {old : Option Slot} {slot : Slot}
    (h : resubscribeSlot previous subscription generation index old = some slot)
    : slot.generation = generation ∧ slot.queued = false ∧ slot.dirty = false
        ∧ (slot.initialized = true → ∃ slot', old = some slot' ∧ slot'.initialized = true
            ∧ slot.held = slot'.held) := by
  unfold resubscribeSlot at h
  split at h
  . next =>
    obtain ⟨slot', hold, rfl⟩ := Option.map_eq_some_iff.mp h
    exact ⟨rfl, rfl, rfl, fun hinit => ⟨slot', hold, hinit, rfl⟩⟩
  . next =>
    split at h
    . next =>
      injection h with h
      subst h
      refine ⟨rfl, rfl, rfl, ?_⟩
      intro hinit
      cases old with
      | none => simp [Slot.retire] at hinit
      | some slot' =>
        refine ⟨slot', rfl, ?_, rfl⟩
        simp only [Slot.retire, Option.getD_some] at hinit
        split at hinit
        . contradiction
        . exact hinit
    . next =>
      obtain ⟨slot', hold, rfl⟩ := Option.map_eq_some_iff.mp h
      exact ⟨rfl, rfl, rfl, fun hinit => ⟨slot', hold, hinit, rfl⟩⟩

theorem coherent_setSubscription {m : RealtimeUniverseMailbox} (hm : m.Coherent)
    (subscription : Option RealtimeSubscription)
    : (m.setSubscription subscription).Coherent := by
  apply coherent_of_retired
  . rfl
  . intro index slot h
    obtain ⟨hgen, hqueued, hdirty, hinit⟩ := resubscribeSlot_eq_some h
    refine ⟨hgen, hqueued, hdirty, ?_⟩
    intro h
    obtain ⟨slot', hold, hinit', hheld⟩ := hinit h
    rw [hheld]
    exact (hm.slot index slot' hold).universeId hinit'
  . intro index ⟨s, hs, hused⟩
    cases hs
    exact ⟨_, by simp only [setSubscription, resubscribeSlot, hused]; rfl⟩

theorem coherent_resetSession {m : RealtimeUniverseMailbox} (hm : m.Coherent)
    : m.resetSession.Coherent := by
  apply coherent_of_retired
  . rfl
  . intro index slot h
    obtain ⟨slot', _, rfl⟩ := Option.map_eq_some_iff.mp h
    exact ⟨rfl, rfl, rfl, fun hinit => by contradiction⟩
  . intro index hused
    obtain ⟨slot, hslot⟩ := hm.allocated index hused
    exact ⟨_, by simp only [resetSession, hslot]; rfl⟩

/-- The slot after a packet that changes it, before it is queued. -/
def accept (slot : Slot) (index : UniverseIndex) (data : List UInt8) (length : Nat)
    (sequence : UInt8) (nowUs : UInt64) : Slot :=
  (slot.touch sequence nowUs).store index data (min length kDmxSlotCount)

/-- The mailbox after `token` was put into the ring for the slot that a packet made dirty. -/
def queue (m : RealtimeUniverseMailbox) (index : UniverseIndex) (slot : Slot)
    : RealtimeUniverseMailbox :=
  { m with
    nextTokenId := m.nextTokenId + 1
    dirtyTokens := m.dirtyTokens.push ⟨index, slot.generation, m.nextTokenId + 1⟩
  }.setSlot index { slot with dirty := true, queued := true, tokenId := m.nextTokenId + 1 }

/-- The outcomes of `publish` for a packet of a used universe. -/
inductive Published (m : RealtimeUniverseMailbox) (mask : Nat → Bool) (index : UniverseIndex)
    (slot : Slot) (data : List UInt8) (length : Nat) (sequence : UInt8) (nowUs : UInt64)
    : RealtimeUniverseMailbox × Bool → Prop where
  | unchanged (hinit : slot.initialized = true)
      (hsame : slot.relevantChange mask data (min length kDmxSlotCount) = false)
      : Published m mask index slot data length sequence nowUs
          (m.setSlot index (slot.touch sequence nowUs), false)
  | coalesced (hdirty : slot.dirty = true)
      : Published m mask index slot data length sequence nowUs
          (m.setSlot index (accept slot index data length sequence nowUs), true)
  | queued (hdirty : slot.dirty = false)
      : Published m mask index slot data length sequence nowUs
          (m.queue index (accept slot index data length sequence nowUs), true)

theorem publishSlot_published {m : RealtimeUniverseMailbox} (hm : m.Coherent)
    (subscription : RealtimeSubscription) {index : UniverseIndex} {slot : Slot}
    (hslot : m.slots index = some slot) (data : List UInt8) (length : Nat) (sequence : UInt8)
    (nowUs : UInt64)
    : Published m (subscription.offsets index) index slot data length sequence nowUs
        (m.publishSlot subscription index slot data length sequence nowUs) := by
  have hcoh := hm.slot index slot hslot
  unfold publishSlot
  dsimp only
  split
  . next =>
    split
    . next hdirty => exact .coalesced hdirty
    . next hdirty =>
      have hdirty : slot.dirty = false := by simpa [Slot.store, Slot.touch] using hdirty
      have hready : index ∉ m.ready := by
        rw [← hcoh.ready]
        simp [hdirty]
      have hlt := hm.count_lt hready
      have hqueued : slot.queued = false := by rw [hcoh.queued, hdirty]
      unfold enqueueDirtyLocked
      rw [if_neg (by simp [Slot.store, Slot.touch, hqueued, hlt])]
      exact .queued hdirty
  . next hchanged =>
    simp only [Bool.or_eq_true, Bool.not_eq_true', not_or, Bool.not_eq_false,
      Bool.not_eq_true] at hchanged
    exact .unchanged hchanged.1 hchanged.2

theorem publish_of_not_used {m : RealtimeUniverseMailbox} {universeId : Nat}
    (h : ∀ index : UniverseIndex, index.val = universeId → ¬m.Used index)
    (data : Option (List UInt8)) (length : Nat) (sequence : UInt8) (nowUs : UInt64)
    : m.publish universeId data length sequence nowUs = (m, false) := by
  unfold publish
  split
  . next data s hs =>
    split
    . next hused =>
      have hlt := RealtimeSubscription.lt_of_contains hused
      refine absurd ⟨s, hs, ?_⟩ (h ⟨universeId, hlt⟩ rfl)
      simpa [RealtimeSubscription.contains, hlt] using hused
    . rfl
  . rfl

theorem publish_of_used {m : RealtimeUniverseMailbox} (hm : m.Coherent)
    {subscription : RealtimeSubscription} (hs : m.subscription = some subscription)
    {index : UniverseIndex} (hused : subscription.used index = true) {slot : Slot}
    (hslot : m.slots index = some slot) (data : List UInt8) (length : Nat) (sequence : UInt8)
    (nowUs : UInt64)
    : m.publish index (some data) length sequence nowUs
        = m.publishSlot subscription index slot data length sequence nowUs := by
  have hgen := (hm.slot index slot hslot).generation
  unfold publish
  simp [hs, hused, hslot, hgen]

theorem publish_cases {m : RealtimeUniverseMailbox} (hm : m.Coherent) (universeId : Nat)
    (data : Option (List UInt8)) (length : Nat) (sequence : UInt8) (nowUs : UInt64)
    : (m.publish universeId data length sequence nowUs = (m, false)
          ∧ ∀ index : UniverseIndex, index.val = universeId → data.isSome = true → ¬m.Used index)
        ∨ ∃ subscription index bytes slot, m.subscription = some subscription
            ∧ subscription.used index = true ∧ universeId = index.val ∧ data = some bytes
            ∧ m.slots index = some slot
            ∧ Published m (subscription.offsets index) index slot bytes length sequence nowUs
                (m.publish universeId data length sequence nowUs) := by
  cases data with
  | none =>
    apply Or.inl
    simp [publish]
  | some bytes =>
    by_cases h : ∃ index : UniverseIndex, index.val = universeId ∧ m.Used index
    . obtain ⟨index, rfl, s, hs, hused⟩ := h
      obtain ⟨slot, hslot⟩ := hm.allocated index ⟨s, hs, hused⟩
      refine .inr ⟨s, index, bytes, slot, hs, hused, rfl, rfl, hslot, ?_⟩
      rw [publish_of_used hm hs hused hslot]
      exact publishSlot_published hm s hslot bytes length sequence nowUs
    . have hnot : ∀ index : UniverseIndex, index.val = universeId → ¬m.Used index := by
        intro index hid hused
        exact h ⟨index, hid, hused⟩
      exact .inl ⟨publish_of_not_used hnot .., fun index hid _ => hnot index hid⟩

/-- The outcomes of one round of `consumeDirtyFrames`. -/
inductive Consumed (m : RealtimeUniverseMailbox) : RealtimeUniverseMailbox × Option DmxFrame → Prop
    where
  | idle (hready : m.ready = []) : Consumed m (m, none)
  | delivered (token : DirtyToken) (q : RingQueue kArtNetUniverseCount DirtyToken) (slot : Slot)
      (hring : m.dirtyTokens.toList = token :: q.toList)
      (hslot : m.slots token.universeIndex = some slot) (hdirty : slot.dirty = true)
      : Consumed m
          ({ m with dirtyTokens := q }.setSlot token.universeIndex
            { slot with dirty := false, queued := false }, some slot.held)

theorem consumeNext_consumed {m : RealtimeUniverseMailbox} (hm : m.Coherent)
    : Consumed m m.consumeNext := by
  unfold consumeNext
  split
  . next hpop =>
    rw [RingQueue.pop_eq_none] at hpop
    exact .idle (by simp [ready, hpop])
  . next token q hpop =>
    have hring := RingQueue.toList_of_pop_eq_some hpop
    obtain ⟨hgen, slot, hslot, htoken⟩ := hm.token token (by simp [hring])
    have hcoh := hm.slot _ slot hslot
    have hdirty : slot.dirty = true := by
      rw [hcoh.ready]
      simp [ready, hring]
    have hqueued : slot.queued = true := by rw [hcoh.queued, hdirty]
    unfold consumeTokenLocked
    simp only [hslot]
    rw [if_neg (by simp [hcoh.generation, hgen, htoken, hdirty, hqueued])]
    exact .delivered token q slot hring hslot hdirty

-- A slot that a section does not write stays coherent if the ring keeps or drops its token.
theorem SlotCoherent.congr {m m' : RealtimeUniverseMailbox} {index : UniverseIndex} {slot : Slot}
    (h : m.SlotCoherent index slot) (hsub : m'.subscription = m.subscription)
    (hgen : m'.subscriptionGeneration = m.subscriptionGeneration)
    (hready : index ∈ m'.ready ↔ index ∈ m.ready)
    : m'.SlotCoherent index slot where
  generation := by rw [hgen, h.generation]
  queued := h.queued
  ready := by rw [h.ready, hready]
  used := by
    intro hdirty
    obtain ⟨s, hs, hused⟩ := h.used hdirty
    exact ⟨s, by rw [hsub, hs], hused⟩
  initialized := h.initialized
  universeId := h.universeId

theorem Coherent.setSlot {m : RealtimeUniverseMailbox} (hm : m.Coherent) {index : UniverseIndex}
    {slot slot' : Slot} (hslot : m.slots index = some slot) (hcoh : m.SlotCoherent index slot')
    (htoken : slot'.tokenId = slot.tokenId)
    : (m.setSlot index slot').Coherent where
  slot := by
    intro other s h
    by_cases hne : other = index
    . subst hne
      rw [slots_setSlot_self] at h
      injection h with h
      subst h
      exact hcoh.congr rfl rfl Iff.rfl
    . rw [slots_setSlot_of_ne m slot' hne] at h
      exact (hm.slot other s h).congr rfl rfl Iff.rfl
  token := by
    intro token h
    obtain ⟨hgen, s, hs, hid⟩ := hm.token token h
    refine ⟨hgen, ?_⟩
    by_cases hne : token.universeIndex = index
    . refine ⟨slot', by rw [hne, slots_setSlot_self], ?_⟩
      rw [hne, hslot] at hs
      injection hs with hs
      rw [htoken, hs, hid]
    . exact ⟨s, by rw [slots_setSlot_of_ne m slot' hne, hs], hid⟩
  nodup := hm.nodup
  allocated := by
    intro other hused
    by_cases hne : other = index
    . exact ⟨slot', by rw [hne, slots_setSlot_self]⟩
    . rw [slots_setSlot_of_ne m slot' hne]
      exact hm.allocated other hused

theorem ready_queue {m : RealtimeUniverseMailbox} (hm : m.Coherent) {index : UniverseIndex}
    (h : index ∉ m.ready) (slot : Slot)
    : (m.queue index slot).ready = m.ready ++ [index] := by
  unfold queue ready
  rw [dirtyTokens_setSlot, RingQueue.toList_push_of_lt _ _ (hm.count_lt h), List.map_append]
  rfl

theorem Coherent.queue {m : RealtimeUniverseMailbox} (hm : m.Coherent) {index : UniverseIndex}
    {slot : Slot} (hready : index ∉ m.ready) (hused : m.Used index)
    (hgen : slot.generation = m.subscriptionGeneration) (hinit : slot.initialized = true)
    (hid : slot.held.universeId = index.val)
    : (m.queue index slot).Coherent where
  slot := by
    intro other s h
    by_cases hne : other = index
    . subst hne
      rw [RealtimeUniverseMailbox.queue, slots_setSlot_self] at h
      injection h with h
      subst h
      constructor
      . exact hgen
      . rfl
      . simp [ready_queue hm hready]
      . intro _
        exact hused
      . intro _
        exact hinit
      . intro _
        exact hid
    . rw [RealtimeUniverseMailbox.queue, slots_setSlot_of_ne _ _ hne] at h
      apply (hm.slot other s h).congr
      . rfl
      . rfl
      . simp [ready_queue hm hready, hne]
  token := by
    intro token h
    rw [RealtimeUniverseMailbox.queue, dirtyTokens_setSlot,
      RingQueue.toList_push_of_lt _ _ (hm.count_lt hready), List.mem_append, List.mem_singleton] at h
    cases h with
    | inl h =>
      obtain ⟨hcur, s, hs, hid⟩ := hm.token token h
      have hne : token.universeIndex ≠ index := by
        intro heq
        apply hready
        rw [← heq]
        exact List.mem_map_of_mem h
      exact ⟨hcur, s, by rw [RealtimeUniverseMailbox.queue, slots_setSlot_of_ne _ _ hne, hs], hid⟩
    | inr h =>
      subst h
      exact ⟨hgen, _, slots_setSlot_self _ _ _, rfl⟩
  nodup := by
    rw [ready_queue hm hready, List.nodup_append]
    refine ⟨hm.nodup, List.nodup_singleton index, ?_⟩
    intro u hu v hv heq
    rw [List.mem_singleton] at hv
    rw [heq, hv] at hu
    exact hready hu
  allocated := by
    intro other h
    by_cases hne : other = index
    . exact ⟨_, by rw [hne, RealtimeUniverseMailbox.queue, slots_setSlot_self]⟩
    . rw [RealtimeUniverseMailbox.queue, slots_setSlot_of_ne _ _ hne]
      exact hm.allocated other h

theorem Published.coherent {m : RealtimeUniverseMailbox} (hm : m.Coherent) {mask : Nat → Bool}
    {index : UniverseIndex} {slot : Slot} {data : List UInt8} {length : Nat} {sequence : UInt8}
    {nowUs : UInt64} {res : RealtimeUniverseMailbox × Bool} (hused : m.Used index)
    (hslot : m.slots index = some slot)
    (h : Published m mask index slot data length sequence nowUs res)
    : res.1.Coherent := by
  have hcoh := hm.slot index slot hslot
  cases h with
  | unchanged hinit hsame =>
    apply hm.setSlot hslot
    . constructor
      . exact hcoh.generation
      . exact hcoh.queued
      . exact hcoh.ready
      . exact hcoh.used
      . exact hcoh.initialized
      . exact hcoh.universeId
    . rfl
  | coalesced hdirty =>
    apply hm.setSlot hslot
    . constructor
      . exact hcoh.generation
      . exact hcoh.queued
      . exact hcoh.ready
      . exact hcoh.used
      . intro _
        rfl
      . intro _
        rfl
    . rfl
  | queued hdirty =>
    apply hm.queue
    . rw [← hcoh.ready]
      simp [hdirty]
    . exact hused
    . exact hcoh.generation
    . rfl
    . rfl

theorem Consumed.coherent {m : RealtimeUniverseMailbox} (hm : m.Coherent)
    {res : RealtimeUniverseMailbox × Option DmxFrame} (h : m.Consumed res)
    : res.1.Coherent := by
  cases h with
  | idle hready => exact hm
  | delivered token q slot hring hslot hdirty =>
    have hcoh := hm.slot _ slot hslot
    have hready : m.ready = token.universeIndex :: q.toList.map (·.universeIndex) := by
      simp [ready, hring]
    have hnodup := hm.nodup
    rw [hready, List.nodup_cons] at hnodup
    constructor
    . intro other s h
      by_cases hne : other = token.universeIndex
      . subst hne
        rw [slots_setSlot_self] at h
        injection h with h
        subst h
        constructor
        . exact hcoh.generation
        . rfl
        . simpa [ready] using hnodup.1
        . simp
        . simp
        . exact hcoh.universeId
      . rw [slots_setSlot_of_ne _ _ hne] at h
        apply (hm.slot other s h).congr
        . rfl
        . rfl
        . rw [hready]
          simp [ready, hne]
    . intro other h
      have hmem : other.universeIndex ∈ q.toList.map (·.universeIndex) := List.mem_map_of_mem h
      obtain ⟨hgen, s, hs, hid⟩ := hm.token other (by rw [hring]; exact List.mem_cons_of_mem _ h)
      have hne : other.universeIndex ≠ token.universeIndex := by
        intro heq
        apply hnodup.1
        rw [← heq]
        exact hmem
      exact ⟨hgen, s, by rw [slots_setSlot_of_ne _ _ hne, hs], hid⟩
    . exact hnodup.2
    . intro other hused
      by_cases hne : other = token.universeIndex
      . exact ⟨_, by rw [hne, slots_setSlot_self]⟩
      . rw [slots_setSlot_of_ne _ _ hne]
        exact hm.allocated other hused

theorem coherent_publish {m : RealtimeUniverseMailbox} (hm : m.Coherent) (universeId : Nat)
    (data : Option (List UInt8)) (length : Nat) (sequence : UInt8) (nowUs : UInt64)
    : (m.publish universeId data length sequence nowUs).1.Coherent := by
  cases publish_cases hm universeId data length sequence nowUs with
  | inl h =>
    rw [h.1]
    exact hm
  | inr h =>
    obtain ⟨s, index, bytes, slot, hs, hused, _, _, hslot, hpub⟩ := h
    exact hpub.coherent hm ⟨s, hs, hused⟩ hslot

theorem coherent_step {m : RealtimeUniverseMailbox} (hm : m.Coherent) (event : Event)
    : (m.step event).1.Coherent := by
  cases event with
  | setSubscription subscription => exact coherent_setSubscription hm subscription
  | resetSession => exact coherent_resetSession hm
  | publish universeId data length sequence nowUs => exact coherent_publish hm ..
  | consumeNext => exact (consumeNext_consumed hm).coherent hm
  | held universeId => exact hm
  | heldStates => exact hm
  | pendingDirtyCount => exact hm

theorem coherent_run (events : List Event) : (machine.run machine.init events).Coherent :=
  machine.run_induction Coherent (fun _ event hm => coherent_step hm event) coherent_init events

end RealtimeUniverseMailbox
end Peraviz.Dmx
