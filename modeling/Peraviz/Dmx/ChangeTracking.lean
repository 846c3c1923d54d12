import Peraviz.Dmx.DmxUniverseCache
import Peraviz.Transition.Machine

/-!
This module contains the change tracking of the universe cache over whole histories: writers, capture
sessions and consumers take turns at the locks, and what a reader sees is compared with the bytes
that the writes of a universe leave behind.
-/

namespace Peraviz.Dmx

structure WriteCall where
  universeId : Nat
  data : Option (List UInt8)
  length : Nat
  sequence : UInt8
  nowUs : UInt64
  captureGeneration : UInt64
  -- a caller hands over as many bytes as it says
  covered : ∀ bytes, data = some bytes → length ≤ bytes.length

namespace WriteCall

def payload (call : WriteCall) : List UInt8 :=
  (call.data.getD []).take (min call.length kDmxSlotCount)

/-- The calls that `write_frame` does not drop at its first check. -/
def Reaches (call : WriteCall) (universeId : Nat) : Prop :=
  call.universeId = universeId ∧ universeId < kArtNetUniverseCount ∧ call.data.isSome = true

instance (call : WriteCall) (universeId : Nat) : Decidable (call.Reaches universeId) :=
  inferInstanceAs (Decidable (_ ∧ _))

def applyTo (call : WriteCall) (slot : UniverseSlot) : UniverseSlot :=
  slot.write (call.data.getD []) call.length call.sequence call.nowUs call.captureGeneration

theorem length_payload {call : WriteCall} {universeId : Nat} (h : call.Reaches universeId)
    : call.payload.length = min call.length kDmxSlotCount := by
  have hdata := h.2.2
  cases hbytes : call.data with
  | none => simp [hbytes] at hdata
  | some bytes =>
    have := call.covered bytes hbytes
    simp only [payload, hbytes, Option.getD_some, List.length_take]
    omega

end WriteCall

/-- What the writes of a universe leave behind: each one lays its bytes over those of the same
capture generation. -/
structure Capture where
  generation : UInt64
  bytes : List UInt8
  sequence : UInt8
  lastRxUs : UInt64

def overlay (old new : List UInt8) : List UInt8 :=
  new ++ old.drop new.length

theorem overlay_eq_self_iff (old new : List UInt8)
    : overlay old new = old ↔ new <+: old := by
  constructor
  . intro h
    exact ⟨old.drop new.length, h⟩
  . intro h
    obtain ⟨rest, rfl⟩ := h
    simp [overlay]

namespace Capture

def bytesUnder (capture : Option Capture) (generation : UInt64) : List UInt8 :=
  match capture with
  | some capture => if capture.generation = generation then capture.bytes else []
  | none => []

def write (capture : Option Capture) (call : WriteCall) : Capture where
  generation := call.captureGeneration
  bytes := overlay (bytesUnder capture call.captureGeneration) call.payload
  sequence := call.sequence
  lastRxUs := call.nowUs

def ShownBy (capture : Capture) (frame : DmxFrame) : Prop :=
  frame.length = capture.bytes.length ∧ frame.data.take frame.length = capture.bytes
    ∧ frame.sequence = capture.sequence ∧ frame.lastRxUs = capture.lastRxUs

end Capture

namespace UniverseSlot

def front (slot : UniverseSlot) : List UInt8 :=
  slot.buffers slot.frontIndex

def captured (slot : UniverseSlot) : List UInt8 :=
  slot.front.take slot.length

def payloadChanged (slot : UniverseSlot) (call : WriteCall) : Bool :=
  slot.captureGeneration != call.captureGeneration
    || slot.front.take (min call.length kDmxSlotCount) != call.payload

structure Holds (slot : UniverseSlot) (capture : Capture) : Prop where
  buffers : ∀ i, (slot.buffers i).length = kDmxSlotCount
  length : slot.length ≤ kDmxSlotCount
  bytes : slot.captured = capture.bytes
  generation : slot.captureGeneration = capture.generation
  sequence : slot.sequence = capture.sequence
  lastRxUs : slot.lastRxUs = capture.lastRxUs

theorem writeChanged_eq (slot : UniverseSlot) (call : WriteCall)
    : (!(slot.captureGeneration == call.captureGeneration)
        || (decide (0 < min call.length kDmxSlotCount)
          && slot.front.take (min call.length kDmxSlotCount)
            != (call.data.getD []).take (min call.length kDmxSlotCount)))
        = slot.payloadChanged call := by
  unfold payloadChanged WriteCall.payload
  generalize min call.length kDmxSlotCount = safeLength
  cases safeLength with
  | zero => simp [bne]
  | succ n => simp [bne]

theorem counter_applyTo (slot : UniverseSlot) (call : WriteCall)
    : (call.applyTo slot).counter
        = if slot.payloadChanged call then slot.counter + 1 else slot.counter := by
  have h := writeChanged_eq slot call
  unfold front at h
  simp only [WriteCall.applyTo, write, h]

theorem dirty_applyTo (slot : UniverseSlot) (call : WriteCall)
    : (call.applyTo slot).dirty = (slot.payloadChanged call || slot.dirty) := by
  have h := writeChanged_eq slot call
  unfold front at h
  simp only [WriteCall.applyTo, write, h]

theorem front_applyTo (slot : UniverseSlot) (call : WriteCall)
    : (call.applyTo slot).front
        = memcpy (memcpy (slot.buffers (1 - slot.frontIndex)) slot.front
            (if slot.captureGeneration = call.captureGeneration then slot.length else 0))
          (call.data.getD []) (min call.length kDmxSlotCount) := by
  unfold WriteCall.applyTo write front
  simp

theorem length_applyTo (slot : UniverseSlot) (call : WriteCall)
    : (call.applyTo slot).length
        = max (if slot.captureGeneration = call.captureGeneration then slot.length else 0)
          (min call.length kDmxSlotCount) := by
  unfold WriteCall.applyTo write
  simp

theorem length_memcpy {target source : List UInt8} {length : Nat} (h : length ≤ source.length)
    (htarget : length ≤ target.length)
    : (memcpy target source length).length = target.length := by
  simp only [memcpy, List.length_append, List.length_take, List.length_drop]
  omega

-- the bytes of the back buffer beyond both lengths are cut off
theorem take_memcpy_memcpy {target old new : List UInt8} {held length : Nat}
    (hheld : held ≤ old.length) (hnew : length ≤ new.length)
    : (memcpy (memcpy target old held) new length).take (max held length)
        = overlay (old.take held) (new.take length) := by
  have hlength : (new.take length).length = length := by
    rw [List.length_take]
    omega
  have hheldLength : (old.take held).length = held := by
    rw [List.length_take]
    omega
  unfold overlay
  rw [hlength, memcpy, List.take_append, hlength, List.take_of_length_le (by omega)]
  congr 1
  rw [memcpy]
  cases Nat.le_total length held with
  | inl hle =>
    rw [← List.drop_take, Nat.max_eq_left hle, List.take_left' hheldLength]
  | inr hle =>
    rw [Nat.max_eq_right hle, Nat.sub_self, List.take_zero, List.drop_eq_nil_of_le]
    omega

theorem captured_applyTo {slot : UniverseSlot} {call : WriteCall} {universeId : Nat}
    (hreaches : call.Reaches universeId) (hlength : slot.length ≤ slot.front.length)
    : (call.applyTo slot).captured
        = overlay (if slot.captureGeneration = call.captureGeneration then slot.captured else [])
          call.payload := by
  have hpayload := WriteCall.length_payload hreaches
  unfold WriteCall.payload at hpayload ⊢
  rw [List.length_take] at hpayload
  rw [captured, front_applyTo, length_applyTo, take_memcpy_memcpy _ (by omega)]
  . split
    . rfl
    . rw [List.take_zero]
  . split
    . exact hlength
    . omega

theorem buffers_applyTo (slot : UniverseSlot) (call : WriteCall) (i : Fin 2)
    : (call.applyTo slot).buffers i = slot.buffers i
      ∨ (call.applyTo slot).buffers i = (call.applyTo slot).front := by
  unfold WriteCall.applyTo write front
  by_cases h : i = 1 - slot.frontIndex
  . right
    rw [h]
  . left
    simp [h]

/-- What is written to a slot is held by it, whatever was in it before. -/
theorem holds_applyTo {slot : UniverseSlot} {call : WriteCall} {universeId : Nat}
    (hreaches : call.Reaches universeId)
    (hbuffers : ∀ i, (slot.buffers i).length = kDmxSlotCount)
    (hlength : slot.length ≤ kDmxSlotCount) {previous : Option Capture}
    (hprevious : (if slot.captureGeneration = call.captureGeneration then slot.captured else [])
      = Capture.bytesUnder previous call.captureGeneration)
    : (call.applyTo slot).Holds (Capture.write previous call) := by
  have hfront : slot.front.length = kDmxSlotCount := hbuffers slot.frontIndex
  have hpayload := WriteCall.length_payload hreaches
  constructor
  . intro i
    cases buffers_applyTo slot call i with
    | inl h =>
      rw [h]
      apply hbuffers
    | inr h =>
      have hdata : min call.length kDmxSlotCount ≤ (call.data.getD []).length := by
        unfold WriteCall.payload at hpayload
        rw [List.length_take] at hpayload
        omega
      have hheld : (if slot.captureGeneration = call.captureGeneration then slot.length else 0)
          ≤ kDmxSlotCount := by
        split <;> omega
      have hback := hbuffers (1 - slot.frontIndex)
      rw [h, front_applyTo, length_memcpy hdata, length_memcpy]
      . exact hback
      . omega
      . omega
      . rw [length_memcpy] <;> omega
  . rw [length_applyTo]
    split <;> omega
  . rw [captured_applyTo hreaches (by omega), hprevious]
    rfl
  . rfl
  . rfl
  . rfl

theorem Holds.write {slot : UniverseSlot} {capture : Capture} {call : WriteCall}
    {universeId : Nat} (h : slot.Holds capture) (hreaches : call.Reaches universeId)
    : (call.applyTo slot).Holds (Capture.write (some capture) call) := by
  apply holds_applyTo hreaches h.buffers h.length
  rw [h.generation, h.bytes]
  rfl

theorem holds_first {call : WriteCall} {universeId : Nat} (hreaches : call.Reaches universeId)
    : (call.applyTo {}).Holds (Capture.write none call) := by
  apply holds_applyTo hreaches (fun _ => List.length_replicate) (Nat.zero_le _)
  unfold captured
  simp [Capture.bytesUnder]

theorem Holds.setDirty {slot : UniverseSlot} {capture : Capture} (h : slot.Holds capture)
    (dirty : Bool)
    : { slot with dirty := dirty }.Holds capture :=
  ⟨h.buffers, h.length, h.bytes, h.generation, h.sequence, h.lastRxUs⟩

theorem Holds.shownBy {slot : UniverseSlot} {capture : Capture} (h : slot.Holds capture)
    (universeId : Nat)
    : capture.ShownBy (slot.toFrame universeId) := by
  have hlength := h.length
  have hfront : slot.front.length = kDmxSlotCount := h.buffers slot.frontIndex
  have hcaptured : slot.captured.length = slot.length := by
    rw [captured, List.length_take]
    omega
  refine ⟨?_, ?_, h.sequence, h.lastRxUs⟩
  . rw [← h.bytes, hcaptured]
    rfl
  . rw [← h.bytes]
    exact List.take_left' hcaptured

end UniverseSlot

namespace DmxUniverseCache

def write (cache : DmxUniverseCache) (call : WriteCall) : DmxUniverseCache :=
  (cache.writeFrame call.universeId call.data call.length call.sequence call.nowUs
    call.captureGeneration).getD cache

def slotAt (cache : DmxUniverseCache) (universeId : Nat) : UniverseSlot :=
  (cache.getSlot universeId).getD UniverseSlot.unwritten

def visible (cache : DmxUniverseCache) (universeId : Nat) : Option (Nat × List UInt8) :=
  (cache.tryGetFrame universeId).map (fun frame => (frame.length, frame.data.take frame.length))

def counterAt (cache : DmxUniverseCache) (universeId : Nat) : UInt32 :=
  (cache.slotAt universeId).counter

def Marked (before after : DmxUniverseCache) (universeId : Nat) : Prop :=
  (after.slotAt universeId).dirty = true
    ∧ before.counterAt universeId < after.counterAt universeId

/-- The write makes the visible frame longer, by bytes that the front buffer holds already. -/
def GrowsOverHeldBytes (cache : DmxUniverseCache) (call : WriteCall) : Prop :=
  call.captureGeneration = cache.activeCaptureGeneration
    ∧ (cache.slotAt call.universeId).captureGeneration = cache.activeCaptureGeneration
    ∧ (cache.getSlot call.universeId = none
      ∨ (cache.slotAt call.universeId).length < min call.length kDmxSlotCount)
    ∧ (cache.slotAt call.universeId).front.take (min call.length kDmxSlotCount) = call.payload

/-- The write is counted by a counter that has reached its last value. -/
def CountsOver (cache : DmxUniverseCache) (call : WriteCall) : Prop :=
  cache.counterAt call.universeId = 4294967295
    ∧ (cache.slotAt call.universeId).payloadChanged call = true
    ∧ (call.captureGeneration = cache.activeCaptureGeneration
      ∨ (cache.slotAt call.universeId).captureGeneration = cache.activeCaptureGeneration)

theorem write_of_not_reaches {cache : DmxUniverseCache} {call : WriteCall}
    (h : ¬call.Reaches call.universeId)
    : cache.write call = cache := by
  unfold write writeFrame
  cases hdata : call.data with
  | none => rfl
  | some bytes =>
    have : kArtNetUniverseCount ≤ call.universeId := by
      have hout : ¬call.universeId < kArtNetUniverseCount := by
        intro hlt
        exact h ⟨rfl, hlt, by rw [hdata]; rfl⟩
      omega
    simp [this]

theorem slots_write {cache : DmxUniverseCache} {call : WriteCall}
    (h : call.Reaches call.universeId)
    : (cache.write call).slots
        = Function.update cache.slots ⟨call.universeId, h.2.1⟩
            (some (call.applyTo (cache.slotAt call.universeId))) := by
  obtain ⟨bytes, hdata⟩ := Option.isSome_iff_exists.mp h.2.2
  have hlt : ¬kArtNetUniverseCount ≤ call.universeId := by
    have := h.2.1
    omega
  unfold write writeFrame getOrCreateSlot slotIndex? slotAt getSlot WriteCall.applyTo
  simp only [hdata, if_neg hlt, dif_pos h.2.1, Option.bind_eq_bind, Option.bind_some]
  cases cache.slots ⟨call.universeId, h.2.1⟩ with
  | none => simp [UniverseSlot.unwritten]
  | some slot => simp

theorem active_write (cache : DmxUniverseCache) (call : WriteCall)
    : (cache.write call).activeCaptureGeneration = cache.activeCaptureGeneration := by
  by_cases h : call.Reaches call.universeId
  . obtain ⟨bytes, hdata⟩ := Option.isSome_iff_exists.mp h.2.2
    have hlt : ¬kArtNetUniverseCount ≤ call.universeId := by
      have := h.2.1
      omega
    unfold write writeFrame getOrCreateSlot slotIndex?
    simp only [hdata, if_neg hlt, dif_pos h.2.1, Option.bind_eq_bind, Option.bind_some]
    cases cache.slots ⟨call.universeId, h.2.1⟩ with
    | none => rfl
    | some slot => rfl
  . rw [write_of_not_reaches h]

theorem getSlot_write (cache : DmxUniverseCache) (call : WriteCall) (universeId : Nat)
    : (cache.write call).getSlot universeId
        = if call.Reaches universeId then some (call.applyTo (cache.slotAt universeId))
          else cache.getSlot universeId := by
  by_cases h : call.Reaches call.universeId
  . unfold getSlot
    rw [slots_write h]
    split
    . next hlt =>
      by_cases heq : call.universeId = universeId
      . subst heq
        rw [if_pos h, Function.update_self]
      . rw [if_neg (fun hreaches => heq hreaches.1), Function.update_of_ne]
        intro hfin
        exact heq (congrArg Fin.val hfin).symm
    . next hge => rw [if_neg (fun hreaches => hge hreaches.2.1)]
  . rw [write_of_not_reaches h, if_neg]
    intro hreaches
    apply h
    rw [hreaches.1]
    exact hreaches

theorem lt_add_one_iff (counter : UInt32) : counter < counter + 1 ↔ counter ≠ 4294967295 := by
  rw [UInt32.lt_iff_toNat_lt, UInt32.toNat_add, Ne, ← UInt32.toNat_inj]
  have := counter.toNat_lt
  have hone : (1 : UInt32).toNat = 1 := rfl
  have hlast : (4294967295 : UInt32).toNat = 4294967295 := rfl
  omega

theorem marked_write_iff {cache : DmxUniverseCache} {call : WriteCall} {universeId : Nat}
    (h : call.Reaches universeId)
    : Marked cache (cache.write call) universeId
        ↔ (cache.slotAt universeId).payloadChanged call = true
          ∧ cache.counterAt universeId ≠ 4294967295 := by
  have hafter : (cache.write call).slotAt universeId = call.applyTo (cache.slotAt universeId) := by
    rw [slotAt, getSlot_write, if_pos h]
    rfl
  unfold Marked counterAt
  rw [hafter, UniverseSlot.dirty_applyTo, UniverseSlot.counter_applyTo]
  cases (cache.slotAt universeId).payloadChanged call with
  | true => simp [lt_add_one_iff]
  | false => simp

theorem visible_of_holds {cache : DmxUniverseCache} {universeId : Nat} {slot : UniverseSlot}
    {capture : Capture} (hslot : cache.getSlot universeId = some slot) (h : slot.Holds capture)
    : cache.visible universeId
        = if slot.captureGeneration = cache.activeCaptureGeneration then
            some (capture.bytes.length, capture.bytes)
          else none := by
  have hshown := h.shownBy universeId
  unfold visible tryGetFrame
  rw [hslot]
  simp only [Option.bind_eq_bind, Option.bind_some]
  split
  . rw [Option.pure_def, Option.map_some, hshown.2.1, hshown.1]
  . rfl

theorem payload_prefix_iff {slot : UniverseSlot} {capture : Capture} {call : WriteCall}
    {universeId : Nat} (h : slot.Holds capture) (hreaches : call.Reaches universeId)
    : call.payload <+: capture.bytes
        ↔ min call.length kDmxSlotCount ≤ slot.length
          ∧ slot.front.take (min call.length kDmxSlotCount) = call.payload := by
  have hlength := h.length
  have hfront : slot.front.length = kDmxSlotCount := h.buffers slot.frontIndex
  rw [← h.bytes, UniverseSlot.captured, List.prefix_iff_eq_take,
    WriteCall.length_payload hreaches, List.take_take]
  constructor
  . intro heq
    have hle : min call.length kDmxSlotCount ≤ slot.length := by
      have hlen := congrArg List.length heq
      rw [WriteCall.length_payload hreaches, List.length_take] at hlen
      omega
    rw [Nat.min_eq_left hle] at heq
    exact ⟨hle, heq.symm⟩
  . intro hboth
    rw [Nat.min_eq_left hboth.1]
    exact hboth.2.symm

theorem payloadChanged_eq_true (slot : UniverseSlot) (call : WriteCall)
    : slot.payloadChanged call = true
        ↔ slot.captureGeneration ≠ call.captureGeneration
          ∨ slot.front.take (min call.length kDmxSlotCount) ≠ call.payload := by
  simp [UniverseSlot.payloadChanged]

theorem visible_write {cache : DmxUniverseCache} {call : WriteCall} {universeId : Nat}
    {previous : Option Capture} (hreaches : call.Reaches universeId)
    (h : (call.applyTo (cache.slotAt universeId)).Holds (Capture.write previous call))
    : (cache.write call).visible universeId
        = if call.captureGeneration = cache.activeCaptureGeneration then
            some ((Capture.write previous call).bytes.length, (Capture.write previous call).bytes)
          else none := by
  rw [visible_of_holds _ h, active_write, h.generation]
  . rfl
  . rw [getSlot_write, if_pos hreaches]

/-- The write does what the tracking promises: a change that readers see is marked and counted. -/
def Tracked (cache : DmxUniverseCache) (call : WriteCall) (universeId : Nat) : Prop :=
  (cache.write call).visible universeId ≠ cache.visible universeId →
    Marked cache (cache.write call) universeId

-- the first write of a universe is compared with the zeros of a slot at generation zero
theorem tracked_first_iff {cache : DmxUniverseCache} {call : WriteCall}
    (h : call.Reaches call.universeId) (hslot : cache.getSlot call.universeId = none)
    : cache.Tracked call call.universeId
        ↔ ¬cache.GrowsOverHeldBytes call ∧ ¬cache.CountsOver call := by
  have hslotAt : cache.slotAt call.universeId = {} := by rw [slotAt, hslot]; rfl
  have hbefore : cache.visible call.universeId = none := by
    rw [visible, tryGetFrame, hslot]
    rfl
  have hfirst : (call.applyTo (cache.slotAt call.universeId)).Holds (Capture.write none call) := by
    rw [hslotAt]
    exact UniverseSlot.holds_first h
  have hafter := visible_write h hfirst
  have hcounter : cache.counterAt call.universeId ≠ 4294967295 := by
    rw [counterAt, hslotAt]
    decide
  unfold Tracked GrowsOverHeldBytes CountsOver
  rw [hafter, hbefore, marked_write_iff h, payloadChanged_eq_true, hslot]
  by_cases hactive : call.captureGeneration = cache.activeCaptureGeneration
  . rw [if_pos hactive]
    grind
  . rw [if_neg hactive]
    grind

theorem tracked_next_iff {cache : DmxUniverseCache} {call : WriteCall} {slot : UniverseSlot}
    {capture : Capture} (h : call.Reaches call.universeId)
    (hslot : cache.getSlot call.universeId = some slot) (hholds : slot.Holds capture)
    : cache.Tracked call call.universeId
        ↔ ¬cache.GrowsOverHeldBytes call ∧ ¬cache.CountsOver call := by
  have hslotAt : cache.slotAt call.universeId = slot := by rw [slotAt, hslot]; rfl
  have hbefore := visible_of_holds hslot hholds
  have hnext : (call.applyTo (cache.slotAt call.universeId)).Holds
      (Capture.write (some capture) call) := by
    rw [hslotAt]
    exact hholds.write h
  have hafter := visible_write h hnext
  have hpayload := payload_prefix_iff hholds h
  unfold Tracked GrowsOverHeldBytes CountsOver
  rw [hafter, hbefore, marked_write_iff h, payloadChanged_eq_true, hslotAt, hslot]
  by_cases hactive : call.captureGeneration = cache.activeCaptureGeneration
  . by_cases hsame : slot.captureGeneration = cache.activeCaptureGeneration
    . -- both are of the active generation: the bytes decide
      have hbytes : (Capture.write (some capture) call).bytes = overlay capture.bytes call.payload := by
        have hgeneration : capture.generation = call.captureGeneration := by
          rw [← hholds.generation, hsame, hactive]
        simp [Capture.write, Capture.bytesUnder, hgeneration]
      rw [if_pos hactive, if_pos hsame, hbytes]
      have hchanged : some ((overlay capture.bytes call.payload).length,
            overlay capture.bytes call.payload) ≠ some (capture.bytes.length, capture.bytes)
          ↔ ¬(min call.length kDmxSlotCount ≤ slot.length
            ∧ slot.front.take (min call.length kDmxSlotCount) = call.payload) := by
        rw [← hpayload, ← overlay_eq_self_iff]
        constructor
        . intro hne heq
          apply hne
          rw [heq]
        . intro hne heq
          apply hne
          exact congrArg (fun entry : Nat × List UInt8 => entry.2) (Option.some.inj heq)
      rw [hchanged]
      grind
    . grind
  . grind

end DmxUniverseCache
inductive MonitorEvent where
  | write (call : WriteCall)
  | beginCaptureSession
  /-- A consumer takes the dirty flag of a universe. -/
  | claim (universeId : Nat)
  /-- A consumer that has taken the flag copies the frame. -/
  | read (universeId : Nat)

/-- The cache with the consumers that are between the exchange of the flag and the lock. -/
structure Monitor where
  cache : DmxUniverseCache := {}
  claimed : List Nat := []

namespace Monitor

def step (s : Monitor) : MonitorEvent → Monitor × Option DmxFrame
  | .write call => ({ s with cache := s.cache.write call }, none)
  | .beginCaptureSession => ({ s with cache := s.cache.beginCaptureSession.1 }, none)
  | .claim universeId =>
    match s.cache.claimDirty universeId with
    | none => (s, none)
    | some cache => ({ cache, claimed := universeId :: s.claimed }, none)
  | .read universeId =>
    if universeId ∈ s.claimed then
      ({ s with claimed := s.claimed.erase universeId }, s.cache.readFrame universeId)
    else (s, none)

def machine : Machine Monitor MonitorEvent (Option DmxFrame) where
  init := {}
  step := step

abbrev after (events : List MonitorEvent) : Monitor :=
  machine.run machine.init events

def captureStep (universeId : Nat) (capture : Option Capture) : MonitorEvent → Option Capture
  | .write call => if call.Reaches universeId then some (Capture.write capture call) else capture
  | _ => capture

/-- What all the writes of a history leave behind for a universe. -/
def captureOf (events : List MonitorEvent) (universeId : Nat) : Option Capture :=
  events.foldl (captureStep universeId) none

def Represents (events : List MonitorEvent) (s : Monitor) : Prop :=
  ∀ universeId, Option.Rel UniverseSlot.Holds (s.cache.getSlot universeId)
    (captureOf events universeId)

theorem captureOf_concat (events : List MonitorEvent) (event : MonitorEvent) (universeId : Nat)
    : captureOf (events ++ [event]) universeId
        = captureStep universeId (captureOf events universeId) event := by
  simp [captureOf]

theorem represents_write {events : List MonitorEvent} {s : Monitor} (h : Represents events s)
    (call : WriteCall)
    : Represents (events ++ [.write call]) (s.step (.write call)).1 := by
  intro universeId
  have hprevious := h universeId
  rw [captureOf_concat]
  simp only [step, captureStep, DmxUniverseCache.getSlot_write, DmxUniverseCache.slotAt]
  split
  . next hreaches =>
    cases hslot : s.cache.getSlot universeId with
    | none =>
      rw [hslot] at hprevious
      cases hcapture : captureOf events universeId with
      | none =>
        apply Option.Rel.some
        exact UniverseSlot.holds_first hreaches
      | some capture =>
        rw [hcapture] at hprevious
        cases hprevious
    | some slot =>
      rw [hslot] at hprevious
      cases hcapture : captureOf events universeId with
      | none =>
        rw [hcapture] at hprevious
        cases hprevious
      | some capture =>
        rw [hcapture] at hprevious
        cases hprevious with
        | some hholds =>
          apply Option.Rel.some
          exact hholds.write hreaches
  . exact hprevious

theorem cache_read (s : Monitor) (universeId : Nat)
    : (s.step (.read universeId)).1.cache = s.cache := by
  unfold step
  dsimp only
  split <;> rfl

theorem cache_claim (s : Monitor) (universeId : Nat)
    : (s.step (.claim universeId)).1.cache = (s.cache.claimDirty universeId).getD s.cache := by
  unfold step
  dsimp only
  split
  . next h => rw [h, Option.getD_none]
  . next h => rw [h, Option.getD_some]

theorem claimDirty_eq_some {cache claimed : DmxUniverseCache} {universeId : Nat}
    (h : cache.claimDirty universeId = some claimed)
    : ∃ index slot, slotIndex? universeId = some index ∧ cache.slots index = some slot
        ∧ slot.captureGeneration = cache.activeCaptureGeneration ∧ slot.dirty = true
        ∧ claimed = { cache with slots := Function.update cache.slots index (some { slot with
          dirty := false }) } := by
  unfold DmxUniverseCache.claimDirty at h
  obtain ⟨index, hindex, h⟩ := Option.bind_eq_some_iff.mp h
  obtain ⟨slot, hslot, h⟩ := Option.bind_eq_some_iff.mp h
  split at h
  . cases h
  . next hclaims =>
    cases h
    refine ⟨index, slot, hindex, hslot, ?_, ?_, rfl⟩
    . tauto
    . cases hdirty : slot.dirty with
      | true => rfl
      | false => exact absurd (Or.inr hdirty) hclaims

theorem getSlot_claimDirty {cache claimed : DmxUniverseCache} {universeId : Nat}
    (h : cache.claimDirty universeId = some claimed) (other : Nat)
    : claimed.getSlot other = cache.getSlot other
      ∨ ∃ slot, cache.getSlot other = some slot
        ∧ claimed.getSlot other = some { slot with dirty := false } := by
  obtain ⟨index, slot, hindex, hslot, _, _, rfl⟩ := claimDirty_eq_some h
  unfold DmxUniverseCache.getSlot
  split
  . next hlt =>
    by_cases heq : index = ⟨other, hlt⟩
    . right
      subst heq
      exact ⟨slot, hslot, Function.update_self ..⟩
    . left
      exact Function.update_of_ne (Ne.symm heq) ..
  . left
    rfl

theorem represents_claim {events : List MonitorEvent} {s : Monitor} (h : Represents events s)
    (universeId : Nat)
    : Represents (events ++ [.claim universeId]) (s.step (.claim universeId)).1 := by
  intro other
  have hprevious := h other
  rw [captureOf_concat]
  simp only [step, captureStep]
  cases hclaim : s.cache.claimDirty universeId with
  | none => exact hprevious
  | some claimed =>
    cases getSlot_claimDirty hclaim other with
    | inl heq =>
      simp only [heq]
      exact hprevious
    | inr hcleared =>
      obtain ⟨slot, hslot, hclaimed⟩ := hcleared
      rw [hslot] at hprevious
      simp only [hclaimed]
      cases hcapture : captureOf events other with
      | none =>
        rw [hcapture] at hprevious
        cases hprevious
      | some capture =>
        rw [hcapture] at hprevious
        cases hprevious with
        | some hholds =>
          apply Option.Rel.some
          exact hholds.setDirty false

/-- After any history, the slots hold what the writes of the history leave behind. -/
theorem represents_after (events : List MonitorEvent) : Represents events (after events) := by
  apply machine.history_induction Represents
  . intro universeId
    have hnone : ({} : DmxUniverseCache).getSlot universeId = none := by
      unfold DmxUniverseCache.getSlot
      split <;> rfl
    rw [show machine.init.cache.getSlot universeId = none from hnone]
    exact Option.Rel.none
  . intro past s event ih
    cases event with
    | write call => exact represents_write ih call
    | claim universeId => exact represents_claim ih universeId
    | beginCaptureSession =>
      intro universeId
      rw [captureOf_concat]
      exact ih universeId
    | read universeId =>
      intro other
      rw [captureOf_concat]
      change Option.Rel UniverseSlot.Holds ((s.step (.read universeId)).1.cache.getSlot other) _
      rw [cache_read]
      exact ih other

theorem tracked_elsewhere {cache : DmxUniverseCache} {call : WriteCall} {universeId : Nat}
    (h : ¬call.Reaches universeId)
    : cache.Tracked call universeId := by
  intro hvisible
  apply absurd _ hvisible
  unfold DmxUniverseCache.visible DmxUniverseCache.tryGetFrame
  rw [DmxUniverseCache.getSlot_write, if_neg h, DmxUniverseCache.active_write]

theorem tracked_iff {events : List MonitorEvent} {s : Monitor} (h : Represents events s)
    {call : WriteCall} (hreaches : call.Reaches call.universeId)
    : s.cache.Tracked call call.universeId
        ↔ ¬s.cache.GrowsOverHeldBytes call ∧ ¬s.cache.CountsOver call := by
  have hholds := h call.universeId
  cases hslot : s.cache.getSlot call.universeId with
  | none => exact DmxUniverseCache.tracked_first_iff hreaches hslot
  | some slot =>
    rw [hslot] at hholds
    cases hcapture : captureOf events call.universeId with
    | none =>
      rw [hcapture] at hholds
      cases hholds
    | some capture =>
      rw [hcapture] at hholds
      cases hholds with
      | some hholds => exact DmxUniverseCache.tracked_next_iff hreaches hslot hholds

theorem read_shows_capture {events : List MonitorEvent} {s : Monitor} (h : Represents events s)
    {universeId : Nat} {frame : DmxFrame}
    (hframe : (s.step (.read universeId)).2 = some frame)
    : ∃ capture, captureOf events universeId = some capture ∧ capture.ShownBy frame := by
  have hholds := h universeId
  unfold step at hframe
  dsimp only at hframe
  split at hframe
  . unfold DmxUniverseCache.readFrame at hframe
    obtain ⟨slot, hslot, heq⟩ := Option.map_eq_some_iff.mp hframe
    rw [hslot] at hholds
    cases hcapture : captureOf events universeId with
    | none =>
      rw [hcapture] at hholds
      cases hholds
    | some capture =>
      rw [hcapture] at hholds
      cases hholds with
      | some hholds =>
        refine ⟨capture, rfl, ?_⟩
        rw [← heq]
        exact hholds.shownBy universeId
  . cases hframe

theorem listed_write {cache : DmxUniverseCache}
    (h : ∀ index, (cache.slots index).isSome = true → index ∈ cache.activeUniverseIds)
    (call : WriteCall)
    : ∀ index, ((cache.write call).slots index).isSome = true →
        index ∈ (cache.write call).activeUniverseIds := by
  by_cases hreaches : call.Reaches call.universeId
  . intro index
    rw [DmxUniverseCache.slots_write hreaches]
    obtain ⟨bytes, hdata⟩ := Option.isSome_iff_exists.mp hreaches.2.2
    have hlt : ¬kArtNetUniverseCount ≤ call.universeId := by
      have := hreaches.2.1
      omega
    intro hsome
    have hindex : index = ⟨call.universeId, hreaches.2.1⟩ ∨ index ∈ cache.activeUniverseIds := by
      by_cases heq : index = ⟨call.universeId, hreaches.2.1⟩
      . left
        exact heq
      . right
        rw [Function.update_of_ne heq] at hsome
        exact h index hsome
    unfold DmxUniverseCache.write DmxUniverseCache.writeFrame DmxUniverseCache.getOrCreateSlot
      slotIndex?
    simp only [hdata, if_neg hlt, dif_pos hreaches.2.1, Option.bind_eq_bind, Option.bind_some]
    cases hslot : cache.slots ⟨call.universeId, hreaches.2.1⟩ with
    | none =>
      simp only [Option.pure_def, Option.bind_some, Option.getD_some, List.mem_append,
        List.mem_singleton]
      exact hindex.symm
    | some slot =>
      simp only [Option.pure_def, Option.bind_some, Option.getD_some]
      cases hindex with
      | inl heq =>
        apply h
        rw [heq, hslot]
        rfl
      | inr hmem => exact hmem
  . rw [DmxUniverseCache.write_of_not_reaches hreaches]
    exact h

theorem listed_after (events : List MonitorEvent)
    : ∀ index, ((after events).cache.slots index).isSome = true →
        index ∈ (after events).cache.activeUniverseIds := by
  refine machine.run_induction (fun s => ∀ index, (s.cache.slots index).isSome = true →
    index ∈ s.cache.activeUniverseIds) ?_ (by intro index h; cases h) events
  intro s event ih
  cases event with
  | write call => exact listed_write ih call
  | beginCaptureSession => exact ih
  | claim universeId =>
    intro index hsome
    change (((s.step (.claim universeId)).1.cache.slots index).isSome = true) at hsome
    change index ∈ (s.step (.claim universeId)).1.cache.activeUniverseIds
    rw [cache_claim] at hsome ⊢
    cases hclaim : s.cache.claimDirty universeId with
    | none =>
      rw [hclaim] at hsome
      exact ih index hsome
    | some claimed =>
      rw [hclaim] at hsome
      obtain ⟨other, slot, _, hslot, _, _, rfl⟩ := claimDirty_eq_some hclaim
      by_cases heq : index = other
      . apply ih
        rw [heq, hslot]
        rfl
      . apply ih
        rw [← hsome]
        exact congrArg Option.isSome (Function.update_of_ne heq ..).symm
  | read universeId =>
    intro index hsome
    have hcache : (s.step (.read universeId)).1.cache = s.cache := cache_read s universeId
    change (((s.step (.read universeId)).1.cache.slots index).isSome = true) at hsome
    change index ∈ (s.step (.read universeId)).1.cache.activeUniverseIds
    rw [hcache] at hsome ⊢
    exact ih index hsome

/-- The dirty universes are those at which a consumer gets the flag. -/
theorem mem_getDirtyUniverses_iff (events : List MonitorEvent) (index : UniverseIndex)
    : index ∈ (after events).cache.getDirtyUniverses
        ↔ ((after events).cache.claimDirty index).isSome = true := by
  have hlisted := listed_after events index
  have hindex : slotIndex? index = some index := dif_pos index.isLt
  unfold DmxUniverseCache.getDirtyUniverses DmxUniverseCache.claimDirty
  rw [List.mem_filter, hindex]
  cases hslot : (after events).cache.slots index with
  | none => simp [hslot]
  | some slot =>
    rw [hslot] at hlisted
    simp only [hlisted rfl, hslot, true_and, Option.bind_eq_bind, Option.bind_some]
    cases slot.dirty with
    | true => simp
    | false => simp

/-- One call of `consume_frame` is the exchange of the flag with the copy right behind it. -/
theorem consumeFrame_eq (s : Monitor) {universeId : Nat} (h : universeId ∉ s.claimed)
    : s.cache.consumeFrame universeId
        = (((s.step (.claim universeId)).1.step (.read universeId)).1.cache,
          ((s.step (.claim universeId)).1.step (.read universeId)).2) := by
  unfold DmxUniverseCache.consumeFrame
  cases hclaim : s.cache.claimDirty universeId with
  | none => simp [step, hclaim, h]
  | some claimed => simp [step, hclaim]

/-- A write marks and counts what it changes for readers, a consumer gets the latest write. -/
def StepHolds (front : List MonitorEvent) : MonitorEvent → Prop
  | .write call => ∀ universeId, (after front).cache.Tracked call universeId
  | .read universeId => ∀ frame, ((after front).step (.read universeId)).2 = some frame →
      ∃ capture, captureOf front universeId = some capture ∧ capture.ShownBy frame
  | _ => True

def Overlooked (cache : DmxUniverseCache) (call : WriteCall) : Prop :=
  call.Reaches call.universeId ∧ (cache.GrowsOverHeldBytes call ∨ cache.CountsOver call)

theorem stepHolds_write_iff (front : List MonitorEvent) (call : WriteCall)
    : StepHolds front (.write call) ↔ ¬Overlooked (after front).cache call := by
  unfold StepHolds Overlooked
  by_cases hreaches : call.Reaches call.universeId
  . have hiff := tracked_iff (represents_after front) hreaches
    constructor
    . intro h
      have := hiff.mp (h call.universeId)
      tauto
    . intro h universeId
      by_cases hother : call.Reaches universeId
      . rw [← hother.1]
        apply hiff.mpr
        tauto
      . exact tracked_elsewhere hother
  . constructor
    . intro _ h
      exact hreaches h.1
    . intro _ universeId
      apply tracked_elsewhere
      intro hother
      apply hreaches
      rw [hother.1]
      exact hother

/-- Over every history, the changes of the visible frames are tracked and the consumers are served
the latest writes exactly when no write is overlooked. -/
theorem changeTracking_iff (events : List MonitorEvent)
    : (∀ front event back, events = front ++ event :: back → StepHolds front event)
        ↔ ∀ front call back, events = front ++ .write call :: back →
          ¬Overlooked (after front).cache call := by
  constructor
  . intro h front call back heq
    exact (stepHolds_write_iff front call).mp (h front _ back heq)
  . intro h front event back heq
    cases event with
    | write call => exact (stepHolds_write_iff front call).mpr (h front call back heq)
    | beginCaptureSession => trivial
    | claim universeId => trivial
    | read universeId =>
      intro frame hframe
      exact read_shows_capture (represents_after front) hframe

def writeOf (data : List UInt8) (sequence : UInt8) (nowUs : UInt64) : WriteCall where
  universeId := 10
  data := some data
  length := data.length
  sequence := sequence
  nowUs := nowUs
  captureGeneration := 1
  covered := by
    intro bytes h
    rw [Option.some.inj h]

/-- Two bytes, then the same two with two zeros behind them. -/
theorem growth_not_tracked
    : ¬∀ front event back,
        [.beginCaptureSession, .write (writeOf [1, 2] 1 100), .write (writeOf [1, 2, 0, 0] 2 200)]
          = front ++ event :: back → StepHolds front event := by
  intro h
  have hstep := h [.beginCaptureSession, .write (writeOf [1, 2] 1 100)]
    (.write (writeOf [1, 2, 0, 0] 2 200)) [] rfl
  have hchanged : ((after [.beginCaptureSession, .write (writeOf [1, 2] 1 100)]).cache.write
        (writeOf [1, 2, 0, 0] 2 200)).visible 10
      ≠ (after [.beginCaptureSession, .write (writeOf [1, 2] 1 100)]).cache.visible 10 := by
    decide +kernel
  have hcounter := (hstep 10 hchanged).2
  revert hcounter
  decide +kernel

end Monitor
end Peraviz.Dmx
