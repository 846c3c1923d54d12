import Mathlib.Data.List.Basic
import Mathlib.Logic.Function.Basic
import Peraviz.Transition.Machine

/-!
This module contains the tracker of the sequence numbers of Art-Net and its decisions about the
packets of one stream: those that are accepted are the ones with a higher position than all that
were accepted before, as long as the network does not reorder more than half of the cycle of the
numbers.
-/

namespace Peraviz.Dmx

structure ArtNetEndpoint where
  ipv4 : UInt32 := 0
  port : UInt16 := 0
  deriving DecidableEq, Repr

structure ArtNetSequenceDecision where
  accepted : Bool := false
  sourceChanged : Bool := false
  deriving DecidableEq, Repr

structure SequenceState where
  endpoint : ArtNetEndpoint := {}
  sequence : UInt8 := 0
  ordered : Bool := false
  initialized : Bool := false
  deriving DecidableEq, Repr

/-- A state of every universe, the one of a universe never seen is the default. -/
structure ArtNetSequenceTracker where
  states : Nat → SequenceState := fun _ => {}

namespace ArtNetSequenceTracker

/-- The distance from `previous` to `incoming` on the cycle of the numbers from 1 to 255. -/
def forward (previous incoming : UInt8) : Nat :=
  (Int.tmod (((incoming.toNat : Int) - 1) - ((previous.toNat : Int) - 1) + 255) 255).toNat

def acceptState (state : SequenceState) (sequence : UInt8) (endpoint : ArtNetEndpoint)
    : SequenceState × ArtNetSequenceDecision :=
  let sourceChanged := state.initialized && state.endpoint != endpoint
  if !state.initialized || sourceChanged then
    (⟨endpoint, sequence, sequence != 0, true⟩, ⟨true, sourceChanged⟩)
  else if sequence = 0 then
    ({ state with ordered := false, sequence := 0 }, ⟨true, false⟩)
  else if !state.ordered then
    ({ state with sequence := sequence, ordered := true }, ⟨true, false⟩)
  else
    let forward := forward state.sequence sequence
    if forward = 0 ∨ 127 < forward then
      (state, ⟨false, false⟩)
    else
      ({ state with sequence := sequence }, ⟨true, false⟩)

def accept (tracker : ArtNetSequenceTracker) (universeId : Nat) (sequence : UInt8)
    (endpoint : ArtNetEndpoint) : ArtNetSequenceTracker × ArtNetSequenceDecision :=
  let res := acceptState (tracker.states universeId) sequence endpoint
  (⟨Function.update tracker.states universeId res.1⟩, res.2)

def reset (_tracker : ArtNetSequenceTracker) : ArtNetSequenceTracker := {}

end ArtNetSequenceTracker
end Peraviz.Dmx

/-! ### The packets of one stream -/

namespace Peraviz.Dmx

structure SequencedPacket where
  universeId : Nat
  sequence : UInt8
  endpoint : ArtNetEndpoint
  deriving DecidableEq, Repr

namespace ArtNetSequenceTracker

def machine : Machine ArtNetSequenceTracker SequencedPacket ArtNetSequenceDecision where
  init := {}
  step := fun tracker packet => tracker.accept packet.universeId packet.sequence packet.endpoint

/-- The decisions about the packets of a universe. -/
def decisions (tracker : ArtNetSequenceTracker) (universeId : Nat) (packets : List SequencedPacket)
    : List ArtNetSequenceDecision :=
  ((machine.trace tracker packets).filter (fun e => e.1.universeId = universeId)).map
    Prod.snd

end ArtNetSequenceTracker

/-- The number of a position, the cycle of the numbers goes from 1 to 255. -/
def streamNumber (position : Nat) : UInt8 := UInt8.ofNat (position % 255 + 1)

def streamPacket (universeId : Nat) (endpoint : ArtNetEndpoint) (position : Nat) : SequencedPacket :=
  ⟨universeId, streamNumber position, endpoint⟩

/-- Each position is within 126 of the highest one in front of it. -/
def WithinWindow : Option Nat → List Nat → Prop
  | _, [] => True
  | none, position :: positions => WithinWindow (some position) positions
  | some highest, position :: positions =>
    position ≤ highest + 126 ∧ highest ≤ position + 126
      ∧ WithinWindow (some (max highest position)) positions

/-- Whether each position is higher than all of those in front of it. -/
def advances : Option Nat → List Nat → List Bool
  | _, [] => []
  | none, position :: positions => true :: advances (some position) positions
  | some highest, position :: positions =>
    decide (highest < position) :: advances (some (max highest position)) positions

namespace ArtNetSequenceTracker

/-! ### One universe -/

theorem accept_of_ne (tracker : ArtNetSequenceTracker) {universeId other : Nat} (h : other ≠ universeId)
    (sequence : UInt8) (endpoint : ArtNetEndpoint)
    : (tracker.accept other sequence endpoint).1.states universeId = tracker.states universeId := by
  simp only [accept]
  rw [Function.update_of_ne (Ne.symm h)]

theorem accept_congr {tracker tracker' : ArtNetSequenceTracker} {universeId : Nat}
    (h : tracker.states universeId = tracker'.states universeId) (sequence : UInt8)
    (endpoint : ArtNetEndpoint)
    : (tracker.accept universeId sequence endpoint).2 = (tracker'.accept universeId sequence endpoint).2
        ∧ (tracker.accept universeId sequence endpoint).1.states universeId
          = (tracker'.accept universeId sequence endpoint).1.states universeId := by
  simp only [accept, Function.update_self]
  rw [h]
  exact ⟨rfl, rfl⟩

theorem decisions_cons (tracker : ArtNetSequenceTracker) (universeId : Nat)
    (packet : SequencedPacket) (packets : List SequencedPacket)
    : tracker.decisions universeId (packet :: packets)
        = (if packet.universeId = universeId then
            [(tracker.accept packet.universeId packet.sequence packet.endpoint).2]
          else
            [])
          ++ (tracker.accept packet.universeId packet.sequence packet.endpoint).1.decisions
            universeId packets := by
  unfold decisions
  rw [Machine.trace, List.filter_cons]
  split
  next h =>
    rw [if_pos (by simpa using h)]
    rfl
  next h =>
    rw [if_neg (by simpa using h)]
    rfl

theorem decisions_filter {tracker tracker' : ArtNetSequenceTracker} {universeId : Nat}
    (h : tracker.states universeId = tracker'.states universeId) (packets : List SequencedPacket)
    : tracker.decisions universeId packets
        = tracker'.decisions universeId (packets.filter (fun packet =>
          packet.universeId = universeId)) := by
  induction packets generalizing tracker tracker' with
  | nil => rfl
  | cons packet packets ih =>
    rw [decisions_cons, List.filter_cons]
    by_cases hsame : packet.universeId = universeId
    . subst hsame
      have hcongr := accept_congr h packet.sequence packet.endpoint
      simp only [if_true, decide_true]
      rw [decisions_cons, if_pos rfl, hcongr.1, ih hcongr.2]
    . rw [if_neg hsame, if_neg (by simpa using hsame), List.nil_append]
      apply ih
      rw [accept_of_ne tracker hsame]
      exact h

/-! ### One stream -/

theorem toNat_streamNumber (position : Nat)
    : (streamNumber position).toNat = position % 255 + 1 := by
  have hlt : position % 255 < 255 := Nat.mod_lt _ (by omega)
  simp only [streamNumber, UInt8.toNat_ofNat']
  omega

theorem streamNumber_ne_zero (position : Nat) : streamNumber position ≠ 0 := by
  intro h
  have hzero := congrArg UInt8.toNat h
  rw [toNat_streamNumber] at hzero
  simp at hzero

-- Half of the cycle is further than the network reorders, so the distance tells the two apart.
theorem forward_streamNumber {highest position : Nat} (habove : position ≤ highest + 126)
    (hbelow : highest ≤ position + 126)
    : (forward (streamNumber highest) (streamNumber position) = 0
        ∨ 127 < forward (streamNumber highest) (streamNumber position)) ↔ ¬ highest < position := by
  unfold forward
  rw [toNat_streamNumber, toNat_streamNumber, Int.tmod_eq_emod_of_nonneg (by omega)]
  omega

theorem acceptState_stream {endpoint : ArtNetEndpoint} {highest position : Nat}
    (habove : position ≤ highest + 126) (hbelow : highest ≤ position + 126)
    : acceptState ⟨endpoint, streamNumber highest, true, true⟩ (streamNumber position) endpoint
        = (⟨endpoint, streamNumber (max highest position), true, true⟩,
          ⟨decide (highest < position), false⟩) := by
  have hforward := forward_streamNumber habove hbelow
  unfold acceptState
  simp only [Bool.not_true, bne_self_eq_false, Bool.and_false, Bool.or_false, Bool.false_eq_true,
    if_false, streamNumber_ne_zero]
  split
  next h =>
    have hle := hforward.mp h
    rw [Nat.max_eq_left (by omega), decide_eq_false hle]
  next h =>
    have hlt : highest < position := by
      by_contra hle
      exact h (hforward.mpr hle)
    rw [Nat.max_eq_right (by omega), decide_eq_true hlt]

theorem accept_stream_step {tracker : ArtNetSequenceTracker} {universeId : Nat}
    {endpoint : ArtNetEndpoint} {highest position : Nat}
    (hstate : tracker.states universeId = ⟨endpoint, streamNumber highest, true, true⟩)
    (habove : position ≤ highest + 126) (hbelow : highest ≤ position + 126)
    : (tracker.accept universeId (streamNumber position) endpoint).2.accepted
          = decide (highest < position)
        ∧ (tracker.accept universeId (streamNumber position) endpoint).1.states universeId
          = ⟨endpoint, streamNumber (max highest position), true, true⟩ := by
  simp only [accept, Function.update_self]
  rw [hstate, acceptState_stream habove hbelow]
  exact ⟨rfl, rfl⟩

theorem accept_stream_first {tracker : ArtNetSequenceTracker} {universeId : Nat}
    {endpoint : ArtNetEndpoint}
    (hfresh : (tracker.states universeId).initialized = true →
      (tracker.states universeId).endpoint ≠ endpoint) (position : Nat)
    : (tracker.accept universeId (streamNumber position) endpoint).2.accepted = true
        ∧ (tracker.accept universeId (streamNumber position) endpoint).1.states universeId
          = ⟨endpoint, streamNumber position, true, true⟩ := by
  have hnonzero : (streamNumber position != 0) = true := by
    simpa using streamNumber_ne_zero position
  simp only [accept, Function.update_self, acceptState]
  cases hinitialized : (tracker.states universeId).initialized with
  | false =>
    simp only [Bool.not_false, Bool.true_or, if_true, hnonzero]
    exact ⟨trivial, trivial⟩
  | true =>
    have hchanged : ((tracker.states universeId).endpoint != endpoint) = true := by
      simpa using hfresh hinitialized
    simp only [hchanged, Bool.and_self, Bool.or_true, if_true, hnonzero]
    exact ⟨trivial, trivial⟩

theorem accepted_stream_from {universeId : Nat} {endpoint : ArtNetEndpoint} {positions : List Nat}
    {tracker : ArtNetSequenceTracker} {highest : Nat}
    (hstate : tracker.states universeId = ⟨endpoint, streamNumber highest, true, true⟩)
    (hwindow : WithinWindow (some highest) positions)
    : (tracker.decisions universeId (positions.map (streamPacket universeId endpoint))).map
          ArtNetSequenceDecision.accepted
        = advances (some highest) positions := by
  induction positions generalizing tracker highest with
  | nil => rfl
  | cons position positions ih =>
    obtain ⟨habove, hbelow, hrest⟩ := hwindow
    have hstep := accept_stream_step hstate habove hbelow
    rw [List.map_cons, decisions_cons]
    simp only [streamPacket, if_true, List.map_append, List.map_cons, List.map_nil, advances]
    rw [hstep.1]
    apply congrArg (List.cons _)
    exact ih hstep.2 hrest

theorem accepted_stream {universeId : Nat} {endpoint : ArtNetEndpoint} {positions : List Nat}
    {tracker : ArtNetSequenceTracker}
    (hfresh : (tracker.states universeId).initialized = true →
      (tracker.states universeId).endpoint ≠ endpoint)
    (hwindow : WithinWindow none positions)
    : (tracker.decisions universeId (positions.map (streamPacket universeId endpoint))).map
          ArtNetSequenceDecision.accepted
        = advances none positions := by
  cases positions with
  | nil => rfl
  | cons position positions =>
    have hfirst := accept_stream_first hfresh position
    rw [List.map_cons, decisions_cons]
    simp only [streamPacket, if_true, List.map_append, List.map_cons, List.map_nil, advances]
    rw [hfirst.1]
    apply congrArg (List.cons _)
    exact accepted_stream_from hfirst.2 hwindow

end ArtNetSequenceTracker

/-! ### The positions that advance -/

theorem length_advances (highest : Option Nat) (positions : List Nat)
    : (advances highest positions).length = positions.length := by
  induction positions generalizing highest with
  | nil => cases highest <;> rfl
  | cons position positions ih =>
    cases highest with
    | none => simp only [advances, List.length_cons, ih]
    | some highest => simp only [advances, List.length_cons, ih]

theorem advances_some {positions : List Nat} {highest i : Nat} (hi : i < positions.length)
    : (advances (some highest) positions).getD i false = true
        ↔ highest < positions.getD i 0
          ∧ ∀ j < i, (advances (some highest) positions).getD j false = true →
            positions.getD j 0 < positions.getD i 0 := by
  induction positions generalizing highest i with
  | nil => cases hi
  | cons position positions ih =>
    cases i with
    | zero => simp [advances]
    | succ i =>
      rw [List.length_cons, Nat.add_lt_add_iff_right] at hi
      simp only [advances, List.getD_cons_succ]
      rw [ih hi]
      constructor
      . rintro ⟨hhighest, hearlier⟩
        refine ⟨by omega, ?_⟩
        intro j hj haccepted
        cases j with
        | zero =>
          rw [List.getD_cons_zero]
          omega
        | succ j => exact hearlier j (by omega) haccepted
      . rintro ⟨hhighest, hearlier⟩
        constructor
        . by_cases hlt : highest < position
          . have hfirst := hearlier 0 (by omega) (by simpa using hlt)
            rw [List.getD_cons_zero] at hfirst
            omega
          . omega
        . intro j hj haccepted
          exact hearlier (j + 1) (by omega) haccepted

theorem advances_none {positions : List Nat} {i : Nat} (hi : i < positions.length)
    : (advances none positions).getD i false = true
        ↔ ∀ j < i, (advances none positions).getD j false = true →
          positions.getD j 0 < positions.getD i 0 := by
  cases positions with
  | nil => cases hi
  | cons position positions =>
    cases i with
    | zero => simp [advances]
    | succ i =>
      rw [List.length_cons, Nat.add_lt_add_iff_right] at hi
      simp only [advances, List.getD_cons_succ]
      rw [advances_some hi]
      constructor
      . rintro ⟨hfirst, hearlier⟩ j hj haccepted
        cases j with
        | zero => exact hfirst
        | succ j => exact hearlier j (by omega) haccepted
      . intro hearlier
        constructor
        . exact hearlier 0 (by omega) rfl
        . intro j hj haccepted
          exact hearlier (j + 1) (by omega) haccepted

/--
Of a stream that the network has lost, duplicated and reordered packets of, those are accepted that
are ahead of all that were accepted before. The packets of other universes change nothing.
-/
theorem accepted_delivery (tracker : ArtNetSequenceTracker) (universeId : Nat)
    (packets : List SequencedPacket)
    : tracker.decisions universeId packets
          = tracker.decisions universeId (packets.filter (fun packet =>
            packet.universeId = universeId))
        ∧ ∀ (endpoint : ArtNetEndpoint) (positions : List Nat),
          ((tracker.states universeId).initialized = true →
            (tracker.states universeId).endpoint ≠ endpoint)
          → packets.filter (fun packet => packet.universeId = universeId)
            = positions.map (streamPacket universeId endpoint)
          → WithinWindow none positions
          → let accepted := (tracker.decisions universeId packets).map
              ArtNetSequenceDecision.accepted
            accepted.length = positions.length
              ∧ ∀ i < positions.length, accepted.getD i false = true
                ↔ ∀ j < i, accepted.getD j false = true
                  → positions.getD j 0 < positions.getD i 0 := by
  have hfilter := ArtNetSequenceTracker.decisions_filter (@rfl _ (tracker.states universeId)) packets
  refine ⟨hfilter, ?_⟩
  intro endpoint positions hfresh hstream hwindow accepted
  have haccepted : accepted = advances none positions := by
    rw [← ArtNetSequenceTracker.accepted_stream hfresh hwindow, ← hstream, ← hfilter]
  rw [haccepted]
  constructor
  . apply length_advances
  . intro i hi
    exact advances_none hi

/-- The end of a cycle, out of order and with a copy, next to another universe. -/
def wrappingDelivery : List SequencedPacket := [
  streamPacket 1 ⟨1, 6454⟩ 253,
  streamPacket 2 ⟨1, 6454⟩ 10,
  streamPacket 1 ⟨1, 6454⟩ 255,
  streamPacket 1 ⟨1, 6454⟩ 254,
  streamPacket 1 ⟨1, 6454⟩ 255,
  streamPacket 1 ⟨1, 6454⟩ 256]

theorem accepted_delivery_wrapping
    : let accepted := (ArtNetSequenceTracker.decisions {} 1 wrappingDelivery).map
        ArtNetSequenceDecision.accepted
      accepted = [true, true, false, false, true] ∧ accepted.length = 5 :=
  ⟨by decide, ((accepted_delivery {} 1 wrappingDelivery).2 ⟨1, 6454⟩ [253, 255, 254, 255, 256]
    (by decide) (by decide) (by simp [WithinWindow])).1⟩

end Peraviz.Dmx
