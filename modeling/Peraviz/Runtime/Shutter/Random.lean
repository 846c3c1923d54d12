import Peraviz.Runtime.Shutter.Envelope

/-!
This module contains the envelope of a random shutter as the greatest contribution of all its
events, wherever these start in the middle halves of their cycles.
-/

namespace Peraviz.Runtime

def eventContribution (start : Int → ℚ) (p : ShutterParameters) (now : ℚ) (event : Int) : ℚ :=
  let elapsed := eventPosition p now - start event
  if 0 ≤ elapsed ∧ elapsed < shutterWidth p then
    shutterShapeValue (shutterShape p.wave) (elapsed / shutterWidth p)
  else
    0

section

variable {start : Int → ℚ} {p : ShutterParameters} {now : ℚ} {event : Int}

/-! ### Contributions -/

theorem eventContribution_mem
    : 0 ≤ eventContribution start p now event ∧ eventContribution start p now event ≤ 1 := by
  rw [eventContribution]
  split
  next hopen => exact shutterShapeValue_div_mem _ hopen.1 hopen.2
  next =>
    constructor
    . rfl
    . norm_num

theorem eventContribution_future (h : eventPosition p now < start event)
    : eventContribution start p now event = 0 := by
  rw [eventContribution, if_neg]
  intro hopen
  have helapsed := hopen.1
  linarith

theorem eventContribution_past (h : start event + shutterWidth p ≤ eventPosition p now)
    : eventContribution start p now event = 0 := by
  rw [eventContribution, if_neg]
  intro hopen
  have helapsed := hopen.2
  linarith

theorem shutterShapeValue_strobe (x : ℚ) : shutterShapeValue (.listed .strobe) x = 1 := by
  rfl

theorem eventContribution_strobe (hshape : shutterShape p.wave = .listed .strobe)
    (hstarted : start event ≤ eventPosition p now)
    (hopen : eventPosition p now < start event + shutterWidth p)
    : eventContribution start p now event = 1 := by
  rw [eventContribution, if_pos]
  . rw [hshape, shutterShapeValue_strobe]
  . constructor
    . linarith
    . linarith

/-! ### The two candidates -/

/-- What an index contributes, those below zero are no events. -/
def candidate (start : Int → ℚ) (p : ShutterParameters) (now : ℚ) (event : Int) : ℚ :=
  if 0 ≤ event then eventContribution start p now event else 0

theorem scanEvent_eq {envelope : ℚ} (henvelope : 0 ≤ envelope)
    : scanEvent start (shutterShape p.wave) (shutterWidth p) (eventPosition p now) envelope event
      = max envelope (candidate start p now event) := by
  rw [scanEvent, candidate, eventContribution]
  by_cases hevent : 0 ≤ event
  . by_cases hopen : 0 ≤ eventPosition p now - start event
        ∧ eventPosition p now - start event < shutterWidth p
    . rw [if_pos ⟨hevent, hopen⟩, if_pos hevent, if_pos hopen]
    . rw [if_neg (fun h => hopen h.2), if_pos hevent, if_neg hopen, max_eq_left henvelope]
  . rw [if_neg (fun h => hevent h.1), if_neg hevent, max_eq_left henvelope]

theorem candidate_nonneg : 0 ≤ candidate start p now event := by
  rw [candidate]
  split
  . exact eventContribution_mem.1
  . rfl

theorem randomEnvelope_eq (hposition : 0 ≤ eventPosition p now)
    (hlimit : eventPosition p now < kCounterLimit)
    : randomEnvelope start (shutterShape p.wave) (shutterWidth p) (eventPosition p now)
      = max (candidate start p now ((eventPosition p now).floor - 1))
        (candidate start p now (eventPosition p now).floor) := by
  rw [randomEnvelope, if_neg]
  . rw [List.foldl_cons, List.foldl_cons, List.foldl_nil, scanEvent_eq (le_refl 0),
      max_eq_right candidate_nonneg, scanEvent_eq candidate_nonneg]
  . intro h
    cases h with
    | inl hneg => linarith
    | inr hlarge => linarith

theorem shutterWidth_le_one (hshape : shutterShape p.wave ≠ .listed .strobe)
    : shutterWidth p ≤ 1 := by
  rw [shutterWidth]
  rw [if_neg (fun h => hshape h.2), if_neg hshape, clamp]
  split
  . norm_num
  . split
    . rfl
    . linarith

-- An event of an earlier cycle is open only if the event before the current one is open, too: it
-- has started later, and flashes have one width.
theorem eventContribution_le_previous (hstart : StartsWithin start)
    (hevent : 0 ≤ event) (hearlier : event ≤ (eventPosition p now).floor - 2)
    : eventContribution start p now event
      ≤ candidate start p now ((eventPosition p now).floor - 1) := by
  have hfloor := Rat.floor_le (eventPosition p now)
  have hcast : (event : ℚ) ≤ (eventPosition p now).floor - 2 := by exact_mod_cast hearlier
  by_cases hopen : eventPosition p now < start event + shutterWidth p
  . have hstartEvent := hstart event hevent
    have hprevious := hstart ((eventPosition p now).floor - 1) (by omega)
    have hshape : shutterShape p.wave = .listed .strobe := by
      by_contra hshape
      have hwidth := shutterWidth_le_one hshape
      linarith
    have hone : candidate start p now ((eventPosition p now).floor - 1) = 1 := by
      rw [candidate, if_pos (by omega)]
      apply eventContribution_strobe hshape
      . push_cast at hprevious
        linarith
      . push_cast at hprevious
        linarith
    rw [hone]
    exact eventContribution_mem.2
  . rw [eventContribution_past (by linarith)]
    exact candidate_nonneg

theorem eventContribution_le_candidates (hstart : StartsWithin start) (hevent : 0 ≤ event)
    : eventContribution start p now event
      ≤ max (candidate start p now ((eventPosition p now).floor - 1))
        (candidate start p now (eventPosition p now).floor) := by
  have hcandidate : eventContribution start p now event = candidate start p now event := by
    rw [candidate, if_pos hevent]
  by_cases hearlier : event ≤ (eventPosition p now).floor - 2
  . exact (eventContribution_le_previous hstart hevent hearlier).trans (le_max_left _ _)
  . by_cases hprevious : event = (eventPosition p now).floor - 1
    . rw [hcandidate, hprevious]
      exact le_max_left _ _
    . by_cases hcurrent : event = (eventPosition p now).floor
      . rw [hcandidate, hcurrent]
        exact le_max_right _ _
      . have hfuture : (eventPosition p now).floor + 1 ≤ event := by omega
        have hlt := Rat.lt_floor_add_one (eventPosition p now)
        have hcast : ((eventPosition p now).floor : ℚ) + 1 ≤ event := by exact_mod_cast hfuture
        have hstartEvent := hstart event hevent
        push_cast at hlt
        rw [eventContribution_future (by linarith)]
        exact candidate_nonneg.trans (le_max_left _ _)

/-! ### The greatest contribution -/

def contributions (start : Int → ℚ) (p : ShutterParameters) (now : ℚ) : Set ℚ :=
  Set.range (fun k : ℕ => eventContribution start p now k)

theorem eventContribution_mem_contributions (hevent : 0 ≤ event)
    : eventContribution start p now event ∈ contributions start p now := by
  refine ⟨event.toNat, ?_⟩
  dsimp only
  rw [Int.toNat_of_nonneg hevent]

theorem isGreatest_zero (hzero : ∀ k : ℕ, eventContribution start p now k = 0)
    : IsGreatest (contributions start p now) 0 := by
  constructor
  . exact ⟨0, hzero 0⟩
  . intro value hvalue
    cases hvalue with
    | intro k hk =>
      rw [← hk]
      exact le_of_eq (hzero k)

theorem zero_mem_contributions (hstart : StartsWithin start)
    (hposition : 0 ≤ eventPosition p now)
    : 0 ∈ contributions start p now := by
  have hfloor : 0 ≤ (eventPosition p now).floor := by
    rw [Rat.le_floor_iff]
    exact_mod_cast hposition
  have hlt := Rat.lt_floor_add_one (eventPosition p now)
  have hnext := hstart ((eventPosition p now).floor + 1) (by omega)
  push_cast at hnext hlt
  rw [← @eventContribution_future start p now ((eventPosition p now).floor + 1) (by linarith)]
  apply eventContribution_mem_contributions
  omega

theorem candidate_mem_contributions (hstart : StartsWithin start)
    (hposition : 0 ≤ eventPosition p now)
    : candidate start p now event ∈ contributions start p now := by
  rw [candidate]
  split
  next hevent => exact eventContribution_mem_contributions hevent
  next => exact zero_mem_contributions hstart hposition

theorem isGreatest_randomEnvelope (hstart : StartsWithin start)
    (hlimit : eventPosition p now < kCounterLimit)
    : IsGreatest (contributions start p now)
      (randomEnvelope start (shutterShape p.wave) (shutterWidth p) (eventPosition p now)) := by
  by_cases hposition : 0 ≤ eventPosition p now
  . rw [randomEnvelope_eq hposition hlimit]
    constructor
    . cases max_choice (candidate start p now ((eventPosition p now).floor - 1))
        (candidate start p now (eventPosition p now).floor) with
      | inl hprevious =>
        rw [hprevious]
        exact candidate_mem_contributions hstart hposition
      | inr hcurrent =>
        rw [hcurrent]
        exact candidate_mem_contributions hstart hposition
    . intro value hvalue
      cases hvalue with
      | intro k hk =>
        rw [← hk]
        exact eventContribution_le_candidates hstart (by omega)
  . rw [randomEnvelope, if_pos (Or.inl (by linarith))]
    -- No event starts before the first cycle.
    apply isGreatest_zero
    intro k
    have hk := hstart k (by omega)
    have hnonneg : (0 : ℚ) ≤ ((k : Int) : ℚ) := by exact_mod_cast Int.natCast_nonneg k
    apply eventContribution_future
    linarith

-- Wide flashes leave no gap: either the event of the current cycle has started, or the one before
-- it is still open.
theorem isGreatest_one (hstart : StartsWithin start) (hoverlaps : overlapsContinuously p)
    (hcycles : 0 ≤ shutterCycles p now)
    : IsGreatest (contributions start p now) 1 := by
  have hposition : 3 / 4 ≤ eventPosition p now := by
    have hwidth := hoverlaps.2.1
    have hoffset := hoverlaps.2.2.2
    rw [eventPosition]
    linarith
  have hwidth := hoverlaps.2.1
  have hfloor := Rat.floor_le (eventPosition p now)
  have hlt := Rat.lt_floor_add_one (eventPosition p now)
  have hnonneg : 0 ≤ (eventPosition p now).floor := by
    rw [Rat.le_floor_iff]
    push_cast
    linarith
  have hcurrent := hstart (eventPosition p now).floor hnonneg
  push_cast at hlt
  constructor
  . by_cases hstarted : start (eventPosition p now).floor ≤ eventPosition p now
    . rw [← @eventContribution_strobe start p now (eventPosition p now).floor hoverlaps.1 hstarted
        (by linarith)]
      exact eventContribution_mem_contributions hnonneg
    . have hpos : 1 ≤ (eventPosition p now).floor := by
        by_contra hzero
        have hfirst : (eventPosition p now).floor = 0 := by omega
        rw [hfirst] at hcurrent hstarted
        push_cast at hcurrent
        linarith
      have hprevious := hstart ((eventPosition p now).floor - 1) (by omega)
      push_cast at hprevious
      rw [← @eventContribution_strobe start p now ((eventPosition p now).floor - 1) hoverlaps.1
        (by linarith) (by linarith)]
      apply eventContribution_mem_contributions
      omega
  . intro value hvalue
    cases hvalue with
    | intro k hk =>
      rw [← hk]
      exact eventContribution_mem.2

/-! ### Bounds -/

theorem scanEvent_mem {shape : ShutterWave} {width position envelope : ℚ}
    (henvelope : 0 ≤ envelope ∧ envelope ≤ 1)
    : 0 ≤ scanEvent start shape width position envelope event
        ∧ scanEvent start shape width position envelope event ≤ 1 := by
  rw [scanEvent]
  split
  next hopen =>
    have hvalue := shutterShapeValue_div_mem shape hopen.2.1 hopen.2.2
    constructor
    . exact le_max_of_le_left henvelope.1
    . exact max_le henvelope.2 hvalue.2
  next => exact henvelope

theorem randomEnvelope_mem (start : Int → ℚ) (shape : ShutterWave) (width position : ℚ)
    : 0 ≤ randomEnvelope start shape width position
        ∧ randomEnvelope start shape width position ≤ 1 := by
  rw [randomEnvelope]
  split
  . norm_num
  . rw [List.foldl_cons, List.foldl_cons, List.foldl_nil]
    apply scanEvent_mem
    apply scanEvent_mem
    norm_num

theorem shutterEnvelopeOf_mem (start : Int → ℚ) (p : ShutterParameters) (now : ℚ)
    : 0 ≤ shutterEnvelopeOf start p now ∧ shutterEnvelopeOf start p now ≤ 1 := by
  rw [shutterEnvelopeOf]
  split
  . norm_num
  . split
    . norm_num
    . split
      . norm_num
      . split
        . split
          . norm_num
          . exact randomEnvelope_mem _ _ _ _
        . dsimp only
          split
          . norm_num
          next helapsed =>
            apply shutterShapeValue_div_mem
            . rw [shutterFraction]
              linarith [Rat.floor_le (shutterFraction (shutterCycles p now)
                - (p.offset - shutterWidth p))]
            . linarith

/-! ### The envelope -/

theorem shutterEnvelopeOf_random (hrandom : shutterRandom p.wave = true)
    (hfrequency : 0 < p.frequency)
    : shutterEnvelopeOf start p now = if shutterWidth p ≤ 0 then 0
      else if overlapsContinuously p then 1
      else randomEnvelope start (shutterShape p.wave) (shutterWidth p) (eventPosition p now) := by
  have hclosed : p.wave ≠ .listed .closed := by
    intro hclosed
    rw [hclosed] at hrandom
    contradiction
  rw [shutterEnvelopeOf, if_neg hclosed, if_neg]
  . rw [hrandom]
    rfl
  . intro h
    cases h with
    | inl hperiodic =>
      rw [shutterPeriodic, hrandom, Bool.or_true] at hperiodic
      contradiction
    | inr hle => linarith

end

/-- The evaluation of two events is the greatest contribution of all of them, while the shortcut for
flashes that overlap is taken at no negative number of cycles and the others stay below the limit of
the counter. -/
theorem shutterEnvelopeOf_events (start : Int → ℚ) (hstart : StartsWithin start)
    (p : ShutterParameters) (now : ℚ)
    : (shutterRandom p.wave = true → 0 < p.frequency
        → (overlapsContinuously p → 0 ≤ shutterCycles p now)
        → (¬overlapsContinuously p → eventPosition p now < kCounterLimit)
        → IsGreatest (contributions start p now) (shutterEnvelopeOf start p now))
      ∧ 0 ≤ shutterEnvelopeOf start p now ∧ shutterEnvelopeOf start p now ≤ 1 := by
  refine ⟨?_, shutterEnvelopeOf_mem start p now⟩
  intro hrandom hfrequency hcycles hlimit
  rw [shutterEnvelopeOf_random hrandom hfrequency]
  split
  next hwidth =>
    apply isGreatest_zero
    intro k
    rw [eventContribution, if_neg]
    intro hopen
    linarith [hopen.1, hopen.2]
  next =>
    split
    next hoverlaps => exact isGreatest_one hstart hoverlaps (hcycles hoverlaps)
    next hoverlaps => exact isGreatest_randomEnvelope hstart (hlimit hoverlaps)

/-- Flashes of half a cycle at every middle. -/
theorem shutterEnvelopeOf_events_middle
    : IsGreatest (contributions (fun event => event + 1 / 2)
        { wave := .listed .randomPulse, frequency := 2, duty := 1 / 2 } (9 / 8))
      (shutterEnvelopeOf (fun event => event + 1 / 2)
        { wave := .listed .randomPulse, frequency := 2, duty := 1 / 2 } (9 / 8)) := by
  apply (shutterEnvelopeOf_events _ _ _ _).1
  . decide
  . norm_num
  . decide +kernel
  . decide +kernel
  . intro event _
    constructor
    . linarith
    . linarith

/-- Flashes of two cycles at a number of cycles, which the time does not change. -/
def flashesAt (cycles : ℚ) : ShutterParameters :=
  { wave := .listed .randomStrobe, frequency := 1, duration := 2, offset := 0, phase := cycles }

/-- Before the first flash the shortcut reports an open shutter, and from the limit of the counter on
open flashes are not seen. -/
theorem exists_envelope_not_greatest
    : ¬IsGreatest (contributions (fun event => event + 1 / 2) (flashesAt (-3)) 0)
          (shutterEnvelopeOf (fun event => event + 1 / 2) (flashesAt (-3)) 0)
        ∧ ¬IsGreatest (contributions (fun event => event + 1 / 2)
            { flashesAt 9223372036854775808 with duration := 1 } 0)
          (shutterEnvelopeOf (fun event => event + 1 / 2)
            { flashesAt 9223372036854775808 with duration := 1 } 0) := by
  constructor
  . intro h
    have henvelope : shutterEnvelopeOf (fun event => event + 1 / 2) (flashesAt (-3)) 0 = 1 := by
      decide +kernel
    have hposition : eventPosition (flashesAt (-3)) 0 = -1 := by decide +kernel
    rw [henvelope] at h
    cases h.1 with
    | intro k hk =>
      have hnonneg : (0 : ℚ) ≤ ((k : Int) : ℚ) := by exact_mod_cast Int.natCast_nonneg k
      dsimp only at hk
      rw [eventContribution_future (by rw [hposition]; linarith)] at hk
      contradiction
  . intro h
    have hmem := @eventContribution_mem_contributions (fun event => event + 1 / 2)
      { flashesAt 9223372036854775808 with duration := 1 } 0 9223372036854775808 (by decide)
    have hle := h.2 hmem
    revert hle
    decide +kernel

end Peraviz.Runtime
