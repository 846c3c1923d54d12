import Mathlib.Data.Rat.Floor
import Mathlib.Order.Bounds.Basic
import Mathlib.Tactic.Linarith
import Mathlib.Tactic.Positivity
import Peraviz.Runtime.Install.Shutters

/-!
This module contains the envelope of a shutter: periodic waveforms over the fraction of a cycle, and
random ones over events that start once in every cycle. Of all events the code evaluates two.
-/

namespace Peraviz.Runtime

/-- The cycles of a shutter at a time, `shutter_envelope` and `update_shutter` count alike. -/
def shutterCycles (p : ShutterParameters) (now : ℚ) : ℚ :=
  p.phase + max (now - p.reference) 0 * p.frequency

def shutterShape (wave : ShutterWave) : ShutterWave :=
  if shutterRandom wave then .ofUnderlying (wave.toUnderlying - 7) else wave

def shutterEventKey (p : ShutterParameters) : UInt64 :=
  shutterMix ((p.seed.toUInt64 <<< 32) ||| p.activation.toUInt32.toUInt64)
    ^^^ shutterMix p.functionId.toUInt32.toUInt64

def shutterJitter (p : ShutterParameters) (index : Int) : ℚ :=
  ((shutterMix (shutterEventKey p ^^^ UInt64.ofInt index) >>> 11).toNat : ℚ) / 9007199254740992

def shutterEventStart (p : ShutterParameters) (index : Int) : ℚ :=
  index + 1 / 4 + 1 / 2 * shutterJitter p index

def shutterShapeValue (wave : ShutterWave) (x : ℚ) : ℚ :=
  if wave = .listed .pulse then 1 - |2 * x - 1|
  else if wave = .listed .pulseOpen then x
  else if wave = .listed .pulseClose then 1 - x
  else 1

/-- The width of an event or of the open part of a cycle. -/
def shutterWidth (p : ShutterParameters) : ℚ :=
  let square := shutterShape p.wave = .listed .strobe
  if shutterRandom p.wave = true ∧ square then max 0 (p.duration * p.frequency)
  else clamp (if square then p.duration * p.frequency else p.duty) 0 1

/-- The square flashes of a shutter that are taken to overlap continuously. -/
def overlapsContinuously (p : ShutterParameters) : Prop :=
  shutterShape p.wave = .listed .strobe ∧ 7 / 4 ≤ shutterWidth p ∧ 0 ≤ p.offset ∧ p.offset ≤ 1

instance (p : ShutterParameters) : Decidable (overlapsContinuously p) :=
  inferInstanceAs (Decidable (_ ∧ _ ∧ _ ∧ _))

def kCounterLimit : ℚ := 9223372036854775808

def eventPosition (p : ShutterParameters) (now : ℚ) : ℚ :=
  shutterCycles p now - p.offset + shutterWidth p

/-- The envelope with one more event, if it is open at the position. -/
def scanEvent (start : Int → ℚ) (shape : ShutterWave) (width position envelope : ℚ) (event : Int)
    : ℚ :=
  let elapsed := position - start event
  if 0 ≤ event ∧ 0 ≤ elapsed ∧ elapsed < width then
    max envelope (shutterShapeValue shape (elapsed / width))
  else
    envelope

def randomEnvelope (start : Int → ℚ) (shape : ShutterWave) (width position : ℚ) : ℚ :=
  if position < 0 ∨ kCounterLimit ≤ position then 0
  else
    [position.floor - 1, position.floor].foldl (scanEvent start shape width position) 0

/-- The envelope of random events with the given starts. -/
def shutterEnvelopeOf (start : Int → ℚ) (p : ShutterParameters) (now : ℚ) : ℚ :=
  let shape := shutterShape p.wave
  let width := shutterWidth p
  if p.wave = .listed .closed then 0
  else if shutterPeriodic p.wave = false ∨ p.frequency ≤ 0 then 1
  else if width ≤ 0 then 0
  else if shutterRandom p.wave then
    if overlapsContinuously p then 1 else randomEnvelope start shape width (eventPosition p now)
  else
    let elapsed := shutterFraction (shutterFraction (shutterCycles p now) - (p.offset - width))
    if width ≤ elapsed then 0 else shutterShapeValue shape (elapsed / width)

def shutterEnvelope (p : ShutterParameters) (now : ℚ) : ℚ :=
  shutterEnvelopeOf (shutterEventStart p) p now

/-! ### Bounds -/

theorem shutterShapeValue_mem {x : ℚ} (wave : ShutterWave) (hx : 0 ≤ x) (hx' : x ≤ 1)
    : 0 ≤ shutterShapeValue wave x ∧ shutterShapeValue wave x ≤ 1 := by
  rw [shutterShapeValue]
  split
  . have habs : |2 * x - 1| ≤ 1 := by
      rw [abs_le]
      constructor
      . linarith
      . linarith
    have hnonneg := abs_nonneg (2 * x - 1)
    constructor
    . linarith
    . linarith
  . split
    . exact ⟨hx, hx'⟩
    . split
      . constructor
        . linarith
        . linarith
      . constructor
        . linarith
        . linarith

theorem shutterShapeValue_div_mem {elapsed width : ℚ} (wave : ShutterWave) (helapsed : 0 ≤ elapsed)
    (hwidth : elapsed < width)
    : 0 ≤ shutterShapeValue wave (elapsed / width)
        ∧ shutterShapeValue wave (elapsed / width) ≤ 1 := by
  have hpos : 0 < width := by linarith
  apply shutterShapeValue_mem
  . positivity
  . rw [div_le_one hpos]
    linarith

/-- The jitter places each event in the middle half of its cycle. -/
def StartsWithin (start : Int → ℚ) : Prop :=
  ∀ event : Int, 0 ≤ event → (event : ℚ) + 1 / 4 ≤ start event ∧ start event < event + 3 / 4

theorem startsWithin_shutterEventStart (p : ShutterParameters)
    : StartsWithin (shutterEventStart p) := by
  intro event _
  rw [shutterEventStart, shutterJitter]
  generalize shutterMix (shutterEventKey p ^^^ UInt64.ofInt event) = value
  have hlt : (value >>> 11).toNat < 9007199254740992 := by
    have h11 : (11 : UInt64).toNat % 64 = 11 := rfl
    have hvalue := value.toNat_lt
    rw [UInt64.toNat_shiftRight, h11, Nat.shiftRight_eq_div_pow]
    omega
  have hcast : ((value >>> 11).toNat : ℚ) < 9007199254740992 := by
    exact_mod_cast hlt
  have hnonneg : (0 : ℚ) ≤ ((value >>> 11).toNat : ℚ) / 9007199254740992 := by positivity
  have hjitter : ((value >>> 11).toNat : ℚ) / 9007199254740992 < 1 := by
    rw [div_lt_one (by norm_num)]
    exact hcast
  constructor
  . linarith
  . linarith

end Peraviz.Runtime
