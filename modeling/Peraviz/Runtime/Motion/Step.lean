import Mathlib.Tactic.Ring
import Peraviz.Runtime.Domains.Gobos

/-!
This module contains the motion of a gobo layer between two updates, and what one update makes of
it: where it is, how fast it moves and what the bindings of the layer ask for.
-/

namespace Peraviz.Runtime

def GoboRotationState.motionAt (s : GoboRotationState) (t : ℚ) : ℚ :=
  s.phaseDegrees + s.angularVelocityDps * (t - s.referenceSeconds)

def MotionScan.selectedPos (scan : MotionScan) : Option (Int32 × ℚ) :=
  scan.pos.map (fun (binding, degrees) => (binding.bindingId, degrees))

/-- A motion is what a scan asks for, up to the epsilon of the angles. -/
def MotionScan.Asks (scan : MotionScan) (mode : GoboRotationMode) (phase velocity : ℚ) : Prop :=
  match scan.rotate, scan.pos with
  | some (_, asked), _ => mode = .continuous ∧ |velocity - asked| ≤ kAngleEpsilon
  | none, some (_, degrees) => mode = .indexed ∧ |phase - degrees| ≤ kAngleEpsilon
  | none, none => mode = .hold

def MotionScan.Aims (scan : MotionScan) (s : GoboRotationState) : Prop :=
  scan.Asks s.mode s.phaseDegrees s.angularVelocityDps

/-- A rotation that was last rebased at `now` or before. -/
structure GoboRotationState.Valid (s : GoboRotationState) (now : ℚ) : Prop where
  still : s.mode ≠ .continuous → s.angularVelocityDps = 0
  fresh : s.initialized = false → s = {}
  past : s.initialized = true → s.referenceSeconds ≤ now

/-- A rotation that was last updated by a scan, at `now` or before. -/
structure MotionScan.Tracks (scan : MotionScan) (s : GoboRotationState) (now : ℚ) : Prop where
  valid : s.Valid now
  aims : scan.Aims s
  posActive : s.posActive = scan.pos.isSome
  posRotateActive : s.posRotateActive = scan.rotate.isSome
  pos : ∀ binding degrees, scan.pos = some (binding, degrees) →
    s.posBindingId = binding.bindingId ∧ s.posDegrees = degrees

theorem GoboRotationState.Valid.mono {s : GoboRotationState} {now later : ℚ} (h : s.Valid now)
    (hlater : now ≤ later) : s.Valid later :=
  ⟨h.still, h.fresh, fun hinit => (h.past hinit).trans hlater⟩

theorem GoboRotationState.valid_fresh (now : ℚ) : GoboRotationState.Valid {} now :=
  ⟨fun _ => rfl, fun _ => rfl, fun h => by cases h⟩

theorem MotionScan.Tracks.mono {scan : MotionScan} {s : GoboRotationState} {now later : ℚ}
    (h : scan.Tracks s now) (hlater : now ≤ later) : scan.Tracks s later :=
  { h with valid := h.valid.mono hlater }

/-- An update of a layer, one that was never active is left alone. -/
def nextRotation (p : Platform) (s : GoboRotationState) (scan : MotionScan) (now : ℚ)
    : GoboRotationState :=
  if !s.initialized && scan.pos.isNone && scan.rotate.isNone then
    s
  else
    (stepRotation p s scan now).1

variable {p : Platform} {s : GoboRotationState} {scan old : MotionScan} {now : ℚ}

theorem kAngleEpsilon_nonneg : 0 ≤ kAngleEpsilon := by decide +kernel

theorem currentPhase_eq (h : s.Valid now)
    : (if s.initialized then
          s.phaseDegrees + s.angularVelocityDps
            * (if s.initialized then max 0 (now - s.referenceSeconds) else 0)
        else
          0) = s.motionAt now := by
  cases hinit : s.initialized with
  | false =>
    rw [h.fresh hinit]
    simp [GoboRotationState.motionAt]
  | true =>
    have hpast := h.past hinit
    simp only [if_true, GoboRotationState.motionAt]
    rw [max_eq_right (by linarith)]

def rebases (p : Platform) (s : GoboRotationState) (scan : MotionScan) (mode : GoboRotationMode)
    (phase velocity : ℚ) : Bool :=
  !s.initialized || s.mode != mode
    || motionChanged p s.posActive s.posBindingId s.posDegrees scan.pos
    || motionChanged p s.posRotateActive s.posRotateBindingId s.posRotateDps scan.rotate
    || !nearlyEqual (p.toFloat s.angularVelocityDps) (p.toFloat velocity) kAngleEpsilon
    || (mode == .indexed
      && !nearlyEqual (p.toFloat s.phaseDegrees) (p.toFloat phase) kAngleEpsilon)

def remember (s : GoboRotationState) (scan : MotionScan) : GoboRotationState :=
  { s with
    posActive := scan.pos.isSome
    posRotateActive := scan.rotate.isSome
    posBindingId := boundId scan.pos
    posRotateBindingId := boundId scan.rotate
    posDegrees := boundValue scan.pos s.posDegrees
    posRotateDps := boundValue scan.rotate s.posRotateDps
  }

def rebase (s : GoboRotationState) (mode : GoboRotationMode) (phase velocity now : ℚ)
    : GoboRotationState :=
  { s with
    phaseDegrees := phase
    angularVelocityDps := velocity
    referenceSeconds := now
    mode := mode
    initialized := true
    revision := s.revision + 1
  }

theorem stepRotation_eq (h : s.Valid now)
    : let next := nextMotion scan
        (motionChanged p s.posActive s.posBindingId s.posDegrees scan.pos) (s.motionAt now)
      stepRotation p s scan now
        = if rebases p s scan next.1 next.2.1 next.2.2 then
            (rebase (remember s scan) next.1 next.2.1 next.2.2 now, true)
          else
            (remember s scan, false) := by
  unfold stepRotation
  dsimp only
  rw [currentPhase_eq h]
  rfl

theorem nextRotation_cases (h : s.Valid now)
    : let next := nextMotion scan
        (motionChanged p s.posActive s.posBindingId s.posDegrees scan.pos) (s.motionAt now)
      s.initialized = false ∧ scan.pos = none ∧ scan.rotate = none
          ∧ nextRotation p s scan now = s
        ∨ rebases p s scan next.1 next.2.1 next.2.2 = false
          ∧ nextRotation p s scan now = remember s scan
        ∨ rebases p s scan next.1 next.2.1 next.2.2 = true
          ∧ nextRotation p s scan now
            = rebase (remember s scan) next.1 next.2.1 next.2.2 now := by
  intro next
  unfold nextRotation
  split
  next hidle =>
    simp only [Bool.and_eq_true, Bool.not_eq_true', Option.isNone_iff_eq_none] at hidle
    exact Or.inl ⟨hidle.1.1, hidle.1.2, hidle.2, rfl⟩
  next =>
    right
    rw [stepRotation_eq h]
    cases hrebases : rebases p s scan next.1 next.2.1 next.2.2 with
    | false =>
      left
      simp
    | true =>
      right
      simp [next]

theorem initialized_nextRotation (h : s.Valid now) (hinit : s.initialized = true)
    : (nextRotation p s scan now).initialized = true := by
  rcases @nextRotation_cases p s scan now h with ⟨hfresh, _, _, _⟩ | ⟨_, heq⟩ | ⟨_, heq⟩
  . rw [hinit] at hfresh
    cases hfresh
  . rw [heq]
    exact hinit
  . rw [heq]
    rfl

theorem rebases_eq_false (hexact : ∀ x, p.toFloat x = x) {mode : GoboRotationMode}
    {phase velocity : ℚ} (h : rebases p s scan mode phase velocity = false)
    : s.initialized = true ∧ s.mode = mode ∧ |s.angularVelocityDps - velocity| ≤ kAngleEpsilon
        ∧ (mode = .indexed → |s.phaseDegrees - phase| ≤ kAngleEpsilon) := by
  unfold rebases at h
  simp only [hexact, nearlyEqual, Bool.or_eq_false_iff, Bool.not_eq_false', Bool.and_eq_false_imp,
    bne_eq_false_iff_eq, beq_iff_eq, decide_eq_true_eq] at h
  obtain ⟨⟨⟨⟨⟨hinit, hmode⟩, _⟩, _⟩, hvelocity⟩, hphase⟩ := h
  exact ⟨hinit, hmode, hvelocity, hphase⟩

theorem aims_nextMotion {posChanged : Bool} {phase : ℚ}
    (hmode : s.mode = (nextMotion scan posChanged phase).1)
    (hvelocity : |s.angularVelocityDps - (nextMotion scan posChanged phase).2.2| ≤ kAngleEpsilon)
    (hphase : (nextMotion scan posChanged phase).1 = .indexed →
      |s.phaseDegrees - (nextMotion scan posChanged phase).2.1| ≤ kAngleEpsilon)
    : scan.Aims s := by
  unfold MotionScan.Aims MotionScan.Asks
  cases hrotate : scan.rotate with
  | none =>
    cases hpos : scan.pos with
    | none =>
      simp only [nextMotion, hrotate, hpos] at hmode
      exact hmode
    | some pos =>
      simp only [nextMotion, hrotate, hpos, forall_const] at hmode hphase
      exact ⟨hmode, hphase⟩
  | some rotate =>
    cases hpos : scan.pos with
    | none =>
      simp only [nextMotion, hrotate, hpos] at hmode hvelocity
      exact ⟨hmode, hvelocity⟩
    | some pos =>
      simp only [nextMotion, hrotate, hpos] at hmode hvelocity
      exact ⟨hmode, hvelocity⟩

theorem velocity_nextMotion {posChanged : Bool} {phase : ℚ}
    (h : (nextMotion scan posChanged phase).1 ≠ .continuous)
    : (nextMotion scan posChanged phase).2.2 = 0 := by
  revert h
  unfold nextMotion
  split
  . simp
  . simp
  . simp
  . simp

theorem tracks_nextRotation (hexact : ∀ x, p.toFloat x = x) (h : s.Valid now)
    : scan.Tracks (nextRotation p s scan now) now := by
  have hself (x : ℚ) : |x - x| ≤ kAngleEpsilon := by
    rw [sub_self, abs_zero]
    exact kAngleEpsilon_nonneg
  rcases @nextRotation_cases p s scan now h with ⟨hinit, hpos, hrotate, heq⟩ | ⟨hkept, heq⟩
    | ⟨_, heq⟩
  . rw [heq, h.fresh hinit]
    refine ⟨GoboRotationState.valid_fresh now, ?_, by simp [hpos], by simp [hrotate], ?_⟩
    . simp [MotionScan.Aims, MotionScan.Asks, hpos, hrotate]
    . simp [hpos]
  . obtain ⟨hinit, hmode, hvelocity, hphase⟩ := rebases_eq_false hexact hkept
    rw [heq]
    refine ⟨⟨h.still, ?_, h.past⟩, aims_nextMotion hmode hvelocity hphase, rfl, rfl, ?_⟩
    . intro hfresh
      rw [show (remember s scan).initialized = s.initialized from rfl, hinit] at hfresh
      cases hfresh
    . intro binding degrees hpos
      simp [remember, boundId, boundValue, hpos]
  . rw [heq]
    refine ⟨⟨velocity_nextMotion, ?_, fun _ => le_refl now⟩, ?_, rfl, rfl, ?_⟩
    . intro hfresh
      cases hfresh
    . exact aims_nextMotion rfl (hself _) (fun _ => hself _)
    . intro binding degrees hpos
      simp [rebase, remember, boundId, boundValue, hpos]

/-! ### Continuity -/

theorem motionChanged_of_selectedPos (h : old.Tracks s now) (hpos : scan.pos.isSome = true)
    (hsame : scan.selectedPos = old.selectedPos)
    : motionChanged p s.posActive s.posBindingId s.posDegrees scan.pos = false := by
  obtain ⟨⟨binding, degrees⟩, hfound⟩ := Option.isSome_iff_exists.mp hpos
  cases hold : old.pos with
  | none => simp [MotionScan.selectedPos, hfound, hold] at hsame
  | some found =>
    obtain ⟨heldId, heldValue⟩ := h.pos found.1 found.2 hold
    simp only [MotionScan.selectedPos, hfound, hold, Option.map_some, Option.some.injEq,
      Prod.mk.injEq] at hsame
    simp [motionChanged, hfound, h.posActive, hold, heldId, heldValue, hsame.1, hsame.2,
      kAngleEpsilon_nonneg]

-- Where an indexed motion is asked for the phase that it is asked for already, it stays.
theorem rebases_indexed (hexact : ∀ x, p.toFloat x = x) (h : old.Tracks s now)
    (hmode : s.mode = .indexed) (hrotate : scan.rotate = none) {degrees : ℚ}
    {binding : CompiledGoboMotionBinding} (hpos : scan.pos = some (binding, degrees))
    (hsame : scan.selectedPos = old.selectedPos)
    : rebases p s scan .indexed degrees 0 = false := by
  have hposChanged := @motionChanged_of_selectedPos p s scan old now h (by simp [hpos]) hsame
  have haims := h.aims
  unfold MotionScan.Aims MotionScan.Asks at haims
  have hinit : s.initialized = true := by
    by_contra hfresh
    rw [h.valid.fresh (by simpa using hfresh)] at hmode
    cases hmode
  cases hold : old.rotate with
  | some found =>
    rw [hold] at haims
    rw [hmode] at haims
    cases haims.1
  | none =>
    cases holdPos : old.pos with
    | none =>
      rw [hold, holdPos] at haims
      rw [hmode] at haims
      cases haims
    | some found =>
      rw [hold, holdPos] at haims
      simp only [MotionScan.selectedPos, hpos, holdPos, Option.map_some, Option.some.injEq,
        Prod.mk.injEq] at hsame
      have hvelocity := h.valid.still (by simp [hmode])
      have hrotateChanged : motionChanged p s.posRotateActive s.posRotateBindingId s.posRotateDps
          scan.rotate = false := by
        simp [motionChanged, hrotate, h.posRotateActive, hold]
      simp [rebases, hinit, hmode, hposChanged, hrotateChanged, hexact, nearlyEqual, hvelocity,
        kAngleEpsilon_nonneg, hsame.2, haims.2]

theorem motionAt_rebase (s : GoboRotationState) (mode : GoboRotationMode) (phase velocity now : ℚ)
    : (rebase s mode phase velocity now).motionAt now = phase := by
  simp [rebase, GoboRotationState.motionAt]

-- An update leaves the motion where it is, unless it changes the selected Pos binding or its value,
-- or the motion becomes indexed.
theorem motionAt_nextRotation (hexact : ∀ x, p.toFloat x = x) (h : old.Tracks s now)
    : (nextRotation p s scan now).motionAt now = s.motionAt now
        ∨ scan.selectedPos ≠ old.selectedPos
        ∨ s.mode ≠ .indexed ∧ (nextRotation p s scan now).mode = .indexed := by
  rcases @nextRotation_cases p s scan now h.valid with ⟨_, _, _, heq⟩ | ⟨_, heq⟩ | ⟨hrebases, heq⟩
  . rw [heq]
    exact Or.inl rfl
  . rw [heq]
    exact Or.inl rfl
  . by_cases hsame : scan.selectedPos = old.selectedPos
    . rw [heq, motionAt_rebase]
      cases hrotate : scan.rotate with
      | none =>
        cases hpos : scan.pos with
        | none => exact Or.inl (by simp [nextMotion, hrotate, hpos])
        | some pos =>
          right
          right
          simp only [nextMotion, hrotate, hpos] at hrebases ⊢
          refine ⟨?_, rfl⟩
          intro hmode
          rw [rebases_indexed hexact h hmode hrotate hpos hsame] at hrebases
          cases hrebases
      | some rotate =>
        cases hpos : scan.pos with
        | none => exact Or.inl (by simp [nextMotion, hrotate, hpos])
        | some pos =>
          have hkept := @motionChanged_of_selectedPos p s scan old now h (by simp [hpos]) hsame
          rw [hpos] at hkept
          exact Or.inl (by simp [nextMotion, hrotate, hpos, hkept])
    . exact Or.inr (Or.inl hsame)

/-! ### Repeated updates -/

theorem motionChanged_remembered (next : Option (CompiledGoboMotionBinding × ℚ)) (held : ℚ)
    : motionChanged p next.isSome (boundId next) (boundValue next held) next = false := by
  cases next with
  | none => rfl
  | some found => simp [motionChanged, boundId, boundValue, kAngleEpsilon_nonneg]

theorem remember_remember (s : GoboRotationState) (scan : MotionScan)
    : remember (remember s scan) scan = remember s scan := by
  unfold remember
  cases scan.pos with
  | none =>
    cases scan.rotate with
    | none => rfl
    | some _ => rfl
  | some _ =>
    cases scan.rotate with
    | none => rfl
    | some _ => rfl

theorem remember_rebase (s : GoboRotationState) (mode : GoboRotationMode) (phase velocity now : ℚ)
    : remember (rebase s mode phase velocity now) scan
        = rebase (remember s scan) mode phase velocity now := rfl

theorem remember_nextRotation (h : s.Valid now) (hinit : (nextRotation p s scan now).initialized = true)
    : remember (nextRotation p s scan now) scan = nextRotation p s scan now := by
  rcases @nextRotation_cases p s scan now h with ⟨hfresh, _, _, heq⟩ | ⟨_, heq⟩ | ⟨_, heq⟩
  . rw [heq, hfresh] at hinit
    cases hinit
  . rw [heq, remember_remember]
  . rw [heq, remember_rebase, remember_remember]

theorem rebases_of_tracks (hexact : ∀ x, p.toFloat x = x) (h : scan.Tracks s now)
    (hinit : s.initialized = true) (hremembered : remember s scan = s)
    : let next := nextMotion scan
        (motionChanged p s.posActive s.posBindingId s.posDegrees scan.pos) (s.motionAt now)
      rebases p s scan next.1 next.2.1 next.2.2 = false := by
  have hpos : motionChanged p s.posActive s.posBindingId s.posDegrees scan.pos = false := by
    rw [← hremembered]
    apply motionChanged_remembered
  have hrotate : motionChanged p s.posRotateActive s.posRotateBindingId s.posRotateDps scan.rotate
      = false := by
    rw [← hremembered]
    apply motionChanged_remembered
  have haims := h.aims
  have hstill := h.valid.still
  intro next
  simp only [next]
  unfold rebases
  rw [hpos, hrotate, hinit]
  unfold MotionScan.Aims MotionScan.Asks at haims
  cases hr : scan.rotate with
  | none =>
    cases hp : scan.pos with
    | none =>
      rw [hr, hp] at haims
      simp [nextMotion, hr, hp, haims, hstill, kAngleEpsilon_nonneg]
    | some pos =>
      rw [hr, hp] at haims
      simp [nextMotion, hr, hp, haims.1, hstill, kAngleEpsilon_nonneg, hexact, nearlyEqual,
        haims.2]
  | some rotate =>
    rw [hr] at haims
    cases hp : scan.pos with
    | none => simp [nextMotion, hr, hp, haims.1, hexact, nearlyEqual, haims.2]
    | some pos => simp [nextMotion, hr, hp, haims.1, hexact, nearlyEqual, haims.2]

theorem nextRotation_nextRotation (hexact : ∀ x, p.toFloat x = x) (h : s.Valid now)
    : nextRotation p (nextRotation p s scan now) scan now = nextRotation p s scan now := by
  have htracks := @tracks_nextRotation p s scan now hexact h
  cases hinit : (nextRotation p s scan now).initialized with
  | false =>
    have haims := htracks.aims
    rw [htracks.valid.fresh hinit] at haims ⊢
    unfold MotionScan.Aims MotionScan.Asks at haims
    split at haims
    . cases haims.1
    . cases haims.1
    next hrotate hpos => simp [nextRotation, hrotate, hpos]
  | true =>
    rcases @nextRotation_cases p (nextRotation p s scan now) scan now htracks.valid with
      ⟨hfresh, _, _, heq⟩ | ⟨_, heq⟩ | ⟨hrebases, _⟩
    . exact heq
    . rw [heq]
      exact remember_nextRotation h hinit
    . rw [rebases_of_tracks hexact htracks hinit (remember_nextRotation h hinit)] at hrebases
      cases hrebases

end Peraviz.Runtime
