import Peraviz.Runtime.Async.Lemmas

/-!
This module contains what becomes of the states that the pump takes from the mailbox, over any
number of sessions: as long as no session has failed when a state reaches it, the core ends up with
the last state of every universe.
-/

namespace Peraviz.Runtime.Async

open KeyedLog
open Dmx (DmxFrame RealtimeSubscription RealtimeUniverseMailbox)
open Presentation (AsyncPipeline.State AsyncPipeline.init)
open Presentation.AsyncPipeline.State

variable {γ σ : Type} {core : Presentation.Core γ σ} {r : VisualRuntime γ σ} {c : γ}

/-- The frames that the pump has taken and not yet submitted. -/
def Pump.waiting : Pump → List DmxFrame
  | collecting _ frames => frames
  | submitting frames => frames
  | _ => []

theorem length_payload (frame : DmxFrame) : (payload frame).length ≤ 512 := by
  unfold payload
  rw [List.length_take, List.length_take]
  omega

/--
A state that reaches a session finds it without failure, and has a byte. The frames of the mailbox
have at most 512.
-/
def Steady (r : VisualRuntime γ σ) (event : Event γ) : Prop :=
  match event, r.pump with
  | .main, .submitting (frame :: _) => payload frame ≠ [] ∧ ∀ s ∈ r.session, s.failed = false
  | _, _ => True

instance (r : VisualRuntime γ σ) (event : Event γ) : Decidable (Steady r event) := by
  unfold Steady
  split
  . infer_instance
  . infer_instance

/-- The core has the submitted part of a log, or its session is to hand it on. -/
structure Hands (core : Presentation.Core γ σ) (c : γ) (log : List (Int × List UInt8))
    (r : VisualRuntime γ σ) : Prop where
  waiting : r.pump ≠ .idle → ∀ s ∈ r.session, s.main = .idle
  session : ∀ s, r.session = some s → s.retired = false
    ∧ ∃ c' front back, front ++ back ++ r.pump.waiting.map stateOf = log
      ∧ core.heldUniverses c' = (core.heldUniverses c).map (after front) ∧ Owns core c' back s
  core : r.session = none → ∃ done, done ++ r.pump.waiting.map stateOf = log
    ∧ core.heldUniverses r.core = (core.heldUniverses c).map (after done)

theorem hands_init (mailbox : RealtimeUniverseMailbox)
    : Hands core c [] (machine core mailbox c).init where
  waiting h := absurd rfl h
  session s h := by cases h
  core _ := ⟨[], rfl, (List.map_id _).symm⟩

variable {log : List (Int × List UInt8)}

theorem Hands.pump (h : Hands core c log r) {mailbox : RealtimeUniverseMailbox} {pump : Pump}
    (frames : List DmxFrame) (hidle : r.pump ≠ .idle ∨ r.Idle)
    (hwaiting : pump.waiting = r.pump.waiting ++ frames)
    : Hands core c (log ++ frames.map stateOf) { r with
        mailbox := mailbox
        pump := pump } := by
  constructor
  . intro _
    rcases hidle with hbusy | hidle
    . exact h.waiting hbusy
    . unfold VisualRuntime.Idle at hidle
      split at hidle
      . exact hidle
      . exact absurd hidle id
  . intro s hs
    obtain ⟨hretired, c', front, back, hlog, hheld, howns⟩ := h.session s hs
    refine ⟨hretired, c', front, back, ?_, hheld, howns⟩
    rw [← hlog, hwaiting]
    simp
  . intro hs
    obtain ⟨done, hlog, hheld⟩ := h.core hs
    refine ⟨done, ?_, hheld⟩
    rw [← hlog, hwaiting]
    simp

theorem Hands.mailbox (h : Hands core c log r) (mailbox : RealtimeUniverseMailbox)
    : Hands core c log { r with mailbox := mailbox } :=
  ⟨h.waiting, h.session, h.core⟩

theorem Hands.inSession (hcore : Lawful core) (h : Hands core c log r)
    {event : Presentation.AsyncPipeline.Event}
    (hevent : ∀ universeId data, event ≠ .submit universeId data)
    (hmain : r.pump ≠ .idle → ∀ s ∈ r.session, (s.step core event).1.main = s.main)
    (hretired : ∀ s ∈ r.session, (s.step core event).1.retired = s.retired)
    : Hands core c log (r.inSession core event).1 := by
  unfold VisualRuntime.inSession
  cases hs : r.session with
  | none => exact h
  | some s =>
    obtain ⟨hold, c', front, back, hlog, hheld, howns⟩ := h.session s hs
    constructor
    . intro hbusy t ht
      cases ht
      exact (hmain hbusy s hs).trans (h.waiting hbusy s hs)
    . intro t ht
      cases ht
      refine ⟨(hretired s hs).trans hold, c', front, back, hlog, hheld, ?_⟩
      exact howns.quiet hcore hevent
    . intro hnone
      cases hnone

theorem main_stepCoordinator (s : AsyncPipeline.State γ σ)
    : (s.stepCoordinator core).1.main = s.main
        ∧ (s.stepCoordinator core).1.retired = s.retired := by
  unfold stepCoordinator
  split
  case h_4 =>
    unfold exchangeQueued
    split
    . exact ⟨rfl, rfl⟩
    . exact ⟨rfl, rfl⟩
  case h_6 =>
    unfold deliver
    split
    . exact ⟨rfl, rfl⟩
    . split
      . exact ⟨rfl, rfl⟩
      next hhand =>
        rw [(hand_eq_some hhand).1]
        exact ⟨rfl, rfl⟩
  case h_8 =>
    unfold claim
    split
    . exact ⟨rfl, rfl⟩
    . split
      . exact ⟨rfl, rfl⟩
      . exact ⟨rfl, rfl⟩
  case h_10 =>
    unfold complete
    split
    . exact ⟨rfl, rfl⟩
    . exact ⟨rfl, rfl⟩
  case h_12 =>
    unfold publish
    split
    . exact ⟨rfl, rfl⟩
    . exact ⟨rfl, rfl⟩
  all_goals exact ⟨rfl, rfl⟩

theorem main_submit (s : AsyncPipeline.State γ σ) (universeId : Int) (data : Option (List UInt8))
    : (s.submit universeId data).1.main = s.main
        ∧ (s.submit universeId data).1.retired = s.retired := by
  unfold submit
  split
  . exact ⟨rfl, rfl⟩
  . split
    . exact ⟨rfl, rfl⟩
    . split
      . exact ⟨rfl, rfl⟩
      . exact ⟨rfl, rfl⟩

theorem retired_call {s : AsyncPipeline.State γ σ}
    {f : AsyncPipeline.State γ σ → AsyncPipeline.State γ σ × Presentation.AsyncPipeline.Output σ}
    (h : (f s).1.retired = s.retired) : (s.call f).1.retired = s.retired := by
  unfold call
  split
  . exact h
  . rfl

theorem retired_step (s : AsyncPipeline.State γ σ) {event : Presentation.AsyncPipeline.Event}
    (h : event ≠ .main) : (s.step core event).1.retired = s.retired := by
  cases event with
  | submit universeId data => exact retired_call (main_submit s universeId data).2
  | flushInput =>
    apply retired_call
    unfold flushInput
    split
    . rfl
    . rfl
  | tryAcquire =>
    apply retired_call
    unfold tryAcquire
    split
    . rfl
    . rfl
  | release bank =>
    apply retired_call
    unfold release
    split
    . rfl
    . rfl
  | stop =>
    apply retired_call
    unfold stop
    split
    . rfl
    . rfl
  | main => exact absurd rfl h
  | coordinator => exact (main_stepCoordinator s).2

theorem pump_of_idle (hidle : r.Idle) : r.pump = .idle := by
  unfold VisualRuntime.Idle at hidle
  split at hidle
  next hpump => exact hpump
  next => exact absurd hidle id

theorem Hands.call (hcore : Lawful core) (h : Hands core c log r)
    {event : Presentation.AsyncPipeline.Event}
    (hevent : ∀ universeId data, event ≠ .submit universeId data) (hmain : event ≠ .main)
    : Hands core c log (r.call core event).1 := by
  unfold VisualRuntime.call
  split
  next hidle =>
    apply h.inSession hcore hevent
    . intro hbusy
      exact absurd (pump_of_idle hidle) hbusy
    . intro s _
      exact retired_step s hmain
  next => exact h

theorem Hands.stepSession (hcore : Lawful core) (h : Hands core c log r)
    (hbound : log.length < 2 ^ 64) (hpump : r.pump = .idle)
    : Hands core c log (r.stepSession core).1 := by
  unfold VisualRuntime.stepSession
  cases hs : r.session with
  | none => exact h
  | some s =>
    obtain ⟨_, c', front, back, hlog, hheld, howns⟩ := h.session s hs
    have hnext : Owns core c' back (s.step core .main).1 := by
      apply howns.quiet hcore
      simp
    dsimp only
    split
    next hretired =>
      constructor
      . intro hbusy
        exact absurd hpump hbusy
      . intro t ht
        cases ht
      . intro _
        refine ⟨front ++ back, hlog, ?_⟩
        have hback : back.length < 2 ^ 64 := by
          rw [← hlog] at hbound
          simp only [List.length_append] at hbound
          omega
        dsimp only
        apply (hnext.retired hback hretired).trans
        rw [hheld, List.map_map]
        apply List.map_congr_left
        intro held _
        exact after_append _ _ held
    next hretired =>
      constructor
      . intro hbusy
        exact absurd hpump hbusy
      . intro t ht
        cases ht
        exact ⟨Bool.eq_false_iff.mpr hretired, c', front, back, hlog, hheld, hnext⟩
      . intro hnone
        cases hnone

theorem Hands.submit (hcore : Lawful core) (h : Hands core c log r) {frame : DmxFrame}
    {frames : List DmxFrame} (hpump : r.pump = .submitting (frame :: frames))
    (hdata : payload frame ≠ []) (hfailed : ∀ s ∈ r.session, s.failed = false)
    : Hands core c log { r.submitNativeFrame core frame.universeId (payload frame) with
        pump := .submitting frames } := by
  unfold VisualRuntime.submitNativeFrame
  cases hs : r.session with
  | none =>
    obtain ⟨done, hlog, hheld⟩ := h.core hs
    constructor
    . intro _ t ht
      cases ht
    . intro t ht
      cases ht
    . intro _
      refine ⟨done ++ [stateOf frame], ?_, ?_⟩
      . rw [← hlog, hpump]
        simp [Pump.waiting]
      . dsimp only
        rw [hcore.submit _ _ _ hdata, hheld, List.map_map]
        apply List.map_congr_left
        intro held _
        exact after_append _ _ held
  | some s =>
    obtain ⟨hretired, c', front, back, hlog, hheld, howns⟩ := h.session s hs
    have hmain : s.main = .idle := h.waiting (by simp [hpump]) s hs
    have hsubmit : Owns core c' (back ++ [stateOf frame])
        (s.submit frame.universeId (some (payload frame))).1 :=
      howns.submit hcore hmain hretired (hfailed s hs) hdata (length_payload frame)
    obtain ⟨hmain', hretired'⟩ := main_submit s frame.universeId (some (payload frame))
    constructor
    . intro _ t ht
      cases ht
      exact hmain'.trans hmain
    . intro t ht
      cases ht
      refine ⟨hretired'.trans hretired, c', front, back ++ [stateOf frame], ?_, hheld, hsubmit⟩
      rw [← hlog, hpump]
      simp [Pump.waiting]
    . intro hnone
      cases hnone

theorem Hands.stepMain (hcore : Lawful core) (h : Hands core c log r) (hsteady : Steady r .main)
    (hbound : log.length < 2 ^ 64)
    : Hands core c (log ++ tookBy (r.stepMain core).2) (r.stepMain core).1 := by
  unfold Steady at hsteady
  unfold VisualRuntime.stepMain
  split
  next hpump =>
    have hquiet : tookBy (r.stepSession core).2 = [] := by
      unfold VisualRuntime.stepSession
      split
      . rfl
      . dsimp only
        split
        . rfl
        . rfl
    rw [hquiet, List.append_nil]
    exact h.stepSession hcore hbound hpump
  next hpump => exact h.pump _ (Or.inl (by simp [hpump])) (by simp [Pump.waiting, hpump])
  next left frames hpump =>
    unfold VisualRuntime.collect
    have hbusy : r.pump ≠ .idle ∨ r.Idle := Or.inl (by simp [hpump])
    split
    . exact h.pump [] hbusy (by simp [Pump.waiting, hpump])
    . split
      . exact h.pump [] hbusy (by simp [Pump.waiting, hpump])
      . exact h.pump _ hbusy (by simp [Pump.waiting, hpump])
  next hpump =>
    have hbusy : r.pump ≠ .idle ∨ r.Idle := Or.inl (by simp [hpump])
    exact h.pump [] hbusy (by simp [Pump.waiting, hpump])
  next frame frames hpump =>
    rw [hpump] at hsteady
    rw [show tookBy (Output.quiet : Output σ) = [] from rfl, List.append_nil]
    exact h.submit hcore hpump hsteady.1 hsteady.2

theorem tookBy_inSession (event : Presentation.AsyncPipeline.Event)
    : tookBy (r.inSession core event).2 = [] := by
  unfold VisualRuntime.inSession
  split
  . rfl
  . rfl

theorem tookBy_call (event : Presentation.AsyncPipeline.Event)
    : tookBy (r.call core event).2 = [] := by
  unfold VisualRuntime.call
  split
  . exact tookBy_inSession event
  . rfl

theorem Hands.attach (h : Hands core c log r) (hidle : r.Idle)
    : Hands core c log (r.attachAsync core) := by
  unfold VisualRuntime.attachAsync
  split
  . exact h
  next hs =>
    obtain ⟨done, hlog, hheld⟩ := h.core hs
    constructor
    . intro hbusy
      exact absurd (pump_of_idle hidle) hbusy
    . intro t ht
      cases ht
      refine ⟨rfl, r.core, done, [], ?_, hheld, owns_init core r.core⟩
      rw [List.append_nil]
      exact hlog
    . intro hnone
      cases hnone

theorem Hands.consume (hcore : Lawful core) (h : Hands core c log r)
    : Hands core c log (r.consume core).1 := by
  unfold VisualRuntime.consume
  split
  . exact h
  next hs =>
    split
    . exact h
    next c' content hconsume =>
      refine ⟨h.waiting, h.session, ?_⟩
      intro _
      obtain ⟨done, hlog, hheld⟩ := h.core hs
      exact ⟨done, hlog, (hcore.consume _ _ _ hconsume).1.trans hheld⟩

theorem Hands.fail (h : Hands core c log r) (c' : γ) : Hands core c log (r.fail core c') := by
  unfold VisualRuntime.fail
  split
  . exact h
  next s hs =>
    split
    next hfail =>
      obtain ⟨hawake, hheld, hschema⟩ := hfail
      obtain ⟨hretired, c'', front, back, hlog, heq, howns⟩ := h.session s hs
      constructor
      . intro hbusy t ht
        cases ht
        exact h.waiting hbusy s hs
      . intro t ht
        cases ht
        exact ⟨hretired, c'', front, back, hlog, heq, howns.fail hawake hheld hschema⟩
      . intro hnone
        cases hnone
    next => exact h

theorem Hands.step (hcore : Lawful core) (h : Hands core c log r) (event : Event γ)
    (hsteady : Steady r event) (hbound : log.length < 2 ^ 64)
    : Hands core c (log ++ tookBy (r.step core event).2) (r.step core event).1 := by
  have hnil : log ++ tookBy (Output.quiet : Output σ) = log := List.append_nil log
  cases event with
  | publish universeId data length sequence nowUs =>
    rw [VisualRuntime.step, hnil]
    exact h.mailbox _
  | resetSession =>
    rw [VisualRuntime.step, hnil]
    exact h.mailbox _
  | pumpMailbox install =>
    simp only [VisualRuntime.step]
    split
    next hidle =>
      unfold VisualRuntime.pumpMailbox
      split
      . exact h.pump [] (Or.inr hidle) (by simp [Pump.waiting, pump_of_idle hidle])
      . exact h.pump [] (Or.inr hidle) (by simp [Pump.waiting, pump_of_idle hidle])
    next =>
      rw [hnil]
      exact h
  | attachAsync =>
    simp only [VisualRuntime.step]
    rw [hnil]
    split
    next hidle => exact h.attach hidle
    next => exact h
  | flushInput =>
    rw [VisualRuntime.step, tookBy_call, List.append_nil]
    exact h.call hcore (by simp) (by simp)
  | tryAcquire =>
    rw [VisualRuntime.step, tookBy_call, List.append_nil]
    exact h.call hcore (by simp) (by simp)
  | release bank =>
    rw [VisualRuntime.step, tookBy_call, List.append_nil]
    exact h.call hcore (by simp) (by simp)
  | retireAsync =>
    rw [VisualRuntime.step, tookBy_call, List.append_nil]
    exact h.call hcore (by simp) (by simp)
  | consume =>
    simp only [VisualRuntime.step]
    split
    . have hquiet : tookBy (r.consume core).2 = [] := by
        unfold VisualRuntime.consume
        split
        . rfl
        . split
          . rfl
          . rfl
      rw [hquiet, List.append_nil]
      exact h.consume hcore
    . rw [hnil]
      exact h
  | main => exact h.stepMain hcore hsteady hbound
  | coordinator =>
    rw [VisualRuntime.step, tookBy_inSession, List.append_nil]
    apply h.inSession hcore (by simp)
    . intro _ s _
      exact (main_stepCoordinator s).1
    . intro s _
      exact retired_step s (by simp)
  | fail c' =>
    rw [VisualRuntime.step, hnil]
    exact h.fail c'

-- The core has the last state of every universe whenever no session owns it and no call runs.
theorem run_hands (hcore : Lawful core) (mailbox : RealtimeUniverseMailbox) (c : γ)
    {events : List (Event γ)}
    (hsteady : (machine core mailbox c).StepsMeet Steady (machine core mailbox c).init events)
    (hbound : (taken ((machine core mailbox c).trace (machine core mailbox c).init events)).length
      < 2 ^ 64)
    : Hands core c (taken ((machine core mailbox c).trace (machine core mailbox c).init events))
        ((machine core mailbox c).run (machine core mailbox c).init events) := by
  have hresult := (machine core mailbox c).guarded_trace_induction Steady
    (fun past r => (taken past).length < 2 ^ 64 → Hands core c (taken past) r) ?_ ?_ hsteady
  . exact hresult hbound
  . intro _
    exact hands_init mailbox
  . intro past r event h hsteady hlength
    have htaken : taken (past ++ [(event, (r.step core event).2)])
        = taken past ++ tookBy (r.step core event).2 := by
      simp [taken]
    change (taken (past ++ [(event, (r.step core event).2)])).length < 2 ^ 64 at hlength
    change Hands core c (taken (past ++ [(event, (r.step core event).2)])) (r.step core event).1
    rw [htaken] at hlength ⊢
    have hpast : (taken past).length < 2 ^ 64 := by
      rw [List.length_append] at hlength
      omega
    exact (h hpast).step hcore event hsteady hpast

end Peraviz.Runtime.Async
