import Peraviz.Presentation.AsyncPipeline.Delivery
import Peraviz.Presentation.AsyncPipeline.Snapshots

/-!
This module contains what both threads of the pipeline may rely on over a whole session.
-/

namespace Peraviz.Presentation
namespace AsyncPipeline

open KeyedLog State

variable {γ σ : Type}

theorem flushed_of_step {core : Core γ σ} {s s' : State γ σ} {out : Output σ} (h : s.InputsHeld)
    (hstep : Step core s s' out)
    : out ≠ .flushed none := by
  cases hstep with
  | quiet _ hout =>
    obtain rfl | rfl | rfl := hout
    . simp
    . simp
    . simp
  | scanFull bank hmain hstatus hlast =>
    have := h.not_scanFull hmain hstatus
    omega
  | _ => simp

theorem flushed_run (core : Core γ σ) (c : γ) (events : List Event)
    : ∀ entry ∈ (machine core c).trace (machine core c).init events, entry.2 ≠ .flushed none := by
  have h := Machine.trace_induction (machine core c)
    (fun past s => (∀ entry ∈ past, entry.2 ≠ .flushed none) ∧ s.InputsHeld) ?_ ?_ events
  . exact h.1
  . exact ⟨by simp, inputsHeld_init core c⟩
  . intro past s event h
    have hstep := step_cases core s event
    refine ⟨?_, h.2.step hstep⟩
    intro entry hmem
    cases List.mem_append.mp hmem with
    | inl hmem => exact h.1 entry hmem
    | inr hmem =>
      rw [List.mem_singleton.mp hmem]
      exact flushed_of_step h.2 hstep

def OwnedOnce {β : Type} (holdings : List (Party × β)) : Prop :=
  ∀ p q bank, (p, bank) ∈ holdings → (q, bank) ∈ holdings → p = q

/-- A session that ended with the scene it began with. -/
def Ended (core : Core γ σ) (s : State γ σ) : Prop :=
  s.retired = true ∧ core.schemaGeneration s.core = s.schema

/-- The core has the last accepted frame of every universe. -/
def HandedLast (past : List (Event × Output σ)) : Prop :=
  ∀ universeId, (valuesOf universeId (handed past)).getLast?
    = (valuesOf universeId (submissions past)).getLast?

/-- The protocol of the banks, after every interleaving of the two threads. -/
theorem run_bankProtocol (core : Core γ σ) (c : γ) (events : List Event)
    : let s := (machine core c).run (machine core c).init events
      let past := (machine core c).trace (machine core c).init events
      OwnedOnce s.inputHoldings
        ∧ OwnedOnce s.outputHoldings
        ∧ (∀ entry ∈ past, entry.2 ≠ .flushed none)
        ∧ (∀ universeId, (valuesOf universeId (handed past)).Sublist
            (valuesOf universeId (submissions past)))
        ∧ (Ended core s → (submissions past).length < 2 ^ 64 → HandedLast past)
        ∧ acquired past <+: produced past
        ∧ ∀ lease ∈ s.leases, (s.outputs lease.1).snapshot = lease.2 := by
  intro s past
  have hinputs := inputsHeld_run core c events
  have houtputs := outputsHeld_run core c events
  obtain ⟨taken, copied, hdelivers⟩ := delivers_run core c events
  have hstreams := streams_run core c events
  refine ⟨?_, ?_, flushed_run core c events, ?_, ?_, ?_, hstreams.leases⟩
  . intro p q bank hp hq
    exact hinputs.exclusive.eq_of_mem hp hq
  . intro p q bank hp hq
    exact houtputs.exclusive.eq_of_mem hp hq
  . intro universeId
    obtain ⟨rest, hrest⟩ := hdelivers.below universeId
    apply (hdelivers.sublist universeId).trans
    rw [← hrest, valuesOf_append]
    exact List.sublist_append_left _ _
  . intro hended hbound universeId
    rw [hdelivers.last universeId, hdelivers.retired hbound hended.1 hended.2 universeId]
  . have hearlier := (List.prefix_append _ _).trans hstreams.isPrefix
    exact (List.prefix_map_iff_of_injective (Option.some_injective _)).mp hearlier

/-- A core that only knows universe 0 and forgets what it receives. -/
def silentCore : Core Unit Unit where
  heldUniverses _ := [(0, [])]
  submitUniverseFrame c _ _ := c
  consume c := some (c, ())
  schemaGeneration _ := 0
  nodup_heldUniverses _ := by simp

def submitFive : Event := .submit 0 (some [5])

/-- Stop before the coordinator has done anything, and restore. -/
def stopEvents : List Event := [.stop, .coordinator, .main, .main, .main]

theorem run_bankProtocol_submitFive
    : HandedLast ((machine silentCore ()).trace (machine silentCore ()).init
        (submitFive :: stopEvents)) := by
  apply (run_bankProtocol silentCore () (submitFive :: stopEvents)).2.2.2.2.1
  . exact ⟨rfl, rfl⟩
  . exact (by decide : 1 < 2 ^ 64)

/-- The state after calls of `submit` of which the last had the sequence `sequence`. -/
def flooded (sequence : UInt64) : State Unit Unit :=
  { init silentCore () with
    latest := [⟨0, sequence, [5]⟩]
    producerSequence := sequence
    producerDirty := true
  }

theorem run_flooded (sequence : UInt64) (n : Nat)
    : (machine silentCore ()).run (flooded sequence) (List.replicate n submitFive)
        = flooded (sequence + UInt64.ofNat n) := by
  induction n generalizing sequence with
  | zero => exact congrArg flooded (UInt64.add_zero sequence).symm
  | succ n ih =>
    have hstep : ((machine silentCore ()).step (flooded sequence) submitFive).1
        = flooded (sequence + 1) := rfl
    rw [List.replicate_succ, Machine.run_cons, hstep, ih, UInt64.ofNat_add, UInt64.add_assoc,
      UInt64.add_comm 1]
    rfl

theorem trace_flooded (sequence : UInt64) (n : Nat)
    : (machine silentCore ()).trace (flooded sequence) (List.replicate n submitFive)
        = List.replicate n (submitFive, .submitted (some (0, [5]))) := by
  induction n generalizing sequence with
  | zero => rfl
  | succ n ih =>
    have hstep : (machine silentCore ()).step (flooded sequence) submitFive
        = (flooded (sequence + 1), .submitted (some (0, [5]))) := rfl
    rw [List.replicate_succ, Machine.trace, hstep, ih]
    rfl

/-- A session whose frames were submitted so often that the sequence is back where it began. -/
def floodEvents : List Event :=
  submitFive :: (List.replicate (2 ^ 64 - 1) submitFive ++ stopEvents)

theorem run_floodEvents
    : (machine silentCore ()).run (machine silentCore ()).init floodEvents
        = (machine silentCore ()).run (flooded 1) stopEvents := by
  have hstep : ((machine silentCore ()).step (machine silentCore ()).init submitFive).1
      = flooded 2 := rfl
  have hwrap : (2 : UInt64) + UInt64.ofNat (2 ^ 64 - 1) = 1 := by decide
  rw [floodEvents, Machine.run_cons, hstep, Machine.run_append, run_flooded, hwrap]

theorem trace_floodEvents
    : (machine silentCore ()).trace (machine silentCore ()).init floodEvents
        = (submitFive, .submitted (some (0, [5])))
          :: (List.replicate (2 ^ 64 - 1) (submitFive, .submitted (some (0, [5])))
            ++ (machine silentCore ()).trace (flooded 1) stopEvents) := by
  have hstep : (machine silentCore ()).step (machine silentCore ()).init submitFive
      = (flooded 2, .submitted (some (0, [5]))) := rfl
  have hwrap : (2 : UInt64) + UInt64.ofNat (2 ^ 64 - 1) = 1 := by decide
  rw [floodEvents, Machine.trace, hstep, Machine.trace_append, run_flooded, hwrap, trace_flooded]

theorem handed_replicate (n : Nat) (frame : Option (Int × List UInt8))
    : handed (List.replicate n (submitFive, (.submitted frame : Output Unit))) = [] := by
  induction n with
  | zero => rfl
  | succ n ih => rw [List.replicate_succ]; exact ih

/-- With as many submissions as there are sequences, the last frame may be taken for consumed. -/
theorem exists_not_handedLast
    : Ended silentCore ((machine silentCore ()).run (machine silentCore ()).init floodEvents)
        ∧ ¬HandedLast ((machine silentCore ()).trace (machine silentCore ()).init floodEvents) := by
  constructor
  . rw [run_floodEvents]
    exact ⟨rfl, rfl⟩
  . intro h
    have h0 := h 0
    have hhanded : handed ((machine silentCore ()).trace (machine silentCore ()).init floodEvents)
        = [] := by
      rw [trace_floodEvents]
      have htail : handed ((machine silentCore ()).trace (flooded 1) stopEvents) = [] := rfl
      have hcons : ∀ rest : List (Event × Output Unit),
          handed ((submitFive, .submitted (some (0, [5]))) :: rest) = handed rest := fun _ => rfl
      have happend : ∀ front back : List (Event × Output Unit),
          handed (front ++ back) = handed front ++ handed back := fun _ _ => List.filterMap_append
      rw [hcons, happend, handed_replicate, htail]
      rfl
    have hsubmitted : ∃ rest, submissions
        ((machine silentCore ()).trace (machine silentCore ()).init floodEvents)
          = (0, [5]) :: rest := by
      rw [trace_floodEvents]
      exact ⟨_, rfl⟩
    obtain ⟨rest, hrest⟩ := hsubmitted
    rw [hhanded, hrest] at h0
    have hcons : valuesOf (0 : Int) ((0, [5]) :: rest) = [5] :: valuesOf 0 rest :=
      valuesOf_append 0 [(0, [5])] rest
    rw [hcons, valuesOf_nil, List.getLast?_nil, List.getLast?_cons] at h0
    exact Option.some_ne_none _ h0.symm

end AsyncPipeline
end Peraviz.Presentation
