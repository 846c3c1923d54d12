import Peraviz.Presentation.AsyncPipeline.Lemmas

/-!
This module contains who holds the banks of the pipeline: every bank is in one pair of hands, and a
flush always finds one that is in nobody's. At the end of a session the coordinator has left before
the main thread restores the input that was not consumed, and nothing is accepted afterwards.
-/

namespace Peraviz.Presentation
namespace AsyncPipeline
namespace State

open Custody (Exclusive)

variable {γ σ : Type} {core : Core γ σ} {s s' : State γ σ} {out : Output σ}

def heldInputs (s : State γ σ) : List (Fin 3) :=
  s.main.inputBanks ++ s.queuedInput.toList ++ s.coordinator.inputBanks

def heldOutputs (s : State γ σ) : List (Fin 2) :=
  s.leases.map Prod.fst ++ s.main.outputBanks ++ s.readyOutput.toList ++ s.coordinator.outputBanks

theorem snd_inputHoldings (s : State γ σ) : s.inputHoldings.map Prod.snd = s.heldInputs := by
  simp [inputHoldings, heldInputs, Function.comp_def]

theorem snd_outputHoldings (s : State γ σ) : s.outputHoldings.map Prod.snd = s.heldOutputs := by
  simp [outputHoldings, heldOutputs, Function.comp_def]

structure InputsHeld (s : State γ σ) : Prop where
  nodup : s.heldInputs.Nodup
  status : ∀ bank, (s.inputs bank).status = .free ↔ bank ∉ s.heldInputs
  scanning : ∀ bank, s.main = .scanning bank → ∃ free, bank ≤ free ∧ (s.inputs free).status = .free

structure OutputsHeld (s : State γ σ) : Prop where
  nodup : s.heldOutputs.Nodup
  status : ∀ bank ∈ s.heldOutputs, (s.outputs bank).status ≠ .free

theorem InputsHeld.perm (h : s.InputsHeld) (hinputs : s'.inputs = s.inputs)
    (hheld : s'.heldInputs.Perm s.heldInputs) (hmain : ∀ bank, s'.main ≠ .scanning bank)
    : s'.InputsHeld where
  nodup := hheld.nodup_iff.mpr h.nodup
  status bank := by rw [hinputs, h.status, hheld.mem_iff]
  scanning bank hscanning := absurd hscanning (hmain bank)

theorem InputsHeld.same (h : s.InputsHeld) (hinputs : s'.inputs = s.inputs)
    (hqueued : s'.queuedInput = s.queuedInput) (hbanks : s'.main.inputBanks = s.main.inputBanks)
    (hpc : s'.coordinator.inputBanks = s.coordinator.inputBanks)
    (hmain : ∀ bank, s'.main = .scanning bank → s.main = .scanning bank)
    : s'.InputsHeld := by
  have hheld : s'.heldInputs = s.heldInputs := by
    rw [heldInputs, heldInputs, hqueued, hbanks, hpc]
  refine ⟨?_, ?_, ?_⟩
  . rw [hheld]
    exact h.nodup
  . intro bank
    rw [hheld, hinputs]
    exact h.status bank
  . intro bank hscanning
    rw [hinputs]
    exact h.scanning bank (hmain bank hscanning)

theorem InputsHeld.update (h : s.InputsHeld) {bank : Fin 3} {value : InputBank}
    (hinputs : s'.inputs = Function.update s.inputs bank value) (hnodup : s'.heldInputs.Nodup)
    (hbank : value.status = .free ↔ bank ∉ s'.heldInputs)
    (hother : ∀ other, other ≠ bank → (other ∈ s'.heldInputs ↔ other ∈ s.heldInputs))
    (hscanning : ∀ other, s'.main = .scanning other → s.main = .scanning other)
    (hfree : (s.inputs bank).status = .free → value.status = .free
      ∨ ∀ other, s'.main ≠ .scanning other)
    : s'.InputsHeld := by
  refine ⟨hnodup, ?_, ?_⟩
  . intro other
    rw [hinputs]
    by_cases heq : other = bank
    . rw [heq, Function.update_self]
      exact hbank
    . rw [Function.update_of_ne heq, h.status, hother other heq]
  . intro other hmain
    obtain ⟨free, hle, hstatus⟩ := h.scanning other (hscanning other hmain)
    refine ⟨free, hle, ?_⟩
    rw [hinputs]
    by_cases heq : free = bank
    . rw [heq, Function.update_self]
      rw [heq] at hstatus
      cases hfree hstatus with
      | inl hfree => exact hfree
      | inr hfree => exact absurd hmain (hfree other)
    . rw [Function.update_of_ne heq]
      exact hstatus

theorem length_inputBanks_le (pc : Coordinator) : pc.inputBanks.length ≤ 1 := by
  cases pc <;> simp [Coordinator.inputBanks]

theorem InputsHeld.exists_free (h : s.InputsHeld) (hmain : s.main.inputBanks = [])
    : ∃ free, (s.inputs free).status = .free := by
  have hlength : s.inputHoldings.length < Fintype.card (Fin 3) := by
    have := length_inputBanks_le s.coordinator
    have : s.queuedInput.toList.length ≤ 1 := by
      cases s.queuedInput <;> simp
    simp only [inputHoldings, hmain, List.length_append, List.length_map, List.length_nil,
      Fintype.card_fin]
    omega
  obtain ⟨free, hfree⟩ := Custody.exists_free s.inputHoldings hlength
  rw [snd_inputHoldings] at hfree
  exact ⟨free, (h.status free).mpr hfree⟩

theorem InputsHeld.beginScan (h : s.InputsHeld) (hmain : s.main = .idle)
    : InputsHeld { s with main := .scanning 0 } := by
  have hbanks : s.main.inputBanks = [] := by rw [hmain]; rfl
  have hheld : heldInputs { s with main := .scanning 0 } = s.heldInputs := by
    rw [heldInputs, heldInputs, hbanks]
    rfl
  refine ⟨by rw [hheld]; exact h.nodup, by rw [hheld]; exact h.status, ?_⟩
  intro bank hscanning
  cases hscanning
  obtain ⟨free, hfree⟩ := h.exists_free hbanks
  exact ⟨free, Fin.zero_le free, hfree⟩

theorem InputsHeld.scanNext (h : s.InputsHeld) {bank next : Fin 3} (hmain : s.main = .scanning bank)
    (hstatus : (s.inputs bank).status ≠ .free) (hnext : next.val = bank.val + 1)
    : InputsHeld { s with main := .scanning next } := by
  have hheld : heldInputs { s with main := .scanning next } = s.heldInputs := by
    rw [heldInputs, heldInputs, hmain]
    rfl
  refine ⟨by rw [hheld]; exact h.nodup, by rw [hheld]; exact h.status, ?_⟩
  intro other hscanning
  cases hscanning
  obtain ⟨free, hle, hfree⟩ := h.scanning bank hmain
  refine ⟨free, ?_, hfree⟩
  have hne : free ≠ bank := by
    intro heq
    rw [heq] at hfree
    exact hstatus hfree
  omega

theorem InputsHeld.not_scanFull (h : s.InputsHeld) {bank : Fin 3} (hmain : s.main = .scanning bank)
    (hstatus : (s.inputs bank).status ≠ .free)
    : bank.val + 1 < 3 := by
  obtain ⟨free, hle, hfree⟩ := h.scanning bank hmain
  have hne : free ≠ bank := by
    intro heq
    rw [heq] at hfree
    exact hstatus hfree
  omega

theorem InputsHeld.step (h : s.InputsHeld) (hstep : Step core s s' out) : s'.InputsHeld := by
  cases hstep with
  | quiet => exact h
  | accept universeId data index hmain => exact h.same rfl rfl rfl rfl (fun _ h => h)
  | beginScan hmain => exact h.beginScan hmain
  | scanNext bank next hmain hstatus hnext => exact h.scanNext hmain hstatus hnext
  | scanFull bank hmain => exact h.same rfl rfl (by rw [hmain]; rfl) rfl (by simp)
  | scanTake bank hmain hstatus =>
    have hfree := (h.status bank).mp hstatus
    have hnodup := h.nodup
    simp only [heldInputs, hmain, Main.inputBanks, List.nil_append] at hfree hnodup
    apply h.update rfl
    . exact List.nodup_cons.mpr ⟨hfree, hnodup⟩
    . simp [heldInputs, Main.inputBanks]
    . intro other hne
      simp [heldInputs, hmain, setInput, Main.inputBanks, hne]
    . simp
    . simp
  | fill bank hmain =>
    have hnodup := h.nodup
    simp only [heldInputs, hmain, Main.inputBanks] at hnodup
    apply h.update rfl
    . exact hnodup
    . simp [heldInputs, State.fill, Main.inputBanks]
    . intro other hne
      simp [heldInputs, hmain, State.fill, Main.inputBanks]
    . simp [State.fill]
    . simp [State.fill]
  | exchangeNew bank hmain hqueued =>
    apply InputsHeld.perm h
    . rfl
    . simp [heldInputs, hmain, hqueued, Main.inputBanks]
    . simp
  | exchangeOld bank old hmain hqueued =>
    apply InputsHeld.perm h
    . rfl
    . simp only [heldInputs, hmain, hqueued, Main.inputBanks, Option.toList_some, List.cons_append,
        List.nil_append]
      exact List.Perm.swap _ _ _
    . simp
  | freeInput bank old hmain =>
    have hnodup := h.nodup
    simp only [heldInputs, hmain, Main.inputBanks, List.cons_append, List.nil_append,
      List.nodup_cons] at hnodup
    apply h.update rfl
    . exact hnodup.2
    . simp only [true_iff]
      exact hnodup.1
    . intro other hne
      simp [heldInputs, hmain, setInput, Main.inputBanks, hne]
    . simp
    . simp
  | beginAcquire hmain => exact h.same rfl rfl (by rw [hmain]; rfl) rfl (by simp)
  | acquireNone hmain => exact h.same rfl rfl (by rw [hmain]; rfl) rfl (by simp)
  | acquireTake bank hmain => exact h.same rfl rfl (by rw [hmain]; rfl) rfl (by simp)
  | lease bank hmain => exact h.same rfl rfl (by rw [hmain]; rfl) rfl (by simp [State.lease])
  | release bank hmain => exact h.same rfl rfl rfl rfl (fun _ h => h)
  | stop hmain => exact h.same rfl rfl (by rw [hmain]; rfl) rfl (by simp)
  | joinRestore hmain => exact h.same rfl rfl (by rw [hmain]; rfl) rfl (by simp)
  | joinRetire hmain => exact h.same rfl rfl (by rw [hmain]; rfl) rfl (by simp [retire])
  | restoreHand index frame hmain => exact h.same rfl rfl (by rw [hmain]; rfl) rfl (by simp)
  | restoreSkip index frame hmain => exact h.same rfl rfl (by rw [hmain]; rfl) rfl (by simp)
  | restoreDone index hmain => exact h.same rfl rfl (by rw [hmain]; rfl) rfl (by simp [retire])
  | move pc initialBatch hmoves => exact h.same rfl rfl rfl hmoves.inputs (fun _ h => h)
  | takeQueued bank hpc hqueued =>
    have hheld : heldInputs { s.moveTo (.taken bank) with queuedInput := none } = s.heldInputs := by
      simp [heldInputs, moveTo, hpc, hqueued, Coordinator.inputBanks]
    exact ⟨by rw [hheld]; exact h.nodup, by rw [hheld]; exact h.status, h.scanning⟩
  | beginReading bank hpc =>
    have hheld : (s.beginReading bank).heldInputs = s.heldInputs := by
      simp [heldInputs, State.beginReading, moveTo, setInput, hpc, Coordinator.inputBanks]
    have hmem : bank ∈ s.heldInputs := by simp [heldInputs, hpc, Coordinator.inputBanks]
    apply h.update rfl
    . rw [hheld]
      exact h.nodup
    . rw [hheld]
      simp [hmem]
    . intro other hne
      rw [hheld]
    . exact fun _ h => h
    . intro hfree
      exact absurd hmem ((h.status bank).mp hfree)
  | deliverHand bank index frame hpc => exact h.same rfl rfl rfl (by rw [hpc]; rfl) (fun _ h => h)
  | deliverDone bank index hpc =>
    have hnodup := h.nodup
    simp only [heldInputs, hpc, Coordinator.inputBanks] at hnodup
    rw [List.nodup_append_comm, List.singleton_append, List.nodup_cons] at hnodup
    apply h.update rfl
    . simp only [heldInputs, moveTo, setInput, Coordinator.inputBanks, List.append_nil]
      exact hnodup.2
    . simp only [heldInputs, moveTo, setInput, Coordinator.inputBanks, List.append_nil, true_iff]
      exact hnodup.1
    . intro other hne
      simp [heldInputs, hpc, moveTo, setInput, Coordinator.inputBanks, hne]
    . exact fun _ h => h
    . exact fun _ => Or.inl rfl
  | claimTake bank hpc => exact h.same rfl rfl rfl (by rw [hpc]; rfl) (fun _ h => h)
  | completeFail bank hpc => exact h.same rfl rfl rfl (by rw [hpc]; rfl) (fun _ h => h)
  | complete bank c content hpc => exact h.same rfl rfl rfl (by rw [hpc]; rfl) (fun _ h => h)
  | publish bank hpc => exact h.same rfl rfl rfl (by rw [hpc]; rfl) (fun _ h => h)

theorem OutputsHeld.subperm (h : s.OutputsHeld)
    (houtputs : ∀ bank, (s'.outputs bank).status = (s.outputs bank).status)
    (hheld : s'.heldOutputs.Subperm s.heldOutputs)
    : s'.OutputsHeld where
  nodup := by
    obtain ⟨rest, hperm, hsub⟩ := hheld
    exact hperm.nodup_iff.mp (h.nodup.sublist hsub)
  status bank hbank := by
    rw [houtputs]
    exact h.status bank (hheld.subset hbank)

theorem OutputsHeld.same (h : s.OutputsHeld) (houtputs : s'.outputs = s.outputs)
    (hleases : s'.leases = s.leases) (hbanks : s'.main.outputBanks = s.main.outputBanks)
    (hready : s'.readyOutput = s.readyOutput)
    (hpc : s'.coordinator.outputBanks.Sublist s.coordinator.outputBanks)
    : s'.OutputsHeld := by
  apply h.subperm
  . intro bank
    rw [houtputs]
  . rw [heldOutputs, heldOutputs, hleases, hbanks, hready]
    exact ((List.Sublist.refl _).append hpc).subperm

theorem OutputsHeld.update (h : s.OutputsHeld) {bank : Fin 2} {value : OutputBank σ}
    (houtputs : s'.outputs = Function.update s.outputs bank value) (hnodup : s'.heldOutputs.Nodup)
    (hbank : bank ∈ s'.heldOutputs → value.status ≠ .free)
    (hother : ∀ other, other ≠ bank → other ∈ s'.heldOutputs → other ∈ s.heldOutputs)
    : s'.OutputsHeld := by
  refine ⟨hnodup, ?_⟩
  intro other hheld
  rw [houtputs]
  by_cases heq : other = bank
  . rw [heq, Function.update_self]
    rw [heq] at hheld
    exact hbank hheld
  . rw [Function.update_of_ne heq]
    exact h.status other (hother other heq hheld)

theorem OutputsHeld.retire (h : s.OutputsHeld) {pc : Main} (hmain : s.main = pc)
    (hbanks : pc.outputBanks = [])
    : s.retire.OutputsHeld := by
  apply OutputsHeld.subperm h
  . exact fun _ => rfl
  . unfold heldOutputs
    rw [hmain, hbanks]
    apply List.Sublist.subperm
    apply List.Sublist.append
    . exact (List.Sublist.refl _).append (List.nil_sublist _)
    . exact List.Sublist.refl _

theorem OutputsHeld.step (h : s.OutputsHeld) (hstep : Step core s s' out) : s'.OutputsHeld := by
  cases hstep with
  | quiet => exact h
  | accept universeId data index hmain => exact h.same rfl rfl rfl rfl (List.Sublist.refl _)
  | beginScan hmain => exact h.same rfl rfl (by rw [hmain]; rfl) rfl (List.Sublist.refl _)
  | scanNext bank next hmain => exact h.same rfl rfl (by rw [hmain]; rfl) rfl (List.Sublist.refl _)
  | scanFull bank hmain => exact h.same rfl rfl (by rw [hmain]; rfl) rfl (List.Sublist.refl _)
  | scanTake bank hmain => exact h.same rfl rfl (by rw [hmain]; rfl) rfl (List.Sublist.refl _)
  | fill bank hmain => exact h.same rfl rfl (by rw [hmain]; rfl) rfl (List.Sublist.refl _)
  | exchangeNew bank hmain => exact h.same rfl rfl (by rw [hmain]; rfl) rfl (List.Sublist.refl _)
  | exchangeOld bank old hmain => exact h.same rfl rfl (by rw [hmain]; rfl) rfl (List.Sublist.refl _)
  | freeInput bank old hmain => exact h.same rfl rfl (by rw [hmain]; rfl) rfl (List.Sublist.refl _)
  | beginAcquire hmain => exact h.same rfl rfl (by rw [hmain]; rfl) rfl (List.Sublist.refl _)
  | acquireNone hmain => exact h.same rfl rfl (by rw [hmain]; rfl) rfl (List.Sublist.refl _)
  | acquireTake bank hmain hready =>
    apply OutputsHeld.subperm h
    . exact fun _ => rfl
    . simp only [heldOutputs, hmain, hready, Main.outputBanks, List.append_nil, Option.toList_none,
        Option.toList_some]
      exact List.Subperm.refl _
  | lease bank hmain =>
    have hheld : (s.lease bank).1.heldOutputs = s.heldOutputs := by
      simp [heldOutputs, State.lease, setOutput, hmain, Main.outputBanks]
    have hmem : bank ∈ s.heldOutputs := by simp [heldOutputs, hmain, Main.outputBanks]
    apply h.update rfl
    . rw [hheld]
      exact h.nodup
    . simp
    . intro other hne hmem
      rw [hheld] at hmem
      exact hmem
  | release bank hmain hmem =>
    have hheld : (List.map Prod.fst (s.leases.filter (·.1 != bank))).Sublist
        (s.leases.map Prod.fst) := List.Sublist.map _ List.filter_sublist
    have hsub : (heldOutputs { s.setOutput bank .free with
        leases := s.leases.filter (·.1 != bank) }).Sublist s.heldOutputs := by
      unfold heldOutputs
      exact ((hheld.append (List.Sublist.refl _)).append (List.Sublist.refl _)).append
        (List.Sublist.refl _)
    apply h.update rfl
    . exact h.nodup.sublist hsub
    . intro hbank
      exfalso
      have hnodup := h.nodup
      simp only [heldOutputs, List.append_assoc] at hnodup
      have hdisjoint := List.disjoint_of_nodup_append hnodup hmem
      apply hdisjoint
      simpa [heldOutputs, setOutput] using hbank
    . intro other hne hmem
      exact hsub.subset hmem
  | stop hmain => exact h.same rfl rfl (by rw [hmain]; rfl) rfl (List.Sublist.refl _)
  | joinRestore hmain => exact h.same rfl rfl (by rw [hmain]; rfl) rfl (List.Sublist.refl _)
  | joinRetire hmain => exact h.retire hmain rfl
  | restoreHand index frame hmain =>
    exact h.same rfl rfl (by rw [hmain]; rfl) rfl (List.Sublist.refl _)
  | restoreSkip index frame hmain =>
    exact h.same rfl rfl (by rw [hmain]; rfl) rfl (List.Sublist.refl _)
  | restoreDone index hmain => exact h.retire hmain rfl
  | move pc initialBatch hmoves => exact h.same rfl rfl rfl rfl hmoves.outputs
  | takeQueued bank hpc => exact h.same rfl rfl rfl rfl (by rw [hpc]; exact List.Sublist.refl _)
  | beginReading bank hpc => exact h.same rfl rfl rfl rfl (by rw [hpc]; exact List.Sublist.refl _)
  | deliverHand bank index frame hpc =>
    exact h.same rfl rfl rfl rfl (by rw [hpc]; exact List.Sublist.refl _)
  | deliverDone bank index hpc =>
    exact h.same rfl rfl rfl rfl (by rw [hpc]; exact List.Sublist.refl _)
  | claimTake bank hpc hstatus =>
    have hnodup := h.nodup
    have hfree : bank ∉ s.heldOutputs := fun hmem => h.status bank hmem hstatus
    simp only [heldOutputs, hpc, Coordinator.outputBanks, List.append_nil] at hnodup hfree
    apply h.update rfl
    . simp only [heldOutputs, moveTo, setOutput, Coordinator.outputBanks]
      rw [List.nodup_append_comm, List.singleton_append, List.nodup_cons]
      exact ⟨hfree, hnodup⟩
    . simp
    . intro other hne hmem
      simpa [heldOutputs, moveTo, setOutput, hpc, Coordinator.outputBanks, hne] using hmem
  | completeFail bank hpc => exact h.same rfl rfl rfl rfl (List.nil_sublist _)
  | complete bank c content hpc =>
    apply h.update rfl
    . have hnodup := h.nodup
      simp only [heldOutputs, hpc] at hnodup
      exact hnodup
    . simp
    . intro other hne hmem
      simp only [heldOutputs, hpc]
      exact hmem
  | publish bank hpc hready =>
    apply OutputsHeld.subperm h
    . exact fun _ => rfl
    . simp only [heldOutputs, moveTo, hpc, hready, Coordinator.outputBanks, List.append_nil,
        Option.toList_none, Option.toList_some]
      exact List.Subperm.refl _

theorem inputsHeld_init (core : Core γ σ) (c : γ) : (init core c).InputsHeld := by
  refine ⟨List.nodup_nil, ?_, ?_⟩
  . intro bank
    simp [init, heldInputs, Main.inputBanks, Coordinator.inputBanks]
  . simp [init]

theorem outputsHeld_init (core : Core γ σ) (c : γ) : (init core c).OutputsHeld :=
  ⟨List.nodup_nil, by simp [init, heldOutputs, Main.outputBanks, Coordinator.outputBanks]⟩

theorem InputsHeld.exclusive (h : s.InputsHeld) : Exclusive s.inputHoldings := by
  rw [Exclusive, snd_inputHoldings]
  exact h.nodup

theorem OutputsHeld.exclusive (h : s.OutputsHeld) : Exclusive s.outputHoldings := by
  rw [Exclusive, snd_outputHoldings]
  exact h.nodup

end State

open State in
theorem inputsHeld_run (core : Core γ σ) (c : γ) (events : List Event)
    : ((machine core c).run (machine core c).init events).InputsHeld := by
  apply Machine.run_induction
  . intro s event h
    exact h.step (step_cases core s event)
  . exact inputsHeld_init core c

open State in
theorem outputsHeld_run (core : Core γ σ) (c : γ) (events : List Event)
    : ((machine core c).run (machine core c).init events).OutputsHeld := by
  apply Machine.run_induction
  . intro s event h
    exact h.step (step_cases core s event)
  . exact outputsHeld_init core c

end AsyncPipeline
end Peraviz.Presentation

/-! ### The end of a session -/

namespace Peraviz.Presentation
namespace AsyncPipeline

variable {γ σ : Type} {core : Core γ σ}

def Main.Leaving : Main → Prop
  | joining => True
  | restoring _ => True
  | _ => False

namespace State

variable {s s' : State γ σ} {out : Output σ}

structure Joined (s : State γ σ) : Prop where
  exited : ∀ index, s.main = .restoring index → s.coordinator = .exited
  stopping : s.main.Leaving → s.stopping = true
  retired : s.retired = true → s.coordinator = .exited ∧ s.stopping = true ∧ s.main = .idle

theorem Joined.not_retired_of_active (h : s.Joined) (hactive : s.active = true)
    : s.retired = false := by
  rw [Bool.eq_false_iff]
  intro hretired
  have hstopping := (h.retired hretired).2.1
  simp [active, hstopping] at hactive

theorem Joined.not_retired_of_busy (h : s.Joined) {pc : Main} (hmain : s.main = pc)
    (hbusy : pc ≠ .idle)
    : s.retired = false := by
  rw [Bool.eq_false_iff]
  intro hretired
  exact hbusy (hmain.symm.trans (h.retired hretired).2.2)

theorem Joined.not_retired_of_awake (h : s.Joined) (hawake : s.coordinator ≠ .exited)
    : s.retired = false := by
  rw [Bool.eq_false_iff]
  intro hretired
  exact hawake (h.retired hretired).1

theorem Joined.call (hbefore : s.retired = false) (hretired : s'.retired = s.retired)
    (hmain : ¬s'.main.Leaving)
    : s'.Joined where
  exited index hrestoring := by
    rw [hrestoring] at hmain
    exact absurd trivial hmain
  stopping hleaving := absurd hleaving hmain
  retired h := by
    rw [hretired, hbefore] at h
    contradiction

theorem Joined.coordinator (h : s.Joined) (hawake : s.coordinator ≠ .exited)
    (hretired : s'.retired = s.retired) (hmain : s'.main = s.main)
    (hstopping : s'.stopping = s.stopping)
    : s'.Joined where
  exited index hrestoring := by
    rw [hmain] at hrestoring
    exact absurd (h.exited index hrestoring) hawake
  stopping := by
    rw [hmain, hstopping]
    exact h.stopping
  retired hret := by
    rw [hretired] at hret
    exact absurd (h.retired hret).1 hawake

theorem Joined.restore (h : s.Joined) {index : Nat} (hmain : s.main = .restoring index) {c : γ}
    : Joined { s with core := c, main := .restoring (index + 1) } where
  exited _ _ := h.exited index hmain
  stopping _ := h.stopping (by rw [hmain]; trivial)
  retired hretired := by
    rw [h.not_retired_of_busy hmain (by simp)] at hretired
    contradiction

theorem Joined.retire (h : s.Joined) (hexited : s.coordinator = .exited) (hleaving : s.main.Leaving)
    : s.retire.Joined where
  exited index hrestoring := by simp [State.retire] at hrestoring
  stopping hleaving := absurd hleaving id
  retired _ := ⟨hexited, h.stopping hleaving, rfl⟩

theorem Joined.step (h : s.Joined) (hstep : Step core s s' out) : s'.Joined := by
  cases hstep with
  | quiet => exact h
  | accept => exact ⟨h.exited, h.stopping, h.retired⟩
  | beginScan hmain hactive => exact .call (h.not_retired_of_active hactive) rfl id
  | scanNext bank next hmain => exact .call (h.not_retired_of_busy hmain (by simp)) rfl id
  | scanFull bank hmain => exact .call (h.not_retired_of_busy hmain (by simp)) rfl id
  | scanTake bank hmain => exact .call (h.not_retired_of_busy hmain (by simp)) rfl id
  | fill bank hmain => exact .call (h.not_retired_of_busy hmain (by simp)) rfl id
  | exchangeNew bank hmain => exact .call (h.not_retired_of_busy hmain (by simp)) rfl id
  | exchangeOld bank old hmain => exact .call (h.not_retired_of_busy hmain (by simp)) rfl id
  | freeInput bank old hmain => exact .call (h.not_retired_of_busy hmain (by simp)) rfl id
  | beginAcquire hmain hactive => exact .call (h.not_retired_of_active hactive) rfl id
  | acquireNone hmain => exact .call (h.not_retired_of_busy hmain (by simp)) rfl id
  | acquireTake bank hmain => exact .call (h.not_retired_of_busy hmain (by simp)) rfl id
  | lease bank hmain => exact .call (h.not_retired_of_busy hmain (by simp)) rfl id
  | release => exact ⟨h.exited, h.stopping, h.retired⟩
  | stop hmain hretired =>
    refine ⟨by simp, fun _ => rfl, ?_⟩
    intro h
    rw [hretired] at h
    contradiction
  | joinRestore hmain hexited =>
    have hleaving : s.main.Leaving := by rw [hmain]; trivial
    refine ⟨fun _ _ => hexited, fun _ => h.stopping hleaving, ?_⟩
    intro hretired
    rw [h.not_retired_of_busy hmain (by simp)] at hretired
    contradiction
  | joinRetire hmain hexited => exact h.retire hexited (by rw [hmain]; trivial)
  | restoreHand index frame hmain => exact h.restore hmain
  | restoreSkip index frame hmain => exact h.restore hmain
  | restoreDone index hmain => exact h.retire (h.exited index hmain) (by rw [hmain]; trivial)
  | move pc initialBatch hmoves => exact h.coordinator hmoves.awake rfl rfl rfl
  | takeQueued bank hpc => exact h.coordinator (by simp [hpc]) rfl rfl rfl
  | beginReading bank hpc => exact h.coordinator (by simp [hpc]) rfl rfl rfl
  | deliverHand bank index frame hpc => exact h.coordinator (by simp [hpc]) rfl rfl rfl
  | deliverDone bank index hpc => exact h.coordinator (by simp [hpc]) rfl rfl rfl
  | claimTake bank hpc => exact h.coordinator (by simp [hpc]) rfl rfl rfl
  | completeFail bank hpc => exact h.coordinator (by simp [hpc]) rfl rfl rfl
  | complete bank c content hpc => exact h.coordinator (by simp [hpc]) rfl rfl rfl
  | publish bank hpc => exact h.coordinator (by simp [hpc]) rfl rfl rfl

theorem joined_init (core : Core γ σ) (c : γ) : (init core c).Joined :=
  ⟨by simp [init], by simp [init, Main.Leaving], by simp [init]⟩

end State
end AsyncPipeline
end Peraviz.Presentation
