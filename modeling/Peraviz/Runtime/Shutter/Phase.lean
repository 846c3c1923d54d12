import Mathlib.Data.List.Infix
import Mathlib.Tactic.Linarith
import Peraviz.Runtime.Domains.Shutters
import Peraviz.Runtime.Shutter.Envelope

/-!
This module contains the phase of a shutter over a sequence of updates: an update that keeps the
function and the waveform keeps the number of cycles at its time, and every other update has a
stamp of its own.
-/

namespace Peraviz.Runtime

structure ShutterCall where
  next : ShutterParameters
  now : ℚ

namespace ShutterParameters

def update (held : ShutterParameters) (call : ShutterCall) : ShutterParameters :=
  (updateShutter held call.next call.now).getD held

def updates (held : ShutterParameters) (calls : List ShutterCall) : ShutterParameters :=
  calls.foldl update held

def Continues (held : ShutterParameters) (call : ShutterCall) : Prop :=
  held.revision ≠ 0 ∧ held.functionId = call.next.functionId ∧ held.wave = call.next.wave

/-- The frequency over the time from `start` on, each call ends an interval. -/
def integral (held : ShutterParameters) (start : ℚ) : List ShutterCall → ℚ
  | [] => 0
  | call :: calls =>
    held.frequency * (call.now - start) + integral (held.update call) call.now calls

end ShutterParameters

def lastTime (start : ℚ) (calls : List ShutterCall) : ℚ :=
  ((calls.getLast?).map ShutterCall.now).getD start

/-! ### One update -/

open ShutterParameters

section

variable {held : ShutterParameters} {call : ShutterCall}

theorem accepted_revision {next p : ShutterParameters} {now : ℚ}
    (h : updateShutter held next now = some p) : p.revision = held.revision + 1 := by
  rw [updateShutter] at h
  split at h
  next => contradiction
  next =>
    cases h
    rfl

/-- What an update that is accepted takes from its call. -/
structure Accepted (held : ShutterParameters) (call : ShutterCall) (next : ShutterParameters)
    : Prop where
  functionId : next.functionId = call.next.functionId
  wave : next.wave = call.next.wave
  frequency : next.frequency = call.next.frequency
  reference : next.reference = call.now
  revision : next.revision = held.revision + 1

/-- What an update can do: it leaves what is held, continues it or starts anew. -/
inductive ShutterUpdate (held : ShutterParameters) (call : ShutterCall)
    (next : ShutterParameters) : Prop where
  | same (hcontinues : Continues held call) (heq : next = held)
  | continued (haccepted : Accepted held call next) (hcontinues : Continues held call)
      (hphase : next.phase = if shutterRandom call.next.wave then shutterCycles held call.now
        else shutterFraction (shutterCycles held call.now))
      (hactivation : next.activation = held.activation)
  | restarted (haccepted : Accepted held call next) (hcontinues : ¬Continues held call)
      (hphase : next.phase = 0) (hactivation : next.activation = held.revision + 1)

theorem update_cases (held : ShutterParameters) (call : ShutterCall)
    : ShutterUpdate held call (held.update call) := by
  rw [ShutterParameters.update, updateShutter]
  split
  next hsame =>
    apply ShutterUpdate.same
    . exact ⟨hsame.1, hsame.2.1, hsame.2.2.1⟩
    . rfl
  next =>
    by_cases hcontinues : Continues held call
    . refine ShutterUpdate.continued ?_ hcontinues ?_ ?_
      . exact ⟨rfl, rfl, rfl, rfl, rfl⟩
      . simp only [Continues] at hcontinues
        simp [hcontinues, shutterCycles]
      . simp only [Continues] at hcontinues
        simp [hcontinues]
    . refine ShutterUpdate.restarted ?_ hcontinues ?_ ?_
      . exact ⟨rfl, rfl, rfl, rfl, rfl⟩
      . simp only [Continues] at hcontinues
        simp [hcontinues]
      . simp only [Continues] at hcontinues
        simp [hcontinues]

end

/-! ### Runs -/

/-- Parameters after at most `count` updates: their stamps are revisions, and what has been updated
refers to a time in the past. -/
structure Stamped (count : Nat) (now : ℚ) (held : ShutterParameters) : Prop where
  revision_le : held.revision.toInt ≤ count
  activation_nonneg : 0 ≤ held.activation.toInt
  activation_le : held.activation.toInt ≤ held.revision.toInt
  fresh : held.revision = 0 → held = {}
  reference_le : held.revision ≠ 0 → held.reference ≤ now

section

variable {held : ShutterParameters} {call : ShutterCall} {count : Nat} {start now : ℚ}

theorem stamped_fresh : Stamped 0 start {} where
  revision_le := by decide
  activation_nonneg := by decide
  activation_le := by decide
  fresh _ := rfl
  reference_le h := absurd rfl h

theorem Stamped.mono (h : Stamped count start held) (hnow : start ≤ now)
    : Stamped count now held where
  revision_le := h.revision_le
  activation_nonneg := h.activation_nonneg
  activation_le := h.activation_le
  fresh := h.fresh
  reference_le hrevision := (h.reference_le hrevision).trans hnow

theorem Stamped.toInt_next (h : Stamped count start held) (hcount : count + 1 < 2 ^ 31)
    : (held.revision + 1).toInt = held.revision.toInt + 1 := by
  have hnonneg := h.activation_nonneg
  have hle := h.activation_le
  have hrevision := h.revision_le
  have hone : (1 : Int32).toInt = 1 := rfl
  rw [Int32.toInt_add, hone, Int.bmod_eq_of_le (by omega) (by omega)]

theorem Stamped.next_ne_zero (h : Stamped count start held) (hcount : count + 1 < 2 ^ 31)
    : held.revision + 1 ≠ 0 := by
  intro hzero
  have hnext := h.toInt_next hcount
  have hnonneg := h.activation_nonneg
  have hle := h.activation_le
  have hz : (0 : Int32).toInt = 0 := rfl
  rw [hzero, hz] at hnext
  omega

theorem Stamped.update (h : Stamped count start held) (hcount : count + 1 < 2 ^ 31)
    (hnow : start ≤ call.now)
    : Stamped (count + 1) call.now (held.update call) := by
  have hnext := h.toInt_next hcount
  have hne := h.next_ne_zero hcount
  have hrevision := h.revision_le
  have hnonneg := h.activation_nonneg
  have hle := h.activation_le
  cases update_cases held call with
  | same _ heq =>
    rw [heq]
    constructor
    . omega
    . omega
    . omega
    . exact h.fresh
    . exact (h.mono hnow).reference_le
  | continued haccepted _ _ hactivation =>
    constructor
    . rw [haccepted.revision, hnext]
      omega
    . rw [hactivation]
      omega
    . rw [hactivation, haccepted.revision, hnext]
      omega
    . intro hzero
      rw [haccepted.revision] at hzero
      contradiction
    . intro _
      rw [haccepted.reference]
  | restarted haccepted _ _ hactivation =>
    constructor
    . rw [haccepted.revision, hnext]
      omega
    . rw [hactivation, hnext]
      omega
    . rw [hactivation, haccepted.revision]
    . intro hzero
      rw [haccepted.revision] at hzero
      contradiction
    . intro _
      rw [haccepted.reference]

theorem lastTime_cons (call : ShutterCall) (calls : List ShutterCall)
    : lastTime start (call :: calls) = lastTime call.now calls := by
  rw [lastTime, lastTime]
  cases calls with
  | nil => rfl
  | cons next calls => simp [List.getLast?_cons]

theorem Stamped.updates {calls : List ShutterCall} (h : Stamped count start held)
    (hcount : count + calls.length < 2 ^ 31) (hstart : ∀ call ∈ calls, start ≤ call.now)
    (htimes : (calls.map ShutterCall.now).Pairwise (· ≤ ·))
    : Stamped (count + calls.length) (lastTime start calls) (held.updates calls) := by
  induction calls generalizing held count start with
  | nil => exact h
  | cons call calls ih =>
    rw [List.map_cons, List.pairwise_cons] at htimes
    rw [List.length_cons] at hcount
    have hstep := h.update (by omega) (hstart call (by simp))
    have hrest := ih hstep (by omega) (fun next hnext => htimes.1 _ (List.mem_map_of_mem hnext))
      htimes.2
    rw [lastTime_cons, List.length_cons, Nat.add_comm calls.length 1, ← Nat.add_assoc]
    exact hrest

/-! ### The phase -/

/-- A call for the function and the waveform that are held. -/
def KeepsFunction (held : ShutterParameters) (call : ShutterCall) : Prop :=
  call.next.functionId = held.functionId ∧ call.next.wave = held.wave

theorem Stamped.keepsFunction_update (hkeeps : KeepsFunction held call)
    : (held.update call).functionId = held.functionId ∧ (held.update call).wave = held.wave := by
  cases update_cases held call with
  | same _ heq => rw [heq]; exact ⟨rfl, rfl⟩
  | continued haccepted => rw [haccepted.functionId, haccepted.wave]; exact hkeeps
  | restarted haccepted => rw [haccepted.functionId, haccepted.wave]; exact hkeeps

theorem cycles_reference {p : ShutterParameters} (h : p.reference = now)
    : shutterCycles p now = p.phase := by
  rw [shutterCycles, h, sub_self, max_self, zero_mul, add_zero]

theorem cycles_fresh : shutterCycles {} now = 0 := by
  simp [shutterCycles]

theorem Stamped.cycles_later (h : Stamped count start held) (hnow : start ≤ now)
    : shutterCycles held now = shutterCycles held start + held.frequency * (now - start) := by
  by_cases hfresh : held.revision = 0
  . rw [h.fresh hfresh, cycles_fresh, cycles_fresh]
    have hzero : ({} : ShutterParameters).frequency = 0 := rfl
    rw [hzero, zero_mul, add_zero]
  . have hreference := h.reference_le hfresh
    rw [shutterCycles, shutterCycles, max_eq_left (by linarith), max_eq_left (by linarith)]
    ring

/-- Two cycle counts of the waveform, that of a periodic one is wrapped. -/
def CyclesAgree (wave : ShutterWave) (a b : ℚ) : Prop :=
  ∃ turns : ℤ, (shutterRandom wave = true → turns = 0) ∧ a = b + turns

theorem CyclesAgree.refl (wave : ShutterWave) (a : ℚ) : CyclesAgree wave a a :=
  ⟨0, fun _ => rfl, by simp⟩

theorem CyclesAgree.trans {wave : ShutterWave} {a b c d : ℚ} (hab : CyclesAgree wave a (b + d))
    (hbc : CyclesAgree wave b c)
    : CyclesAgree wave a (c + d) := by
  obtain ⟨turns, hturns, hab⟩ := hab
  obtain ⟨turns', hturns', hbc⟩ := hbc
  refine ⟨turns + turns', ?_, ?_⟩
  . intro hrandom
    rw [hturns hrandom, hturns' hrandom, add_zero]
  . rw [hab, hbc]
    push_cast
    ring

theorem Stamped.cycles_update (h : Stamped count start held) (hkeeps : KeepsFunction held call)
    : CyclesAgree held.wave (shutterCycles (held.update call) call.now)
        (shutterCycles held call.now) := by
  cases update_cases held call with
  | same _ heq =>
    rw [heq]
    apply CyclesAgree.refl
  | continued haccepted _ hphase =>
    rw [cycles_reference haccepted.reference, hphase, hkeeps.2]
    split
    next => apply CyclesAgree.refl
    next hperiodic =>
      refine ⟨-(shutterCycles held call.now).floor, ?_, ?_⟩
      . intro hrandom
        contradiction
      . rw [shutterFraction]
        push_cast
        ring
  | restarted haccepted hcontinues hphase =>
    have hfresh : held.revision = 0 := by
      apply Decidable.not_not.mp
      intro hne
      apply hcontinues
      exact ⟨hne, hkeeps.1.symm, hkeeps.2.symm⟩
    rw [cycles_reference haccepted.reference, hphase, h.fresh hfresh, cycles_fresh]
    apply CyclesAgree.refl

theorem Stamped.cycles_updates {calls : List ShutterCall} (h : Stamped count start held)
    (hcount : count + calls.length < 2 ^ 31) (hstart : ∀ call ∈ calls, start ≤ call.now)
    (htimes : (calls.map ShutterCall.now).Pairwise (· ≤ ·))
    (hkeeps : ∀ call ∈ calls, KeepsFunction held call)
    : CyclesAgree held.wave (shutterCycles (held.updates calls) (lastTime start calls))
        (shutterCycles held start + held.integral start calls) := by
  induction calls generalizing held count start with
  | nil =>
    rw [ShutterParameters.integral, add_zero]
    apply CyclesAgree.refl
  | cons call calls ih =>
    rw [List.map_cons, List.pairwise_cons] at htimes
    rw [List.length_cons] at hcount
    have hnow := hstart call (by simp)
    have hcall := hkeeps call (by simp)
    have hsame := Stamped.keepsFunction_update hcall
    have hstep := h.update (by omega) hnow
    have hrest := ih hstep (by omega) (fun next hnext => htimes.1 _ (List.mem_map_of_mem hnext))
      htimes.2 (by
        intro next hnext
        rw [KeepsFunction, hsame.1, hsame.2]
        exact hkeeps next (by simp [hnext]))
    rw [hsame.2] at hrest
    have htrans := hrest.trans (h.cycles_update hcall)
    rw [h.cycles_later hnow, add_assoc] at htrans
    rw [lastTime_cons, ShutterParameters.integral]
    exact htrans

/-! ### The stamps -/

/-- What an update does to the stamps after updates from which `earlier` were held. -/
structure Stamps (held : ShutterParameters) (call : ShutterCall)
    (earlier : List ShutterParameters) : Prop where
  activation : held.revision ≠ 0 → ((held.update call).activation ≠ held.activation
    ↔ (held.update call).functionId ≠ held.functionId ∨ (held.update call).wave ≠ held.wave)
  fresh : (held.update call).activation ≠ held.activation
    → ∀ p ∈ earlier, p.activation.toInt < (held.update call).activation.toInt
  revision : ∀ p, updateShutter held call.next call.now = some p
    → held.revision.toInt < p.revision.toInt

theorem Stamped.revision_le_update (h : Stamped count start held) (hcount : count + 1 < 2 ^ 31)
    : held.revision.toInt ≤ (held.update call).revision.toInt := by
  have hnext := h.toInt_next hcount
  cases update_cases held call with
  | same _ heq => rw [heq]
  | continued haccepted =>
    rw [haccepted.revision]
    omega
  | restarted haccepted =>
    rw [haccepted.revision]
    omega

theorem Stamped.revision_le_updates {calls : List ShutterCall} (h : Stamped count start held)
    (hcount : count + calls.length < 2 ^ 31) (hstart : ∀ call ∈ calls, start ≤ call.now)
    (htimes : (calls.map ShutterCall.now).Pairwise (· ≤ ·))
    : held.revision.toInt ≤ (held.updates calls).revision.toInt := by
  induction calls generalizing held count start with
  | nil => exact Int.le_refl _
  | cons call calls ih =>
    rw [List.map_cons, List.pairwise_cons] at htimes
    rw [List.length_cons] at hcount
    have hstep := h.update (by omega) (hstart call (by simp))
    apply Int.le_trans (h.revision_le_update (by omega))
    exact ih hstep (by omega) (fun next hnext => htimes.1 _ (List.mem_map_of_mem hnext)) htimes.2

theorem Stamped.stamps (h : Stamped count start held) (hcount : count + 1 < 2 ^ 31)
    {earlier : List ShutterParameters}
    (hearlier : ∀ p ∈ earlier, p.activation.toInt ≤ held.revision.toInt)
    : Stamps held call earlier where
  activation hrevision := by
    have hnext := h.toInt_next hcount
    have hle := h.activation_le
    cases update_cases held call with
    | same _ heq => simp [heq]
    | continued haccepted hcontinues _ hactivation =>
      simp [hactivation, haccepted.functionId, haccepted.wave, hcontinues.2.1, hcontinues.2.2]
    | restarted haccepted hcontinues _ hactivation =>
      have hstamp : (held.update call).activation ≠ held.activation := by
        intro heq
        rw [hactivation] at heq
        rw [heq] at hnext
        omega
      have hchanged : (held.update call).functionId ≠ held.functionId
          ∨ (held.update call).wave ≠ held.wave := by
        rw [haccepted.functionId, haccepted.wave]
        apply Decidable.not_and_iff_not_or_not.mp
        intro hsame
        exact hcontinues ⟨hrevision, hsame.1.symm, hsame.2.symm⟩
      exact iff_of_true hstamp hchanged
  fresh hstamp p hp := by
    have hnext := h.toInt_next hcount
    have hle := hearlier p hp
    cases update_cases held call with
    | same _ heq =>
      rw [heq] at hstamp
      contradiction
    | continued _ _ _ hactivation => contradiction
    | restarted _ _ _ hactivation =>
      rw [hactivation]
      omega
  revision p hp := by
    have hnext := h.toInt_next hcount
    rw [accepted_revision hp]
    omega

theorem updates_append (front back : List ShutterCall)
    : held.updates (front ++ back) = (held.updates front).updates back := by
  rw [ShutterParameters.updates, List.foldl_append]
  rfl

theorem lastTime_append (front back : List ShutterCall)
    : lastTime start (front ++ back) = lastTime (lastTime start front) back := by
  cases back with
  | nil => rw [List.append_nil]; rfl
  | cons call back => simp [lastTime, List.getLast?_append, List.getLast?_cons]

theorem lastTime_le {calls : List ShutterCall} (hstart : start ≤ now)
    (hcalls : ∀ call ∈ calls, call.now ≤ now)
    : lastTime start calls ≤ now := by
  rw [lastTime]
  cases hlast : calls.getLast? with
  | none => exact hstart
  | some call => exact hcalls call (List.mem_of_getLast? hlast)

theorem activation_le_of_prefix {calls earlier : List ShutterCall}
    (hcount : calls.length < 2 ^ 31) (hstart : ∀ call ∈ calls, start ≤ call.now)
    (htimes : (calls.map ShutterCall.now).Pairwise (· ≤ ·)) (hearlier : earlier <+: calls)
    : (updates {} earlier).activation.toInt ≤ (updates {} calls).revision.toInt := by
  cases hearlier with
  | intro rest hrest =>
    subst hrest
    rw [List.length_append] at hcount
    rw [List.map_append, List.pairwise_append] at htimes
    have hearlier := (@stamped_fresh start).updates (by omega)
      (fun call hcall => hstart call (by simp [hcall])) htimes.1
    have hlater : ∀ call ∈ rest, lastTime start earlier ≤ call.now := by
      intro call hcall
      apply lastTime_le
      . exact hstart call (by simp [hcall])
      . intro other hother
        exact htimes.2.2 _ (List.mem_map_of_mem hother) _ (List.mem_map_of_mem hcall)
    rw [updates_append]
    apply Int.le_trans hearlier.activation_le
    exact hearlier.revision_le_updates (by omega) hlater htimes.2.1

/-- Over a run from fresh parameters, updates that keep the function and the waveform count the
cycles of every frequency in its interval, and stamps and revisions only grow. -/
theorem updates_integrate (start : ℚ) (past segment : List ShutterCall)
    (htimes : (start :: (past ++ segment).map ShutterCall.now).Pairwise (· ≤ ·))
    (hlength : (past ++ segment).length < 2 ^ 31)
    : ((∀ call ∈ segment, KeepsFunction (updates {} past) call)
          → CyclesAgree (updates {} past).wave
            (shutterCycles (updates {} (past ++ segment)) (lastTime start (past ++ segment)))
            (shutterCycles (updates {} past) (lastTime start past)
              + (updates {} past).integral (lastTime start past) segment))
        ∧ ∀ call rest, segment = call :: rest
          → Stamps (updates {} past) call (past.inits.map (updates {})) := by
  rw [List.pairwise_cons] at htimes
  have hstart : ∀ call ∈ past ++ segment, start ≤ call.now :=
    fun call hcall => htimes.1 _ (List.mem_map_of_mem hcall)
  have hsorted := htimes.2
  rw [List.map_append, List.pairwise_append] at hsorted
  rw [List.length_append] at hlength
  have hpast := (@stamped_fresh start).updates (by omega)
    (fun call hcall => hstart call (by simp [hcall])) hsorted.1
  have hlater : ∀ call ∈ segment, lastTime start past ≤ call.now := by
    intro call hcall
    apply lastTime_le
    . exact hstart call (by simp [hcall])
    . intro other hother
      exact hsorted.2.2 _ (List.mem_map_of_mem hother) _ (List.mem_map_of_mem hcall)
  constructor
  . intro hkeeps
    rw [updates_append, lastTime_append]
    exact hpast.cycles_updates (by omega) hlater hsorted.2.1 hkeeps
  . intro call rest hsegment
    rw [hsegment, List.length_cons] at hlength
    apply hpast.stamps (by omega)
    intro p hp
    rw [List.mem_map] at hp
    cases hp with
    | intro earlier hearlier =>
      rw [← hearlier.2]
      apply activation_le_of_prefix (by omega) (fun call hcall => hstart call (by simp [hcall]))
        hsorted.1
      exact (List.mem_inits _ _).mp hearlier.1

end

def strobe (frequency now : ℚ) : ShutterCall :=
  ⟨{ wave := .listed .randomStrobe, functionId := 1, frequency := frequency }, now⟩

theorem updates_integrate_strobe
    : CyclesAgree (updates {} [strobe 2 0]).wave
        (shutterCycles (updates {} [strobe 2 0, strobe 6 (1 / 4), strobe 1 1]) 1)
        (shutterCycles (updates {} [strobe 2 0]) 0
          + (updates {} [strobe 2 0]).integral 0 [strobe 6 (1 / 4), strobe 1 1]) := by
  apply (updates_integrate 0 [strobe 2 0] [strobe 6 (1 / 4), strobe 1 1] (by decide +kernel)
    (by decide)).1
  intro call hcall
  simp only [List.mem_cons, List.not_mem_nil, or_false] at hcall
  rcases hcall with rfl | rfl
  . exact ⟨rfl, rfl⟩
  . exact ⟨rfl, rfl⟩

/-! ### The first update, and an update too many -/

def alternate (n : Nat) : List ShutterCall :=
  (List.range n).map (fun i => ⟨{ functionId := if i % 2 = 0 then 1 else 2 }, 0⟩)

theorem updateShutter_changing {held next : ShutterParameters} {now : ℚ}
    (h : held.revision = 0 ∨ held.functionId ≠ next.functionId)
    : ∃ p, updateShutter held next now = some p := by
  rw [updateShutter, if_neg]
  . exact ⟨_, rfl⟩
  . intro hsame
    cases h with
    | inl hfresh => exact hsame.1 hfresh
    | inr hchanges => exact hchanges hsame.2.1

theorem functionId_updateShutter {held next p : ShutterParameters} {now : ℚ}
    (h : updateShutter held next now = some p) : p.functionId = next.functionId := by
  rw [updateShutter] at h
  split at h
  next => contradiction
  next =>
    cases h
    rfl

theorem updates_alternate (n : Nat)
    : (updates {} (alternate n)).revision = Int32.ofNat n
        ∧ (n ≠ 0 → (updates {} (alternate n)).functionId = if n % 2 = 1 then 1 else 2) := by
  induction n with
  | zero => exact ⟨rfl, fun h => absurd rfl h⟩
  | succ n ih =>
    let call : ShutterCall := ⟨{ functionId := if n % 2 = 0 then 1 else 2 }, 0⟩
    have hstep : updates {} (alternate (n + 1)) = (updates {} (alternate n)).update call := by
      rw [alternate, List.range_succ, List.map_append, updates_append]
      rfl
    have hchanging : (updates {} (alternate n)).revision = 0
        ∨ (updates {} (alternate n)).functionId ≠ call.next.functionId := by
      cases n with
      | zero => exact Or.inl rfl
      | succ n =>
        right
        rw [ih.2 (by omega)]
        by_cases hodd : (n + 1) % 2 = 1
        . have heven : (n + 1) % 2 ≠ 0 := by omega
          simp [call, hodd]
        . have heven : (n + 1) % 2 = 0 := by omega
          simp [call, heven]
    cases @updateShutter_changing _ _ call.now hchanging with
    | intro p hp =>
      have hresult : updates {} (alternate (n + 1)) = p := by
        rw [hstep, ShutterParameters.update, hp, Option.getD_some]
      rw [hresult, accepted_revision hp, functionId_updateShutter hp, ih.1]
      constructor
      . rw [Int32.ofNat_add]
        rfl
      . intro _
        by_cases heven : n % 2 = 0
        . have hodd : (n + 1) % 2 = 1 := by omega
          simp [call, heven, hodd]
        . have hodd : ¬(n + 1) % 2 = 1 := by omega
          simp [call, heven, hodd]

/-- The first update stamps parameters that keep the function and the waveform, and the counter of
the revisions overflows. -/
theorem exists_stamps_not
    : ((({} : ShutterParameters).update ⟨{}, 0⟩).activation ≠ ({} : ShutterParameters).activation
          ∧ (({} : ShutterParameters).update ⟨{}, 0⟩).functionId
            = ({} : ShutterParameters).functionId
          ∧ (({} : ShutterParameters).update ⟨{}, 0⟩).wave = ({} : ShutterParameters).wave)
        ∧ ∃ calls next p, updateShutter (updates {} calls) next 0 = some p
          ∧ p.revision.toInt < (updates {} calls).revision.toInt := by
  generalize hcount : 2147483647 = count
  have hlast := updates_alternate count
  have hfunction : (updates {} (alternate count)).functionId = 1 := by
    rw [hlast.2 (by omega), if_pos (by omega)]
  refine ⟨by decide +kernel, alternate count, {}, ?_⟩
  cases @updateShutter_changing (updates {} (alternate count)) {} 0
    (by right; rw [hfunction]; decide) with
  | intro p hp =>
    refine ⟨p, hp, ?_⟩
    rw [accepted_revision hp, hlast.1, ← hcount]
    decide

end Peraviz.Runtime
