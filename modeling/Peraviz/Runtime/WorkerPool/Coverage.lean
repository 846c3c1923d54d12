import Mathlib.Data.List.Nodup
import Peraviz.Intervals.Basic
import Peraviz.Runtime.WorkerPool.Impl

/-!
This module contains when the ranges of a run partition its items, what holds between the steps of
the coordinator and of its workers, and that a pass that succeeds processes each item once.
-/

namespace Peraviz.Runtime.NativeWorkerPool

/-! ### Ranges -/

/-- How many of the ranges of a run hold an item. -/
def coverage (count participants k : Nat) : Nat :=
  (List.range participants).countP (fun index =>
    rangeFirst count participants index ≤ k ∧ k < rangeLast count participants index)

/-- Each item is in one range, and nothing else is in any. -/
def Partitions (count participants : Nat) : Prop :=
  ∀ k, coverage count participants k = if k < count then 1 else 0

theorem rangeLast_eq (count participants index : Nat)
    : rangeLast count participants index = rangeFirst count participants (index + 1) := rfl

theorem rangeFirst_of_fits {count participants index : Nat} (h : count * participants < 2 ^ 64)
    (hindex : index ≤ participants)
    : rangeFirst count participants index = count * index / participants := by
  have := Nat.mul_le_mul_left count hindex
  unfold rangeFirst
  rw [Nat.mod_eq_of_lt (by omega)]

theorem partitions_of_fits {count participants : Nat} (hparticipants : 0 < participants)
    (h : count * participants < 2 ^ 64) : Partitions count participants := by
  intro k
  have hexact : coverage count participants k
      = (List.range participants).countP (fun index =>
          count * index / participants ≤ k ∧ k < count * (index + 1) / participants) := by
    apply List.countP_congr
    intro index hindex
    rw [List.mem_range] at hindex
    rw [rangeLast_eq, rangeFirst_of_fits h (by omega), rangeFirst_of_fits h hindex]
  rw [hexact, Intervals.countP_between (f := fun index => count * index / participants)]
  . simp [Nat.mul_div_cancel _ hparticipants]
  . intro index
    apply Nat.div_le_div_right
    exact Nat.mul_le_mul_left count (Nat.le_succ index)

-- The last item is below the end of some range, and no product that wrapped is as large as that.
theorem fits_of_partitions {count participants : Nat} (hparticipants : 0 < participants)
    (h : Partitions count participants) : count * participants < 2 ^ 64 := by
  by_cases hcount : count = 0
  . rw [hcount]
    omega
  . have hlast := h (count - 1)
    rw [if_pos (by omega)] at hlast
    have hpos : 0 < coverage count participants (count - 1) := by omega
    obtain ⟨index, _, hindex⟩ := List.countP_pos_iff.mp hpos
    rw [decide_eq_true_eq] at hindex
    have hend : count ≤ rangeLast count participants index := by omega
    unfold rangeLast at hend
    rw [Nat.le_div_iff_mul_le hparticipants] at hend
    have := Nat.mod_lt (count * (index + 1)) (show 0 < 2 ^ 64 by decide)
    omega

theorem partitions_iff {count participants : Nat} (hparticipants : 0 < participants)
    : Partitions count participants ↔ count * participants < 2 ^ 64 :=
  ⟨fits_of_partitions hparticipants, partitions_of_fits hparticipants⟩

/-- No product wraps on the way to the ends of the ranges. -/
def NoOverflow (count participants : Nat) : Prop :=
  ∀ index < participants, count * (index + 1) < 2 ^ 64

theorem noOverflow_iff {count participants : Nat} (hparticipants : 0 < participants)
    : NoOverflow count participants ↔ count * participants < 2 ^ 64 := by
  constructor
  . intro h
    have := h (participants - 1) (by omega)
    rwa [Nat.sub_add_cancel hparticipants] at this
  . intro h index hindex
    exact Nat.lt_of_le_of_lt (Nat.mul_le_mul_left count hindex) h

/-! ### What holds between the steps -/

namespace Pool

variable {pool : Pool}

/-- The worker has joined in this epoch and waits for the next one. -/
def Done (pool : Pool) (index : Nat) : Prop :=
  (pool.workers index).observed = pool.epoch ∧ (pool.workers index).phase = .waiting

instance (pool : Pool) (index : Nat) : Decidable (pool.Done index) :=
  inferInstanceAs (Decidable (_ ∧ _))

def Joining (pool : Pool) (index : Nat) : Prop :=
  (pool.workers index).observed = pool.epoch ∧ (pool.workers index).phase = .joining

def Working (pool : Pool) (index : Nat) : Prop :=
  (pool.workers index).observed = pool.epoch
    ∧ (pool.workers index).phase = .working pool.count pool.participants

def Asleep (pool : Pool) (index : Nat) : Prop :=
  (pool.workers index).observed ≠ pool.epoch ∧ (pool.workers index).phase = .waiting

/-- The call that a worker makes in this epoch. -/
def callOf (pool : Pool) (index : Nat) : FunctionCall :=
  ⟨some index, rangeFirst pool.count pool.participants index,
    rangeLast pool.count pool.participants index, (pool.workers index).failure⟩

/-- The calls of this epoch, by the workers with a range that are past it, in some order. -/
def CallsOf (pool : Pool) (order : List Nat) : Prop :=
  pool.calls = order.map pool.callOf ∧ order.Nodup
    ∧ ∀ index, index ∈ order
        ↔ index < pool.participants ∧ (pool.Joining index ∨ pool.Done index)

/-- While the coordinator waits, each worker is at one stage of this epoch. -/
structure Waits (pool : Pool) : Prop where
  stage : ∀ index < pool.threads,
    pool.Asleep index ∨ pool.Working index ∨ pool.Joining index ∨ pool.Done index
  outside : ∀ index, pool.threads ≤ index → (pool.workers index).phase = .waiting
  completed : pool.completed = (List.range pool.threads).countP (fun index => pool.Done index)
  calls : ∃ order, pool.CallsOf order
  participants : pool.participants ≤ pool.threads

/-- Between two runs no worker is past its wait. -/
structure Rests (pool : Pool) : Prop where
  done : ∀ index < pool.threads, pool.Done index
  outside : ∀ index, pool.threads ≤ index → (pool.workers index).phase = .waiting

/-- What a section of one worker leaves alone. -/
structure OnlyWorker (pool next : Pool) (index : Nat) : Prop where
  threads : next.threads = pool.threads
  epoch : next.epoch = pool.epoch
  count : next.count = pool.count
  participants : next.participants = pool.participants
  others : ∀ other, other ≠ index → next.workers other = pool.workers other

theorem countP_range_update {p q : Nat → Prop} [DecidablePred p] [DecidablePred q] {index n : Nat}
    (hindex : index < n) (hp : ¬ p index) (h : ∀ other, other ≠ index → (q other ↔ p other))
    : (List.range n).countP (fun other => q other)
        = (List.range n).countP (fun other => p other) + if q index then 1 else 0 := by
  induction n with
  | zero => omega
  | succ n ih =>
    rw [List.range_succ, List.countP_append, List.countP_append, List.countP_singleton,
      List.countP_singleton]
    by_cases heq : index = n
    . subst heq
      have hsame : (List.range index).countP (fun other => q other)
          = (List.range index).countP (fun other => p other) := by
        apply List.countP_congr
        intro other hother
        rw [List.mem_range] at hother
        simp [h other (by omega)]
      rw [hsame]
      simp [hp]
    . rw [ih (by omega)]
      simp only [decide_eq_true_eq, h n (Ne.symm heq)]
      omega

namespace OnlyWorker

variable {next : Pool} {index other : Nat}

theorem stages (h : pool.OnlyWorker next index) (hother : other ≠ index)
    : (next.Asleep other ↔ pool.Asleep other) ∧ (next.Working other ↔ pool.Working other)
        ∧ (next.Joining other ↔ pool.Joining other) ∧ (next.Done other ↔ pool.Done other) := by
  unfold Asleep Working Joining Done
  rw [h.others other hother, h.epoch, h.count, h.participants]
  exact ⟨Iff.rfl, Iff.rfl, Iff.rfl, Iff.rfl⟩

theorem callOf (h : pool.OnlyWorker next index)
    (hfailure : (next.workers other).failure = (pool.workers other).failure)
    : next.callOf other = pool.callOf other := by
  unfold Pool.callOf
  rw [h.count, h.participants, hfailure]

-- A worker that makes no call keeps the calls, whether or not it is in their order.
theorem callsOf (h : pool.OnlyWorker next index) (hcalls : next.calls = pool.calls)
    {order : List Nat} (horder : pool.CallsOf order)
    (hfailure : index ∈ order → (next.workers index).failure = (pool.workers index).failure)
    (hran : index < pool.participants
      → (next.Joining index ∨ next.Done index ↔ pool.Joining index ∨ pool.Done index))
    : next.CallsOf order := by
  refine ⟨?_, horder.2.1, ?_⟩
  . rw [hcalls, horder.1]
    apply List.map_congr_left
    intro other hother
    apply (h.callOf _).symm
    by_cases heq : other = index
    . rw [heq] at hother ⊢
      exact hfailure hother
    . rw [h.others other heq]
  . intro other
    rw [horder.2.2, h.participants]
    by_cases heq : other = index
    . rw [heq]
      constructor
      . rintro ⟨hlt, hstage⟩
        exact ⟨hlt, (hran hlt).mpr hstage⟩
      . rintro ⟨hlt, hstage⟩
        exact ⟨hlt, (hran hlt).mp hstage⟩
    . have hstages := h.stages heq
      rw [hstages.2.2.1, hstages.2.2.2]

theorem callsOf_append (h : pool.OnlyWorker next index)
    (hcalls : next.calls = pool.calls ++ [next.callOf index]) {order : List Nat}
    (horder : pool.CallsOf order) (hrange : index < pool.participants)
    (hbefore : ¬ (pool.Joining index ∨ pool.Done index))
    (hafter : next.Joining index ∨ next.Done index) : next.CallsOf (order ++ [index]) := by
  have hfresh : index ∉ order := fun hmem => hbefore ((horder.2.2 index).mp hmem).2
  have hne : ∀ other ∈ order, other ≠ index := fun other hother heq => hfresh (heq ▸ hother)
  refine ⟨?_, ?_, ?_⟩
  . rw [hcalls, horder.1, List.map_append]
    congr 1
    apply List.map_congr_left
    intro other hother
    apply (h.callOf _).symm
    rw [h.others other (hne other hother)]
  . rw [List.nodup_append]
    refine ⟨horder.2.1, List.nodup_singleton index, ?_⟩
    intro other hother last hlast
    rw [List.mem_singleton.mp hlast]
    exact hne other hother
  . intro other
    rw [List.mem_append, List.mem_singleton, horder.2.2, h.participants]
    by_cases heq : other = index
    . subst heq
      simp [hrange, hafter]
    . have hstages := h.stages heq
      rw [hstages.2.2.1, hstages.2.2.2]
      simp [heq]

theorem waits (h : pool.OnlyWorker next index) (hwaits : pool.Waits) (hindex : index < pool.threads)
    (hdone : ¬ pool.Done index)
    (hstage : next.Asleep index ∨ next.Working index ∨ next.Joining index ∨ next.Done index)
    (hcompleted : next.completed = pool.completed + if next.Done index then 1 else 0)
    (hcalls : ∃ order, next.CallsOf order) : next.Waits where
  stage := by
    intro other hother
    rw [h.threads] at hother
    by_cases heq : other = index
    . rw [heq]
      exact hstage
    . have hstages := h.stages heq
      rw [hstages.1, hstages.2.1, hstages.2.2.1, hstages.2.2.2]
      exact hwaits.stage other hother
  outside := by
    intro other hother
    rw [h.threads] at hother
    rw [h.others other (by omega)]
    exact hwaits.outside other hother
  completed := by
    rw [hcompleted, hwaits.completed, h.threads]
    exact (countP_range_update hindex hdone (fun other hother => (h.stages hother).2.2.2)).symm
  calls := hcalls
  participants := by
    rw [h.participants, h.threads]
    exact hwaits.participants

end OnlyWorker

@[simp]
theorem setWorker_self (pool : Pool) (index : Nat) (worker : Worker)
    : (pool.setWorker index worker).workers index = worker := by
  simp [setWorker]

theorem setWorker_ne (pool : Pool) {index other : Nat} (h : other ≠ index) (worker : Worker)
    : (pool.setWorker index worker).workers other = pool.workers other := by
  simp [setWorker, h]

-- The stage of a worker that has seen this epoch is told by its phase.
theorem ran_iff {index : Nat} (h : (pool.workers index).observed = pool.epoch)
    : (pool.Joining index ∨ pool.Done index)
        ↔ (pool.workers index).phase = .joining ∨ (pool.workers index).phase = .waiting := by
  unfold Joining Done
  simp [h]

theorem done_iff {index : Nat} (h : (pool.workers index).observed = pool.epoch)
    : pool.Done index ↔ (pool.workers index).phase = .waiting := by
  unfold Done
  simp [h]

namespace Waits

theorem wake (h : pool.Waits) (index : Nat) : (pool.wake index).Waits := by
  unfold Pool.wake
  dsimp only
  split
  . next hasleep =>
    generalize hnext : pool.setWorker index
      { observed := pool.epoch, phase := .working pool.count pool.participants, failure := false }
      = next
    have hself : next.workers index
        = { observed := pool.epoch, phase := .working pool.count pool.participants } := by
      rw [← hnext, setWorker_self]
    have honly : pool.OnlyWorker next index := by
      rw [← hnext]
      exact ⟨rfl, rfl, rfl, rfl, fun other hother => pool.setWorker_ne hother _⟩
    have hobserved : (next.workers index).observed = next.epoch := by
      rw [hself, honly.epoch]
    have hbefore : ¬ (pool.Joining index ∨ pool.Done index) := by
      rintro (hstage | hstage)
      . exact hasleep.2.2 hstage.1
      . exact hasleep.2.2 hstage.1
    have hafter : ¬ (next.Joining index ∨ next.Done index) := by
      rw [ran_iff hobserved, hself]
      simp
    obtain ⟨order, horder⟩ := h.calls
    apply honly.waits h hasleep.1
    . exact fun hdone => hbefore (Or.inr hdone)
    . right
      left
      rw [Working, hself, honly.epoch, honly.count, honly.participants]
      exact ⟨rfl, rfl⟩
    . rw [if_neg (fun hdone => hafter (Or.inr hdone)), ← hnext]
      rfl
    . refine ⟨order, honly.callsOf ?_ horder ?_ ?_⟩
      . rw [← hnext]
        rfl
      . exact fun hmem => absurd ((horder.2.2 index).mp hmem).2 hbefore
      . exact fun _ => iff_of_false hafter hbefore
  . exact h

-- Only a worker of this epoch is not at its wait.
theorem working_or_joining (h : pool.Waits) {index : Nat}
    (hphase : (pool.workers index).phase ≠ .waiting)
    : index < pool.threads ∧ (pool.Working index ∨ pool.Joining index) := by
  have hindex : index < pool.threads := by
    by_contra hout
    exact hphase (h.outside index (by omega))
  refine ⟨hindex, ?_⟩
  rcases h.stage index hindex with hstage | hstage | hstage | hstage
  . exact absurd hstage.2 hphase
  . exact Or.inl hstage
  . exact Or.inr hstage
  . exact absurd hstage.2 hphase

theorem working (h : pool.Waits) {index count participants : Nat}
    (hphase : (pool.workers index).phase = .working count participants)
    : index < pool.threads ∧ pool.Working index := by
  have hstage := h.working_or_joining (show (pool.workers index).phase ≠ .waiting by simp [hphase])
  refine ⟨hstage.1, hstage.2.resolve_right ?_⟩
  intro hjoining
  rw [hjoining.2] at hphase
  contradiction

theorem joining (h : pool.Waits) {index : Nat} (hphase : (pool.workers index).phase = .joining)
    : index < pool.threads ∧ pool.Joining index := by
  have hstage := h.working_or_joining (show (pool.workers index).phase ≠ .waiting by simp [hphase])
  refine ⟨hstage.1, hstage.2.resolve_left ?_⟩
  intro hworking
  rw [hworking.2] at hphase
  contradiction

theorem not_ran_of_working {index : Nat} (h : pool.Working index)
    : ¬ (pool.Joining index ∨ pool.Done index) := by
  rw [ran_iff h.1, h.2]
  simp

-- A worker without a range makes no call: it joins as the other ones do.
theorem callback (h : pool.Waits) (index : Nat) (throws : Bool)
    : (pool.callback index throws).Waits := by
  unfold Pool.callback
  dsimp only
  split
  . next count participants hphase =>
    obtain ⟨order, horder⟩ := h.calls
    have hworking := h.working hphase
    have hbefore := not_ran_of_working hworking.2
    have hcopy : count = pool.count ∧ participants = pool.participants := by
      rw [hworking.2.2] at hphase
      cases hphase
      exact ⟨rfl, rfl⟩
    rw [hcopy.1, hcopy.2]
    split
    . next hrange =>
      generalize hnext : ({ pool.setWorker index
        { pool.workers index with phase := .joining, failure := throws } with
        calls := pool.calls ++ [⟨some index, rangeFirst pool.count pool.participants index,
          rangeLast pool.count pool.participants index, throws⟩] } : Pool) = next
      have hself : next.workers index
          = { pool.workers index with phase := .joining, failure := throws } := by
        rw [← hnext]
        exact pool.setWorker_self index _
      have honly : pool.OnlyWorker next index := by
        rw [← hnext]
        exact ⟨rfl, rfl, rfl, rfl, fun other hother => pool.setWorker_ne hother _⟩
      have hjoining : next.Joining index := by
        rw [Joining, hself, honly.epoch]
        exact ⟨hworking.2.1, rfl⟩
      have hcall : next.calls = pool.calls ++ [next.callOf index] := by
        rw [callOf, hself, honly.count, honly.participants, ← hnext]
      apply honly.waits h hworking.1
      . exact fun hdone => hbefore (Or.inr hdone)
      . exact Or.inr (Or.inr (Or.inl hjoining))
      . rw [if_neg, ← hnext]
        . rfl
        . rw [done_iff hjoining.1, hself]
          simp
      . exact ⟨order ++ [index], honly.callsOf_append hcall horder hrange hbefore
          (Or.inl hjoining)⟩
    . next hrange =>
      generalize hnext : pool.setWorker index { pool.workers index with phase := .joining } = next
      have hself : next.workers index = { pool.workers index with phase := .joining } := by
        rw [← hnext, setWorker_self]
      have honly : pool.OnlyWorker next index := by
        rw [← hnext]
        exact ⟨rfl, rfl, rfl, rfl, fun other hother => pool.setWorker_ne hother _⟩
      have hjoining : next.Joining index := by
        rw [Joining, hself, honly.epoch]
        exact ⟨hworking.2.1, rfl⟩
      apply honly.waits h hworking.1
      . exact fun hdone => hbefore (Or.inr hdone)
      . exact Or.inr (Or.inr (Or.inl hjoining))
      . rw [if_neg, ← hnext]
        . rfl
        . rw [done_iff hjoining.1, hself]
          simp
      . refine ⟨order, honly.callsOf ?_ horder ?_ ?_⟩
        . rw [← hnext]
          rfl
        . exact fun hmem => absurd ((horder.2.2 index).mp hmem).2 hbefore
        . exact fun hlt => absurd hlt hrange
  . exact h

theorem join (h : pool.Waits) (index : Nat) : (pool.join index).Waits := by
  unfold Pool.join
  dsimp only
  split
  . next hphase =>
    obtain ⟨order, horder⟩ := h.calls
    have hjoining := h.joining hphase
    generalize hnext : ({ pool.setWorker index { pool.workers index with phase := .waiting } with
      completed := pool.completed + 1 } : Pool) = next
    have hself : next.workers index = { pool.workers index with phase := .waiting } := by
      rw [← hnext]
      exact pool.setWorker_self index _
    have honly : pool.OnlyWorker next index := by
      rw [← hnext]
      exact ⟨rfl, rfl, rfl, rfl, fun other hother => pool.setWorker_ne hother _⟩
    have hdone : next.Done index := by
      rw [Done, hself, honly.epoch]
      exact ⟨hjoining.2.1, rfl⟩
    apply honly.waits h hjoining.1
    . rw [done_iff hjoining.2.1, hphase]
      simp
    . exact Or.inr (Or.inr (Or.inr hdone))
    . rw [if_pos hdone, ← hnext]
    . refine ⟨order, honly.callsOf ?_ horder ?_ ?_⟩
      . rw [← hnext]
        rfl
      . intro _
        rw [hself]
      . exact fun _ => iff_of_true (Or.inr hdone) (Or.inl hjoining.2)
  . exact h

end Waits

namespace Rests

theorem wake (h : pool.Rests) (index : Nat) : pool.wake index = pool := by
  unfold Pool.wake
  dsimp only
  rw [if_neg]
  rintro ⟨hindex, _, hobserved⟩
  exact hobserved (h.done index hindex).1

theorem phase (h : pool.Rests) (index : Nat) : (pool.workers index).phase = .waiting := by
  by_cases hindex : index < pool.threads
  . exact (h.done index hindex).2
  . exact h.outside index (by omega)

theorem callback (h : pool.Rests) (index : Nat) (throws : Bool)
    : pool.callback index throws = pool := by
  unfold Pool.callback
  dsimp only
  rw [h.phase index]

theorem join (h : pool.Rests) (index : Nat) : pool.join index = pool := by
  unfold Pool.join
  dsimp only
  rw [if_neg (by simp [h.phase index])]

-- A new epoch has been seen by no worker.
theorem start (h : pool.Rests) {next : Pool} (hthreads : next.threads = pool.threads)
    (hworkers : next.workers = pool.workers) (hepoch : next.epoch = pool.epoch + 1)
    (hcompleted : next.completed = 0) (hcalls : next.calls = [])
    (hparticipants : next.participants ≤ next.threads) : next.Waits := by
  have hasleep : ∀ index < next.threads, next.Asleep index := by
    intro index hindex
    rw [hthreads] at hindex
    unfold Asleep
    rw [hworkers, hepoch, (h.done index hindex).1]
    exact ⟨by omega, (h.done index hindex).2⟩
  have hnone : ∀ index < next.threads, ¬ (next.Joining index ∨ next.Done index) := by
    rintro index hindex (hstage | hstage)
    . exact (hasleep index hindex).1 hstage.1
    . exact (hasleep index hindex).1 hstage.1
  constructor
  . exact fun index hindex => Or.inl (hasleep index hindex)
  . intro index hindex
    rw [hworkers]
    exact h.phase index
  . rw [hcompleted, eq_comm, List.countP_eq_zero]
    intro index hindex
    rw [List.mem_range] at hindex
    simpa using fun hdone => hnone index hindex (Or.inr hdone)
  . refine ⟨[], by rw [hcalls]; rfl, List.nodup_nil, ?_⟩
    intro index
    apply iff_of_false List.not_mem_nil
    rintro ⟨hlt, hstage⟩
    exact hnone index (by omega) hstage
  . exact hparticipants

end Rests

theorem Waits.rests (h : pool.Waits) (hcompleted : pool.completed = pool.threads) : pool.Rests := by
  have hall : (List.range pool.threads).countP (fun index => pool.Done index)
      = (List.range pool.threads).length := by
    rw [← h.completed, hcompleted, List.length_range]
  rw [List.countP_eq_length] at hall
  constructor
  . intro index hindex
    simpa using hall index (List.mem_range.mpr hindex)
  . exact h.outside

-- Past the barrier each worker with a range has made its call, whatever the order of the calls is.
theorem Waits.exists_calls_perm (h : pool.Waits) (hcompleted : pool.completed = pool.threads)
    : ∃ order : List Nat, pool.calls = order.map pool.callOf
        ∧ order.Perm (List.range pool.participants) := by
  obtain ⟨order, hcalls, hnodup, hmem⟩ := h.calls
  refine ⟨order, hcalls, ?_⟩
  rw [List.perm_ext_iff_of_nodup hnodup List.nodup_range]
  intro index
  rw [hmem, List.mem_range]
  constructor
  . exact fun hran => hran.1
  . intro hlt
    have hdone := (h.rests hcompleted).done index (Nat.lt_of_lt_of_le hlt h.participants)
    exact ⟨hlt, Or.inr hdone⟩

end Pool

/-- A pass without a failure that processes each item once and nothing else. -/
def Covers (count : Nat) (pass : List FunctionCall) : Prop :=
  (∀ call ∈ pass, call.threw = false)
    ∧ ∀ k, pass.countP (fun call => call.first ≤ k ∧ k < call.last) = if k < count then 1 else 0

theorem covers_serial (count : Nat) : Covers count [⟨none, 0, count, false⟩] := by
  unfold Covers
  simp

theorem Pool.Waits.covers {pool : Pool} (h : pool.Waits)
    (hcompleted : pool.completed = pool.threads)
    (hpartitions : Partitions pool.count pool.participants)
    (hfailures : (List.range pool.participants).any (fun index => (pool.workers index).failure)
      = false)
    : Covers pool.count pool.calls := by
  obtain ⟨order, hcalls, hperm⟩ := h.exists_calls_perm hcompleted
  rw [hcalls]
  constructor
  . intro call hcall
    obtain ⟨index, hindex, rfl⟩ := List.mem_map.mp hcall
    rw [List.any_eq_false] at hfailures
    simpa [Pool.callOf] using hfailures index (hperm.mem_iff.mp hindex)
  . intro k
    rw [List.countP_map, hperm.countP_eq]
    exact hpartitions k

/-! ### Runs -/

/-- The products of the batch that a step hands out to the workers do not wrap. -/
def HandsOutFitting (pool : Pool) : Event → Prop
  | .run count minimum gain _ =>
    pool.running = false → (pool.worthwhile count minimum gain).2 = true
      → count * pool.participantsOf count minimum < 2 ^ 64
  | _ => True

instance instDecidableHandsOutFitting (pool : Pool)
    : ∀ event, Decidable (HandsOutFitting pool event)
  | .run count minimum gain _ =>
    inferInstanceAs (Decidable (pool.running = false → (pool.worthwhile count minimum gain).2 = true
      → count * pool.participantsOf count minimum < 2 ^ 64))
  | .wake _ => isTrue trivial
  | .callback _ _ => isTrue trivial
  | .join _ => isTrue trivial
  | .finish _ => isTrue trivial

/-- The coordinator waits for a batch whose ranges are exact, or it does not wait. -/
def Pool.Sound (pool : Pool) : Prop :=
  (pool.running = true ∧ pool.Waits ∧ Partitions pool.count pool.participants)
    ∨ (pool.running = false ∧ pool.Rests)

def Answer.Sound : Answer → Prop
  | .returned count pass => Covers count pass
  | _ => True

theorem serialPass_sound (count : Nat) (throws : Bool) : (serialPass count throws).Sound := by
  cases throws with
  | false => exact covers_serial count
  | true => trivial

theorem participantsOf_pos {pool : Pool} {count minimum : Nat} (hthreads : 2 ≤ pool.threads)
    (hcount : 2 ≤ count) : 0 < pool.participantsOf count minimum := by
  unfold Pool.participantsOf
  split <;> omega

theorem worthwhile_cases (pool : Pool) (count minimum : Nat) (gain : Bool)
    : ∃ decisions, (pool.worthwhile count minimum gain).1 = { pool with decisions }
        ∧ ((pool.worthwhile count minimum gain).2 = true → 2 ≤ pool.threads ∧ 2 ≤ count) := by
  unfold Pool.worthwhile
  split
  . exact ⟨pool.decisions, rfl, by simp⟩
  . next hlarge =>
    split
    . exact ⟨pool.decisions, rfl, fun _ => by omega⟩
    . split
      . exact ⟨pool.decisions + 1, rfl, fun _ => by omega⟩
      . exact ⟨pool.decisions, rfl, by simp⟩

theorem run_sound {pool : Pool} (h : pool.Sound) (count minimum : Nat) (gain serialThrows : Bool)
    (hfits : pool.running = false → (pool.worthwhile count minimum gain).2 = true
      → count * pool.participantsOf count minimum < 2 ^ 64)
    : (pool.run count minimum gain serialThrows).1.Sound
        ∧ (pool.run count minimum gain serialThrows).2.Sound := by
  unfold Pool.run
  split
  . exact ⟨h, trivial⟩
  . next hrunning =>
    rw [Bool.not_eq_true] at hrunning
    have hrests : pool.Rests := by
      rcases h with hwaits | hrests
      . rw [hrunning] at hwaits
        exact absurd hwaits.1 (by decide)
      . exact hrests.2
    obtain ⟨decisions, hpool, hlarge⟩ := worthwhile_cases pool count minimum gain
    generalize pool.worthwhile count minimum gain = chosen at *
    obtain ⟨next, parallel⟩ := chosen
    dsimp only at *
    subst hpool
    cases parallel with
    | false =>
      refine ⟨Or.inr ⟨hrunning, ?_⟩, serialPass_sound count serialThrows⟩
      exact ⟨hrests.done, hrests.outside⟩
    | true =>
      have hsize := hlarge rfl
      rw [if_pos rfl]
      refine ⟨Or.inl ⟨rfl, ?_, ?_⟩, trivial⟩
      . exact hrests.start rfl rfl rfl rfl rfl (Nat.min_le_left _ _)
      . exact partitions_of_fits (participantsOf_pos hsize.1 hsize.2) (hfits hrunning rfl)

theorem finish_sound {pool : Pool} (h : pool.Sound) (serialThrows : Bool)
    : (pool.finish serialThrows).1.Sound ∧ (pool.finish serialThrows).2.Sound := by
  unfold Pool.finish
  split
  . next hready =>
    rcases h with ⟨_, hwaits, hpartitions⟩ | hrests
    . have hrests := hwaits.rests hready.2
      refine ⟨Or.inr ⟨rfl, hrests.done, hrests.outside⟩, ?_⟩
      dsimp only
      split
      . exact serialPass_sound pool.count serialThrows
      . next hfailures =>
        rw [Bool.not_eq_true] at hfailures
        exact hwaits.covers hready.2 hpartitions hfailures
    . rw [hrests.1] at hready
      exact absurd hready.1 (by decide)
  . exact ⟨h, trivial⟩

/-- A worker's section does not touch what belongs to the coordinator. -/
theorem wake_frame (pool : Pool) (index : Nat)
    : (pool.wake index).running = pool.running ∧ (pool.wake index).count = pool.count
        ∧ (pool.wake index).participants = pool.participants := by
  unfold Pool.wake
  dsimp only
  split <;> exact ⟨rfl, rfl, rfl⟩

theorem callback_frame (pool : Pool) (index : Nat) (throws : Bool)
    : (pool.callback index throws).running = pool.running
        ∧ (pool.callback index throws).count = pool.count
        ∧ (pool.callback index throws).participants = pool.participants := by
  unfold Pool.callback
  dsimp only
  split
  . split <;> exact ⟨rfl, rfl, rfl⟩
  . exact ⟨rfl, rfl, rfl⟩

theorem join_frame (pool : Pool) (index : Nat)
    : (pool.join index).running = pool.running ∧ (pool.join index).count = pool.count
        ∧ (pool.join index).participants = pool.participants := by
  unfold Pool.join
  dsimp only
  split <;> exact ⟨rfl, rfl, rfl⟩

theorem Pool.Sound.ofSection {pool next : Pool} (h : pool.Sound)
    (hframe : next.running = pool.running ∧ next.count = pool.count
      ∧ next.participants = pool.participants)
    (hwaits : pool.Waits → next.Waits) (hrests : pool.Rests → next.Rests) : next.Sound := by
  unfold Pool.Sound
  rw [hframe.1, hframe.2.1, hframe.2.2]
  rcases h with ⟨hrunning, hwait, hpartitions⟩ | ⟨hrunning, hrest⟩
  . exact Or.inl ⟨hrunning, hwaits hwait, hpartitions⟩
  . exact Or.inr ⟨hrunning, hrests hrest⟩

theorem step_sound {pool : Pool} (h : pool.Sound) {event : Event}
    (hfits : HandsOutFitting pool event)
    : (pool.step event).1.Sound ∧ (pool.step event).2.Sound := by
  cases event with
  | run count minimum gain serialThrows =>
    exact run_sound h count minimum gain serialThrows hfits
  | wake index =>
    refine ⟨h.ofSection (wake_frame pool index) (fun hwaits => hwaits.wake index) ?_, trivial⟩
    intro hrests
    change (pool.wake index).Rests
    rwa [hrests.wake]
  | callback index throws =>
    refine ⟨h.ofSection (callback_frame pool index throws)
      (fun hwaits => hwaits.callback index throws) ?_, trivial⟩
    intro hrests
    change (pool.callback index throws).Rests
    rwa [hrests.callback]
  | join index =>
    refine ⟨h.ofSection (join_frame pool index) (fun hwaits => hwaits.join index) ?_, trivial⟩
    intro hrests
    change (pool.join index).Rests
    rwa [hrests.join]
  | finish serialThrows => exact finish_sound h serialThrows

theorem trace_sound (threads : Nat) (force : Bool) {events : List Event}
    (h : (machine threads force).StepsMeet HandsOutFitting (machine threads force).init events)
    : ∀ answered ∈ (machine threads force).trace (machine threads force).init events,
        answered.2.Sound := by
  refine ((machine threads force).guarded_trace_induction HandsOutFitting
    (fun past pool => pool.Sound ∧ ∀ answered ∈ past, answered.2.Sound) ?_ ?_ h).2
  . refine ⟨Or.inr ⟨rfl, ?_, ?_⟩, by simp⟩
    . exact fun index _ => ⟨rfl, rfl⟩
    . exact fun index _ => rfl
  . rintro past pool event ⟨hpool, hpast⟩ hfits
    have hstep := step_sound hpool hfits
    refine ⟨hstep.1, ?_⟩
    intro answered hanswered
    rw [List.mem_append, List.mem_singleton] at hanswered
    cases hanswered with
    | inl hold => exact hpast answered hold
    | inr hnew =>
      rw [hnew]
      exact hstep.2

theorem ranges_and_passes_cover (threads : Nat) (force : Bool)
    : (∀ count participants, 0 < participants
        → (NoOverflow count participants ↔ count * participants < 2 ^ 64)
          ∧ (Partitions count participants ↔ count * participants < 2 ^ 64))
      ∧ ∀ events : List Event,
          (machine threads force).StepsMeet HandsOutFitting (machine threads force).init events
          → ∀ event count pass,
              (event, Answer.returned count pass)
                ∈ (machine threads force).trace (machine threads force).init events
              → Covers count pass := by
  refine ⟨fun count participants h => ⟨noOverflow_iff h, partitions_iff h⟩, ?_⟩
  intro events h event count pass hanswer
  exact trace_sound threads force h _ hanswer

/-- A batch for all workers of a forced pool, each of them takes its range as soon as it can. -/
def batchOf (threads count : Nat) : List Event :=
  .run count 1 false false
    :: (List.range threads).flatMap (fun index => [.wake index, .callback index false, .join index])
    ++ [.finish false]

def passOf (threads count : Nat) : List FunctionCall :=
  (List.range threads).map (fun index =>
    ⟨some index, rangeFirst count threads index, rangeLast count threads index, false⟩)

theorem ranges_and_passes_cover_tens
    : Partitions 10 4 ∧ Covers 10 (passOf 4 10) := by
  have hrun : (machine 4 true).StepsMeet HandsOutFitting (machine 4 true).init (batchOf 4 10)
      ∧ (Event.finish false, Answer.returned 10 (passOf 4 10))
          ∈ (machine 4 true).trace (machine 4 true).init (batchOf 4 10) := by
    decide +kernel
  exact ⟨((ranges_and_passes_cover 4 true).1 10 4 (by decide)).2.mpr (by decide),
    (ranges_and_passes_cover 4 true).2 (batchOf 4 10) hrun.1 _ 10 (passOf 4 10) hrun.2⟩

-- The product for the end of the last range is 2 ^ 64, which is computed as zero.
theorem quarters_not_covered
    : ¬ NoOverflow (2 ^ 62) 4 ∧ ¬ Partitions (2 ^ 62) 4
        ∧ (Event.finish false, Answer.returned (2 ^ 62) (passOf 4 (2 ^ 62)))
            ∈ (machine 4 true).trace (machine 4 true).init (batchOf 4 (2 ^ 62))
        ∧ ¬ Covers (2 ^ 62) (passOf 4 (2 ^ 62)) := by
  have hfacts : ¬ 2 ^ 62 * (3 + 1) < 2 ^ 64 ∧ coverage (2 ^ 62) 4 (2 ^ 62 - 1) = 0
      ∧ (Event.finish false, Answer.returned (2 ^ 62) (passOf 4 (2 ^ 62)))
          ∈ (machine 4 true).trace (machine 4 true).init (batchOf 4 (2 ^ 62))
      ∧ (passOf 4 (2 ^ 62)).countP
          (fun call => call.first ≤ 2 ^ 62 - 1 ∧ 2 ^ 62 - 1 < call.last) = 0 := by
    decide +kernel
  refine ⟨fun h => hfacts.1 (h 3 (by decide)), ?_, hfacts.2.2.1, ?_⟩
  . intro h
    have hlast := h (2 ^ 62 - 1)
    rw [hfacts.2.1, if_pos (by decide)] at hlast
    contradiction
  . intro h
    have hlast := h.2 (2 ^ 62 - 1)
    rw [hfacts.2.2.2, if_pos (by decide)] at hlast
    contradiction

end Peraviz.Runtime.NativeWorkerPool
