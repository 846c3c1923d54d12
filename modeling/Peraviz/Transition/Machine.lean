import Mathlib.Data.List.Induction
import Mathlib.Logic.Function.Basic

/-!
This module contains deterministic machines that take labelled steps, their runs and their traces,
together with the induction rules that lift a fact about one step to a fact about every run, and the
components of a machine that are machines of their own. Threads that work on a shared state with
lists of atomic sections are here as well.
-/

universe u v w

/--
A machine whose every step is picked by an event and answers with an output. The events of several
parties are just several kinds of events, so an interleaving of the parties is a list of events.
-/
structure Machine (σ : Type u) (ε : Type v) (ο : Type w) where
  init : σ
  step : σ → ε → σ × ο

namespace Machine

variable {σ : Type u} {ε : Type v} {ο : Type w}

/-- The state after the events of a list, oldest first. -/
def run (M : Machine σ ε ο) (s : σ) (events : List ε) : σ :=
  events.foldl (fun s e => (M.step s e).1) s

/-- The events of a list, each with the output it was answered with. -/
def trace (M : Machine σ ε ο) (s : σ) : List ε → List (ε × ο)
  | [] => []
  | e :: events => (e, (M.step s e).2) :: M.trace (M.step s e).1 events

@[simp]
theorem run_nil (M : Machine σ ε ο) (s : σ) : M.run s [] = s := rfl

@[simp]
theorem run_cons (M : Machine σ ε ο) (s : σ) (e : ε) (events : List ε)
    : M.run s (e :: events) = M.run (M.step s e).1 events := rfl

theorem run_append (M : Machine σ ε ο) (s : σ) (front back : List ε)
    : M.run s (front ++ back) = M.run (M.run s front) back := by
  simp [run]

@[simp]
theorem run_concat (M : Machine σ ε ο) (s : σ) (events : List ε) (e : ε)
    : M.run s (events ++ [e]) = (M.step (M.run s events) e).1 := by
  simp [run]

theorem trace_append (M : Machine σ ε ο) (s : σ) (front back : List ε)
    : M.trace s (front ++ back) = M.trace s front ++ M.trace (M.run s front) back := by
  induction front generalizing s with
  | nil => rfl
  | cons e front ih => simp [trace, ih]

@[simp]
theorem map_fst_trace (M : Machine σ ε ο) (s : σ) (events : List ε)
    : (M.trace s events).map Prod.fst = events := by
  induction events generalizing s with
  | nil => rfl
  | cons e events ih => simp [trace, ih]

theorem run_induction (M : Machine σ ε ο) (I : σ → Prop)
    (hstep : ∀ s e, I s → I (M.step s e).1) {s : σ} (hs : I s) (events : List ε)
    : I (M.run s events) := by
  induction events generalizing s with
  | nil => exact hs
  | cons e events ih =>
    apply ih
    apply hstep
    exact hs

-- What one step preserves relative to the events seen so far, a run from the initial state
-- establishes. The history is the ghost state of most protocol invariants.
theorem history_induction (M : Machine σ ε ο) (I : List ε → σ → Prop)
    (hinit : I [] M.init) (hstep : ∀ past s e, I past s → I (past ++ [e]) (M.step s e).1)
    (events : List ε)
    : I events (M.run M.init events) := by
  induction events using List.reverseRecOn with
  | nil => exact hinit
  | append_singleton past e ih =>
    rw [run_concat]
    apply hstep
    exact ih

theorem trace_induction (M : Machine σ ε ο) (I : List (ε × ο) → σ → Prop)
    (hinit : I [] M.init)
    (hstep : ∀ past s e, I past s → I (past ++ [(e, (M.step s e).2)]) (M.step s e).1)
    (events : List ε)
    : I (M.trace M.init events) (M.run M.init events) := by
  induction events using List.reverseRecOn with
  | nil => exact hinit
  | append_singleton past e ih =>
    rw [run_concat, trace_append]
    apply hstep
    exact ih

/-- Every step of the events of a list meets a condition on the state in front of it. -/
def StepsMeet (M : Machine σ ε ο) (P : σ → ε → Prop) : σ → List ε → Prop
  | _, [] => True
  | s, e :: events => P s e ∧ M.StepsMeet P (M.step s e).1 events

instance instDecidableStepsMeet (M : Machine σ ε ο) (P : σ → ε → Prop) [∀ s e, Decidable (P s e)]
    : ∀ (s : σ) (events : List ε), Decidable (M.StepsMeet P s events)
  | _, [] => isTrue trivial
  | s, e :: events =>
    have := instDecidableStepsMeet M P (M.step s e).1 events
    inferInstanceAs (Decidable (P s e ∧ M.StepsMeet P (M.step s e).1 events))

theorem stepsMeet_append {M : Machine σ ε ο} {P : σ → ε → Prop} {s : σ} {front back : List ε}
    : M.StepsMeet P s (front ++ back)
      ↔ M.StepsMeet P s front ∧ M.StepsMeet P (M.run s front) back := by
  induction front generalizing s with
  | nil => simp [StepsMeet]
  | cons first front ih => simp [StepsMeet, ih, and_assoc]

theorem stepsMeet_concat {M : Machine σ ε ο} {P : σ → ε → Prop} {s : σ} {events : List ε} {e : ε}
    : M.StepsMeet P s (events ++ [e]) ↔ M.StepsMeet P s events ∧ P (M.run s events) e := by
  simp [stepsMeet_append, StepsMeet]

theorem stepsMeet_of_forall {M : Machine σ ε ο} {P : σ → ε → Prop} {events : List ε}
    (h : ∀ e ∈ events, ∀ s, P s e) (s : σ) : M.StepsMeet P s events := by
  induction events generalizing s with
  | nil => trivial
  | cons e events ih =>
    rw [List.forall_mem_cons] at h
    exact ⟨h.1 s, ih h.2 _⟩

theorem guarded_trace_induction (M : Machine σ ε ο) (P : σ → ε → Prop)
    (I : List (ε × ο) → σ → Prop) (hinit : I [] M.init)
    (hstep : ∀ past s e, I past s → P s e → I (past ++ [(e, (M.step s e).2)]) (M.step s e).1)
    {events : List ε} (hevents : M.StepsMeet P M.init events)
    : I (M.trace M.init events) (M.run M.init events) := by
  induction events using List.reverseRecOn with
  | nil => exact hinit
  | append_singleton past e ih =>
    rw [stepsMeet_concat] at hevents
    rw [run_concat, trace_append]
    apply hstep
    . exact ih hevents.1
    . exact hevents.2

/-! ### Components -/

variable {σ' ε' ο' : Type*}

/-- The events that a component takes along a run, `of s e` are those that it takes in a step. -/
def share (M : Machine σ ε ο) (of : σ → ε → List ε') (s : σ) : List ε → List ε'
  | [] => []
  | e :: events => of s e ++ M.share of (M.step s e).1 events

theorem mem_share {M : Machine σ ε ο} {of : σ → ε → List ε'} {s : σ} {events : List ε} {e' : ε'}
    (h : e' ∈ M.share of s events) : ∃ s' e, e ∈ events ∧ e' ∈ of s' e := by
  induction events generalizing s with
  | nil => contradiction
  | cons e events ih =>
    rcases List.mem_append.mp h with hfirst | hrest
    . exact ⟨s, e, List.mem_cons_self, hfirst⟩
    . obtain ⟨s', later, hmem, hlater⟩ := ih hrest
      exact ⟨s', later, List.mem_cons_of_mem e hmem, hlater⟩

/-- A part of the state that goes as a machine of its own. -/
structure Component (M : Machine σ ε ο) (N : Machine σ' ε' ο') (part : σ → σ')
    (of : σ → ε → List ε') : Prop where
  step : ∀ s e, part (M.step s e).1 = N.run (part s) (of s e)

namespace Component

variable {M : Machine σ ε ο} {N : Machine σ' ε' ο'} {part : σ → σ'} {of : σ → ε → List ε'}

theorem run (h : Component M N part of) (s : σ) (events : List ε)
    : part (M.run s events) = N.run (part s) (M.share of s events) := by
  induction events generalizing s with
  | nil => rfl
  | cons e events ih => rw [run_cons, ih, h.step, share, run_append]

-- What the component answers is what the whole answers, as far as it is looked at.
theorem outputs (h : Component M N part of) {α : Type*} {look : ο → List α} {look' : ο' → List α}
    (hlook : ∀ s e, look (M.step s e).2
      = (N.trace (part s) (of s e)).flatMap (fun entry => look' entry.2))
    (s : σ) (events : List ε)
    : (M.trace s events).flatMap (fun entry => look entry.2)
      = (N.trace (part s) (M.share of s events)).flatMap (fun entry => look' entry.2) := by
  induction events generalizing s with
  | nil => rfl
  | cons e events ih =>
    rw [share, trace_append, List.flatMap_append, ← hlook, ← h.step, ← ih]
    rfl

end Component

end Machine

/-! ### Threads -/

structure Threads (τ : Type u) (σ : Type v) (ο : Type w) where
  shared : σ
  pending : τ → List ο

namespace Threads

variable {τ : Type u} {σ : Type v} {ο : Type w} [DecidableEq τ]

/-- More sections for a thread, behind those that it has. -/
def spawn (threads : Threads τ σ ο) (thread : τ) (sections : List ο) : Threads τ σ ο :=
  { threads with
    pending := Function.update threads.pending thread (threads.pending thread ++ sections) }

/-- The thread runs its next section, if it has one. -/
def advance (run : σ → ο → σ) (threads : Threads τ σ ο) (thread : τ) : Threads τ σ ο :=
  match threads.pending thread with
  | [] => threads
  | next :: rest => ⟨run threads.shared next, Function.update threads.pending thread rest⟩

/-- The shared state has a property, and all sections that a thread is still to run have one. -/
structure Safe (I : σ → Prop) (P : τ → ο → Prop) (threads : Threads τ σ ο) : Prop where
  shared : I threads.shared
  pending : ∀ thread, ∀ next ∈ threads.pending thread, P thread next

namespace Safe

variable {I : σ → Prop} {P : τ → ο → Prop} {threads : Threads τ σ ο}

omit [DecidableEq τ] in
theorem setShared (h : Safe I P threads) {shared : σ} (hshared : I shared)
    : Safe I P { threads with shared := shared } :=
  ⟨hshared, h.pending⟩

theorem spawn (h : Safe I P threads) {thread : τ} {sections : List ο}
    (hsections : ∀ next ∈ sections, P thread next)
    : Safe I P (threads.spawn thread sections) := by
  refine ⟨h.shared, ?_⟩
  intro other next hnext
  change next ∈ Function.update threads.pending thread _ other at hnext
  rw [Function.update_apply] at hnext
  split at hnext
  next heq =>
    rw [heq]
    cases List.mem_append.mp hnext with
    | inl hold => exact h.pending thread next hold
    | inr hnew => exact hsections next hnew
  next => exact h.pending other next hnext

theorem advance (h : Safe I P threads) {run : σ → ο → σ}
    (hrun : ∀ thread shared next, I shared → P thread next → I (run shared next)) (thread : τ)
    : Safe I P (threads.advance run thread) := by
  unfold Threads.advance
  cases hpending : threads.pending thread with
  | nil => exact h
  | cons next rest =>
    have hall := h.pending thread
    rw [hpending, List.forall_mem_cons] at hall
    refine ⟨hrun thread threads.shared next h.shared hall.1, ?_⟩
    intro other op hop
    change op ∈ Function.update threads.pending thread rest other at hop
    rw [Function.update_apply] at hop
    split at hop
    next heq =>
      rw [heq]
      exact hall.2 op hop
    next => exact h.pending other op hop

end Safe

end Threads
