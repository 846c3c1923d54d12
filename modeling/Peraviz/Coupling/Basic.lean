import Mathlib.Data.List.Basic

/-!
This module contains rules to reason about programs over a state, alone and two at a time. A rule
for one program asks for an invariant of its state, a rule for two programs asks for a relation
between their states that every pair of matching steps preserves.
-/

universe u

section

variable {σ τ α β γ δ ι : Type u}

/-- From related states, the two programs answer related values and end in related states. -/
def Coupled (R : σ → τ → Prop) (Q : α → β → Prop) (x : StateM σ α) (y : StateM τ β) : Prop :=
  ∀ s t, R s t → Q (x s).1 (y t).1 ∧ R (x s).2 (y t).2

/-- A program that answers a `Q` and keeps the invariant. -/
def Keeps (I : σ → Prop) (Q : α → Prop) (x : StateM σ α) : Prop :=
  ∀ s, I s → Q (x s).1 ∧ I (x s).2

/-- A program after which, from any state of the invariant, `P` holds. -/
def Establishes (I P : σ → Prop) (x : StateM σ α) : Prop :=
  ∀ s, I s → P (x s).2

namespace Coupled

variable {R : σ → τ → Prop} {Q : α → β → Prop} {x : StateM σ α} {y : StateM τ β}

theorem pure {a : α} {b : β} (h : Q a b)
    : Coupled R Q (Pure.pure a : StateM σ α) (Pure.pure b : StateM τ β) :=
  fun _ _ hr => ⟨h, hr⟩

theorem bind {Q' : γ → δ → Prop} {f : α → StateM σ γ} {g : β → StateM τ δ}
    (hx : Coupled R Q x y) (hf : ∀ a b, Q a b → Coupled R Q' (f a) (g b))
    : Coupled R Q' (x >>= f) (y >>= g) := by
  intro s t hr
  obtain ⟨hq, hr'⟩ := hx s t hr
  exact hf _ _ hq _ _ hr'

theorem bind_eq {x : StateM σ α} {y : StateM τ α} {Q' : γ → δ → Prop} {f : α → StateM σ γ}
    {g : α → StateM τ δ} (hx : Coupled R Eq x y) (hf : ∀ a, Coupled R Q' (f a) (g a))
    : Coupled R Q' (x >>= f) (y >>= g) := by
  apply hx.bind
  intro a b hab
  subst hab
  exact hf a

theorem ite {c : Prop} [Decidable c] {x' : StateM σ α} {y' : StateM τ β}
    (hpos : c → Coupled R Q x y) (hneg : ¬ c → Coupled R Q x' y')
    : Coupled R Q (if c then x else x') (if c then y else y') := by
  split
  . next h => exact hpos h
  . next h => exact hneg h

theorem foldlM {f : α → ι → StateM σ α} {g : β → ι → StateM τ β} {l : List ι} {a : α} {b : β}
    (hab : Q a b) (hf : ∀ i ∈ l, ∀ a b, Q a b → Coupled R Q (f a i) (g b i))
    : Coupled R Q (l.foldlM f a) (l.foldlM g b) := by
  induction l generalizing a b with
  | nil =>
    apply Coupled.pure
    exact hab
  | cons i l ih =>
    rw [List.foldlM_cons, List.foldlM_cons]
    apply (hf i List.mem_cons_self a b hab).bind
    intro a' b' hab'
    apply ih hab'
    intro j hj
    exact hf j (List.mem_cons_of_mem i hj)

theorem foldlM_eq {f : α → ι → StateM σ α} {g : α → ι → StateM τ α} {l : List ι}
    (hf : ∀ i ∈ l, ∀ a, Coupled R Eq (f a i) (g a i)) (a : α)
    : Coupled R Eq (l.foldlM f a) (l.foldlM g a) := by
  apply Coupled.foldlM rfl
  intro i hi a b hab
  subst hab
  exact hf i hi a

theorem same (x : StateM σ α) : Coupled Eq Eq x x := by
  intro s t hst
  rw [hst]
  exact ⟨rfl, rfl⟩

theorem eq {x y : StateM σ α} (h : Coupled Eq Eq x y) : x = y := by
  funext s
  exact Prod.ext (h s s rfl).1 (h s s rfl).2

theorem keeps {I : σ → Prop} {x : StateM σ α}
    (h : Coupled (fun s t => s = t ∧ I s) Eq x x) : Keeps I (fun _ => True) x :=
  fun s hs => ⟨trivial, (h s s ⟨rfl, hs⟩).2.2⟩

end Coupled

namespace Keeps

variable {I : σ → Prop} {Q : α → Prop} {x : StateM σ α}

theorem pure {a : α} (h : Q a) : Keeps I Q (Pure.pure a : StateM σ α) := fun _ hs => ⟨h, hs⟩

theorem bind {Q' : γ → Prop} {f : α → StateM σ γ} (hx : Keeps I Q x)
    (hf : ∀ a, Q a → Keeps I Q' (f a)) : Keeps I Q' (x >>= f) := by
  intro s hs
  obtain ⟨hq, hs'⟩ := hx s hs
  exact hf _ hq _ hs'

theorem foldlM {f : α → ι → StateM σ α} {l : List ι} {a : α} (ha : Q a)
    (hf : ∀ i ∈ l, ∀ a, Q a → Keeps I Q (f a i)) : Keeps I Q (l.foldlM f a) := by
  induction l generalizing a with
  | nil => exact Keeps.pure ha
  | cons i l ih =>
    rw [List.foldlM_cons]
    apply (hf i List.mem_cons_self a ha).bind
    intro a' ha'
    apply ih ha'
    intro j hj
    exact hf j (List.mem_cons_of_mem i hj)

-- A fold whose steps answer what a pure step computes answers what the pure fold computes. The pure
-- fold is what later proofs reason about.
theorem foldlM_pure {f : α → ι → StateM σ α} {g : α → ι → α} {l : List ι}
    (hf : ∀ i ∈ l, ∀ a, Keeps I (fun b => b = g a i) (f a i)) (a : α)
    : Keeps I (fun b => b = l.foldl g a) (l.foldlM f a) := by
  induction l generalizing a with
  | nil => exact Keeps.pure rfl
  | cons i l ih =>
    rw [List.foldlM_cons, List.foldl_cons]
    apply (hf i List.mem_cons_self a).bind
    intro a' ha'
    subst ha'
    apply ih
    intro j hj
    exact hf j (List.mem_cons_of_mem i hj)

theorem foldlM_view {f : α → ι → StateM σ α} {g : β → ι → β} {view : α → β} {l : List ι}
    (hf : ∀ i ∈ l, ∀ a, Keeps I (fun b => view b = g (view a) i) (f a i)) (a : α)
    : Keeps I (fun b => view b = l.foldl g (view a)) (l.foldlM f a) := by
  induction l generalizing a with
  | nil => exact Keeps.pure rfl
  | cons i l ih =>
    rw [List.foldlM_cons, List.foldl_cons]
    apply (hf i List.mem_cons_self a).bind
    intro a' ha'
    rw [← ha']
    apply ih
    intro j hj
    exact hf j (List.mem_cons_of_mem i hj)

theorem mono {Q' : α → Prop} (hx : Keeps I Q x) (h : ∀ a, Q a → Q' a) : Keeps I Q' x :=
  fun s hs => ⟨h _ (hx s hs).1, (hx s hs).2⟩

theorem establishes {P : σ → Prop} (hx : Keeps (fun s => I s ∧ P s) Q x) {s : σ} (hs : I s)
    (hp : P s) : P (x s).2 :=
  (hx s ⟨hs, hp⟩).2.2

end Keeps

namespace Establishes

variable {I P : σ → Prop} {x : StateM σ α}

theorem bind_left {f : α → StateM σ γ} (hx : Establishes I P x) (hi : Keeps I (fun _ => True) x)
    (hf : ∀ a, Keeps (fun s => I s ∧ P s) (fun _ => True) (f a)) : Establishes I P (x >>= f) :=
  fun s hs => (hf _ _ ⟨(hi s hs).2, hx s hs⟩).2.2

theorem bind_right {f : α → StateM σ γ} (hi : Keeps I (fun _ => True) x)
    (hf : ∀ a, Establishes I P (f a)) : Establishes I P (x >>= f) :=
  fun s hs => hf _ _ (hi s hs).2

-- What the step of one element establishes and the step of every element keeps.
theorem foldlM {f : α → ι → StateM σ α} {l : List ι} {i : ι} (hi : i ∈ l)
    (hf : ∀ a, Establishes I P (f a i))
    (hinv : ∀ j ∈ l, ∀ a, Keeps I (fun _ => True) (f a j))
    (hkeep : ∀ j ∈ l, ∀ a, Keeps (fun s => I s ∧ P s) (fun _ => True) (f a j)) (a : α)
    : Establishes I P (l.foldlM f a) := by
  induction l generalizing a with
  | nil => cases hi
  | cons j l ih =>
    rw [List.foldlM_cons]
    cases List.mem_cons.mp hi with
    | inl heq =>
      subst heq
      refine (hf a).bind_left (hinv i List.mem_cons_self a) ?_
      intro a'
      apply Keeps.foldlM trivial
      intro k hk b _
      exact hkeep k (List.mem_cons_of_mem i hk) b
    | inr hmem =>
      refine bind_right (hinv j List.mem_cons_self a) ?_
      intro a'
      apply ih hmem
      . intro k hk
        exact hinv k (List.mem_cons_of_mem j hk)
      . intro k hk
        exact hkeep k (List.mem_cons_of_mem j hk)

end Establishes

end
