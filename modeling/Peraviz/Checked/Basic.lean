import Mathlib.Data.List.Basic

/-!
This module contains arithmetic on a 32 bit integer type that is undefined when a result leaves the
type, and the rules to prove that a computation with it stays defined. A computation that can
also stop with a message is an `Except` on top of that.
-/

namespace CheckedInt

variable {α β γ ε : Type}

/-- The value of an integer computation at type `int`: `none` is an overflow. -/
def narrow (x : Int) : Option Int32 :=
  if -2147483648 ≤ x ∧ x < 2147483648 then some (Int32.ofInt x) else none

def addChecked (a b : Int32) : Option Int32 :=
  narrow (a.toInt + b.toInt)

def subChecked (a b : Int32) : Option Int32 :=
  narrow (a.toInt - b.toInt)

def Defined (x : Option α) (P : α → Prop) : Prop :=
  ∃ a, x = some a ∧ P a

namespace Defined

theorem pure {P : α → Prop} {a : α} (h : P a) : Defined (some a) P :=
  ⟨a, rfl, h⟩

theorem mono {P Q : α → Prop} {x : Option α} (hx : Defined x P) (h : ∀ a, P a → Q a)
    : Defined x Q := by
  obtain ⟨a, ha, hp⟩ := hx
  exact ⟨a, ha, h a hp⟩

theorem bind {P : α → Prop} {Q : β → Prop} {x : Option α} {f : α → Option β} (hx : Defined x P)
    (hf : ∀ a, P a → Defined (f a) Q)
    : Defined (x >>= f) Q := by
  obtain ⟨a, ha, hp⟩ := hx
  rw [ha]
  apply hf a hp

theorem map {P : α → Prop} {Q : β → Prop} {x : Option α} {f : α → β} (hx : Defined x P)
    (hf : ∀ a, P a → Q (f a))
    : Defined (f <$> x) Q := by
  obtain ⟨a, ha, hp⟩ := hx
  rw [ha]
  exact ⟨f a, rfl, hf a hp⟩

theorem foldlM {I : β → Prop} {step : β → α → Option β} {l : List α} {b : β} (hb : I b)
    (hstep : ∀ b, I b → ∀ a ∈ l, Defined (step b a) I)
    : Defined (l.foldlM step b) I := by
  induction l generalizing b with
  | nil => exact pure hb
  | cons a l ih =>
    rw [List.foldlM_cons]
    apply bind (hstep b hb a (by simp))
    intro b' hb'
    apply ih hb'
    intro b hb a ha
    apply hstep b hb a (by simp [ha])

theorem mapM {P : β → Prop} {f : α → Option β} {l : List α} (hf : ∀ a ∈ l, Defined (f a) P)
    : Defined (l.mapM f) (fun r => ∀ b ∈ r, P b) := by
  induction l with
  | nil => exact pure (by simp)
  | cons a l ih =>
    rw [List.mapM_cons]
    apply bind (hf a (by simp))
    intro b hb
    apply bind (ih (fun a ha => hf a (by simp [ha])))
    intro r hr
    apply pure
    simp only [List.mem_cons, forall_eq_or_imp]
    exact ⟨hb, hr⟩

end Defined

theorem toInt_ofInt_of_fits {x : Int} (h : -2147483648 ≤ x ∧ x < 2147483648)
    : (Int32.ofInt x).toInt = x := by
  apply Int32.toInt_ofInt_of_le h.1 h.2

theorem ofNat_injOn {i j : Nat} (hi : i < 4294967296) (hj : j < 4294967296)
    (h : Int32.ofNat i = Int32.ofNat j)
    : i = j := by
  have hbits := congrArg (fun n : Int32 => n.toUInt32.toNat) h
  simp only [Int32.toUInt32_ofNat', UInt32.toNat_ofNat_of_lt' hi,
    UInt32.toNat_ofNat_of_lt' hj] at hbits
  exact hbits

theorem narrow_eq_some {x : Int} {a : Int32} (h : narrow x = some a) : a.toInt = x := by
  rw [narrow] at h
  split at h
  next hx =>
    rw [← Option.some.inj h]
    apply toInt_ofInt_of_fits hx
  next => contradiction

theorem addChecked_eq_some {a b c : Int32} (h : addChecked a b = some c)
    : c.toInt = a.toInt + b.toInt :=
  narrow_eq_some h

theorem subChecked_eq_some {a b c : Int32} (h : subChecked a b = some c)
    : c.toInt = a.toInt - b.toInt :=
  narrow_eq_some h

theorem defined_narrow {x : Int} (h : -2147483648 ≤ x ∧ x < 2147483648)
    : Defined (narrow x) (fun a => a.toInt = x) :=
  ⟨Int32.ofInt x, by rw [narrow, if_pos h], toInt_ofInt_of_fits h⟩

theorem defined_addChecked {a b : Int32}
    (h : -2147483648 ≤ a.toInt + b.toInt ∧ a.toInt + b.toInt < 2147483648)
    : Defined (addChecked a b) (fun c => c.toInt = a.toInt + b.toInt) :=
  defined_narrow h

theorem defined_subChecked {a b : Int32}
    (h : -2147483648 ≤ a.toInt - b.toInt ∧ a.toInt - b.toInt < 2147483648)
    : Defined (subChecked a b) (fun c => c.toInt = a.toInt - b.toInt) :=
  defined_narrow h

/-- A checked computation that can stop with a message of type `ε`. -/
abbrev Checked (ε α : Type) := ExceptT ε Option α

def Ensures (x : Checked ε α) (P : α → Prop) : Prop :=
  Defined x.run (fun r => ∀ a, r = .ok a → P a)

namespace Ensures

theorem pure {P : α → Prop} {a : α} (h : P a) : Ensures (Pure.pure a : Checked ε α) P := by
  refine ⟨.ok a, rfl, ?_⟩
  intro a' ha'
  cases ha'
  exact h

theorem throw {P : α → Prop} {e : ε} : Ensures (MonadExcept.throw e : Checked ε α) P := by
  refine ⟨.error e, rfl, ?_⟩
  intro a' ha'
  cases ha'

theorem lift {P : α → Prop} {x : Option α} (hx : Defined x P)
    : Ensures (ExceptT.lift x : Checked ε α) P := by
  obtain ⟨a, rfl, hp⟩ := hx
  exact pure hp

theorem bind {P : α → Prop} {Q : β → Prop} {x : Checked ε α} {f : α → Checked ε β}
    (hx : Ensures x P) (hf : ∀ a, P a → Ensures (f a) Q)
    : Ensures (x >>= f) Q := by
  obtain ⟨r, hr, hp⟩ := hx
  have hrun : (x >>= f).run = x.run >>= ExceptT.bindCont f := rfl
  rw [Ensures, hrun, hr]
  cases r with
  | ok a => exact hf a (hp a rfl)
  | error e =>
    refine ⟨.error e, rfl, ?_⟩
    intro b hb
    cases hb

theorem throw_bind {P : β → Prop} {e : ε} {f : α → Checked ε β}
    : Ensures (MonadExcept.throw e >>= f : Checked ε β) P := by
  refine ⟨.error e, rfl, ?_⟩
  intro b hb
  cases hb

theorem ofExcept {P : α → Prop} {x : Except ε α} (h : ∀ a, x = .ok a → P a)
    : Ensures (ExceptT.mk (some x) : Checked ε α) P :=
  ⟨x, rfl, h⟩

theorem mono {P Q : α → Prop} {x : Checked ε α} (hx : Ensures x P) (h : ∀ a, P a → Q a)
    : Ensures x Q := by
  apply Defined.mono hx
  intro r hr a ha
  apply h
  apply hr a ha

theorem foldlM {I : β → Prop} {step : β → α → Checked ε β} {l : List α} {b : β} (hb : I b)
    (hstep : ∀ b, I b → ∀ a ∈ l, Ensures (step b a) I)
    : Ensures (l.foldlM step b) I := by
  induction l generalizing b with
  | nil => exact pure hb
  | cons a l ih =>
    rw [List.foldlM_cons]
    apply bind (hstep b hb a (by simp))
    intro b' hb'
    apply ih hb'
    intro b hb a ha
    apply hstep b hb a (by simp [ha])

theorem mapM {P : β → Prop} {f : α → Checked ε β} {l : List α} (hf : ∀ a ∈ l, Ensures (f a) P)
    : Ensures (l.mapM f) (fun r => ∀ b ∈ r, P b) := by
  induction l with
  | nil => exact pure (by simp)
  | cons a l ih =>
    rw [List.mapM_cons]
    apply bind (hf a (by simp))
    intro b hb
    apply bind (ih (fun a ha => hf a (by simp [ha])))
    intro r hr
    apply pure
    simp only [List.mem_cons, forall_eq_or_imp]
    exact ⟨hb, hr⟩

end Ensures

/-- What holds of the result of a computation that comes to one. -/
def Yields (x : Checked ε α) (P : α → Prop) : Prop :=
  ∀ a, x.run = some (.ok a) → P a

namespace Yields

theorem pure {P : α → Prop} {a : α} (h : P a) : Yields (Pure.pure a : Checked ε α) P := by
  intro a' ha'
  cases ha'
  exact h

theorem throw {P : α → Prop} {e : ε} : Yields (MonadExcept.throw e : Checked ε α) P := by
  intro a ha
  cases ha

theorem any {x : Checked ε α} : Yields x (fun _ => True) := fun _ _ => trivial

theorem bind {P : α → Prop} {Q : β → Prop} {x : Checked ε α} {f : α → Checked ε β}
    (hx : Yields x P) (hf : ∀ a, P a → Yields (f a) Q)
    : Yields (x >>= f) Q := by
  intro b hb
  have hrun : (x >>= f).run = x.run >>= ExceptT.bindCont f := rfl
  rw [hrun] at hb
  cases hr : x.run with
  | none =>
    rw [hr] at hb
    cases hb
  | some r =>
    rw [hr] at hb
    cases r with
    | ok a => exact hf a (hx a hr) b hb
    | error e => cases hb

theorem throw_bind {P : β → Prop} {e : ε} {f : α → Checked ε β}
    : Yields (MonadExcept.throw e >>= f : Checked ε β) P := by
  intro b hb
  cases hb

theorem ofExcept {P : α → Prop} {x : Except ε α} (h : ∀ a, x = .ok a → P a)
    : Yields (ExceptT.mk (some x) : Checked ε α) P := by
  intro a ha
  apply h
  exact Option.some.inj ha

theorem foldlM {I : β → Prop} {step : β → α → Checked ε β} {l : List α} {b : β} (hb : I b)
    (hstep : ∀ b, I b → ∀ a ∈ l, Yields (step b a) I)
    : Yields (l.foldlM step b) I := by
  induction l generalizing b with
  | nil => exact pure hb
  | cons a l ih =>
    rw [List.foldlM_cons]
    refine bind (hstep b hb a (by simp)) ?_
    intro b' hb'
    refine ih hb' ?_
    intro b hb a ha
    apply hstep b hb a (by simp [ha])

theorem ensures {P Q : α → Prop} {x : Checked ε α} (h : Yields x P) (hx : Ensures x Q)
    : Ensures x P := by
  obtain ⟨r, hr, _⟩ := hx
  refine ⟨r, hr, ?_⟩
  intro a ha
  apply h
  rw [hr, ha]

end Yields

end CheckedInt
