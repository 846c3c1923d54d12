import Mathlib.Data.List.DropRight
import Mathlib.Data.List.Induction
import Mathlib.Logic.Function.Basic

/-!
This module contains logs of keyed values: the values of one key in the order in which they were
logged, the part of a log up to the last of them, and slots that such a log is written into. Jobs
that revise the values of their keys leave the same in any order.
-/

universe u v w

namespace KeyedLog

variable {κ : Type u} {α : Type v} [DecidableEq κ]

def valuesOf (key : κ) (log : List (κ × α)) : List α :=
  (log.filter (fun entry => entry.1 = key)).map Prod.snd

def upTo (key : κ) (log : List (κ × α)) : List (κ × α) :=
  log.rdropWhile (fun entry => entry.1 ≠ key)

@[simp]
theorem valuesOf_nil (key : κ) : valuesOf key ([] : List (κ × α)) = [] := rfl

@[simp]
theorem valuesOf_append (key : κ) (front back : List (κ × α))
    : valuesOf key (front ++ back) = valuesOf key front ++ valuesOf key back := by
  simp [valuesOf]

@[simp]
theorem valuesOf_self (key : κ) (value : α) : valuesOf key [(key, value)] = [value] := by
  simp [valuesOf]

theorem valuesOf_of_ne {key other : κ} (h : other ≠ key) (value : α)
    : valuesOf key [(other, value)] = [] := by
  simp [valuesOf, h]

theorem valuesOf_eq_nil {key : κ} {log : List (κ × α)} (h : key ∉ log.map Prod.fst)
    : valuesOf key log = [] := by
  simp only [valuesOf, List.map_eq_nil_iff, List.filter_eq_nil_iff, decide_eq_true_eq]
  intro entry hmem heq
  exact h (List.mem_map.mpr ⟨entry, hmem, heq⟩)

@[simp]
theorem upTo_nil (key : κ) : upTo key ([] : List (κ × α)) = [] := rfl

@[simp]
theorem upTo_concat_self (key : κ) (log : List (κ × α)) (value : α)
    : upTo key (log ++ [(key, value)]) = log ++ [(key, value)] := by
  simp [upTo]

theorem upTo_concat_of_ne {key other : κ} (h : other ≠ key) (log : List (κ × α)) (value : α)
    : upTo key (log ++ [(other, value)]) = upTo key log := by
  simp [upTo, h]

theorem length_upTo_le (key : κ) (log : List (κ × α)) : (upTo key log).length ≤ log.length :=
  (List.rdropWhile_prefix _ _).length_le

theorem upTo_append_of_nil {key : κ} (log : List (κ × α)) {rest : List (κ × α)}
    (h : valuesOf key rest = [])
    : upTo key (log ++ rest) = upTo key log := by
  induction rest using List.reverseRecOn with
  | nil => rw [List.append_nil]
  | append_singleton rest entry ih =>
    rw [valuesOf_append, List.append_eq_nil_iff] at h
    have hne : entry.1 ≠ key := by
      intro heq
      simp [valuesOf, heq] at h
    rw [← List.append_assoc, upTo_concat_of_ne hne, ih h.1]

-- A value of `key` behind a prefix moves the last value of `key` behind the prefix.
theorem length_lt_upTo {key : κ} (log : List (κ × α)) {rest : List (κ × α)}
    (h : valuesOf key rest ≠ [])
    : log.length < (upTo key (log ++ rest)).length := by
  induction rest using List.reverseRecOn with
  | nil => exact absurd rfl h
  | append_singleton rest entry ih =>
    by_cases heq : entry.1 = key
    . obtain ⟨other, value⟩ := entry
      cases heq
      rw [← List.append_assoc, upTo_concat_self]
      simp only [List.length_append, List.length_singleton]
      omega
    . rw [valuesOf_append, valuesOf_of_ne heq, List.append_nil] at h
      rw [← List.append_assoc, upTo_concat_of_ne heq]
      exact ih h

-- Handing on the last value of a key, at most once for every time it was logged.
theorem sublist_concat_getLast {key : κ} {handed : List α} {log rest : List (κ × α)}
    (hsub : handed.Sublist (valuesOf key log)) (h : valuesOf key rest ≠ []) {value : α}
    (hlast : (valuesOf key (log ++ rest)).getLast? = some value)
    : (handed ++ [value]).Sublist (valuesOf key (log ++ rest)) := by
  rw [valuesOf_append] at hlast ⊢
  rw [List.getLast?_append_of_ne_nil _ h] at hlast
  exact hsub.append (List.singleton_sublist.mpr (List.mem_of_getLast? hlast))

/-- The last value of every key, on top of what was held of it before. -/
def fold (held : κ → Option α) (log : List (κ × α)) : κ → Option α :=
  log.foldl (fun held entry => Function.update held entry.1 (some entry.2)) held

@[simp]
theorem fold_nil (held : κ → Option α) : fold held [] = held := rfl

theorem fold_append (held : κ → Option α) (front back : List (κ × α))
    : fold held (front ++ back) = fold (fold held front) back := by
  simp [fold]

theorem fold_singleton (held : κ → Option α) (key : κ) (value : α)
    : fold held [(key, value)] = Function.update held key (some value) := rfl

theorem fold_apply (held : κ → Option α) (log : List (κ × α)) (key : κ)
    : fold held log key = (valuesOf key log).getLast?.or (held key) := by
  induction log using List.reverseRecOn with
  | nil => rfl
  | append_singleton log entry ih =>
    rw [fold_append, fold_singleton, valuesOf_append]
    by_cases heq : key = entry.1
    . rw [heq, Function.update_self, valuesOf_self, List.getLast?_concat]
      rfl
    . rw [Function.update_of_ne heq, valuesOf_of_ne (Ne.symm heq), List.append_nil]
      exact ih

theorem fold_of_not_mem {held : κ → Option α} {log : List (κ × α)} {key : κ}
    (h : key ∉ log.map Prod.fst) : fold held log key = held key := by
  rw [fold_apply, valuesOf_eq_nil h]
  rfl

theorem mem_valuesOf {key : κ} {log : List (κ × α)} {value : α}
    : value ∈ valuesOf key log ↔ (key, value) ∈ log := by
  simp [valuesOf]

theorem fold_of_mem {held : κ → Option α} {log : List (κ × α)} {key : κ} {value : α}
    (hmem : (key, value) ∈ log) (h : ∀ other, (key, other) ∈ log → other = value)
    : fold held log key = some value := by
  rw [← mem_valuesOf] at hmem
  cases hlast : (valuesOf key log).getLast? with
  | none =>
    rw [List.getLast?_eq_none_iff.mp hlast] at hmem
    contradiction
  | some last =>
    have heq : last = value := by
      apply h
      rw [← mem_valuesOf]
      exact List.mem_of_getLast? hlast
    rw [fold_apply, hlast, heq]
    rfl

end KeyedLog

/-! ### Slots -/

namespace KeyedLog

variable {α : Type v}

/-- The last value of every slot, a slot that there is not is ignored. -/
def writeAll (slots : List α) (log : List (Nat × α)) : List α :=
  log.foldl (fun slots entry => slots.set entry.1 entry.2) slots

@[simp]
theorem writeAll_nil (slots : List α) : writeAll slots [] = slots := rfl

theorem writeAll_append (slots : List α) (front back : List (Nat × α))
    : writeAll slots (front ++ back) = writeAll (writeAll slots front) back := by
  simp [writeAll]

theorem writeAll_singleton (slots : List α) (key : Nat) (value : α)
    : writeAll slots [(key, value)] = slots.set key value := rfl

@[simp]
theorem length_writeAll (slots : List α) (log : List (Nat × α))
    : (writeAll slots log).length = slots.length := by
  induction log using List.reverseRecOn with
  | nil => rfl
  | append_singleton log entry ih =>
    rw [writeAll_append, writeAll_singleton, List.length_set]
    exact ih

theorem getElem?_writeAll (slots : List α) (log : List (Nat × α)) {key : Nat}
    (hkey : key < slots.length)
    : (writeAll slots log)[key]? = fold (fun key => slots[key]?) log key := by
  induction log using List.reverseRecOn with
  | nil => rfl
  | append_singleton log entry ih =>
    rw [writeAll_append, writeAll_singleton, fold_append, fold_singleton]
    by_cases heq : entry.1 = key
    . rw [← heq] at hkey ⊢
      rw [Function.update_self, List.getElem?_set_self]
      rw [length_writeAll]
      exact hkey
    . rw [Function.update_of_ne (Ne.symm heq), List.getElem?_set_ne heq]
      exact ih

-- A log that has the new value of every slot that changes turns the old slots into the new.
theorem writeAll_eq_of_changes {old new : List α} {log : List (Nat × α)}
    (hlength : old.length = new.length)
    (hvalues : ∀ key value, (key, value) ∈ log → key < old.length → new[key]? = some value)
    (hchanges : ∀ key, key < old.length → key ∉ log.map Prod.fst → old[key]? = new[key]?)
    : writeAll old log = new := by
  apply List.ext_getElem?
  intro key
  by_cases hkey : key < old.length
  . rw [getElem?_writeAll old log hkey]
    by_cases hmem : key ∈ log.map Prod.fst
    . obtain ⟨⟨other, value⟩, hentry, rfl⟩ := List.mem_map.mp hmem
      have hnew := hvalues other value hentry hkey
      rw [hnew]
      apply fold_of_mem hentry
      intro other' hother
      have hsame := hvalues other other' hother hkey
      rw [hnew] at hsame
      exact (Option.some.inj hsame).symm
    . rw [fold_of_not_mem hmem]
      exact hchanges key hkey hmem
  . rw [List.getElem?_eq_none (by rw [length_writeAll]; omega), List.getElem?_eq_none (by omega)]

/-! ### Revisions -/

variable {κ : Type u} {ι : Type w} [DecidableEq κ]

/-- Every job revises the value of its key, one after the other. -/
def revise (key : ι → κ) (update : ι → α → α) (held : κ → α) (jobs : List ι) : κ → α :=
  jobs.foldl (fun held job => Function.update held (key job) (update job (held (key job)))) held

theorem revise_concat (key : ι → κ) (update : ι → α → α) (held : κ → α) (jobs : List ι) (job : ι)
    : revise key update held (jobs ++ [job])
      = Function.update (revise key update held jobs) (key job)
        (update job (revise key update held jobs (key job))) := by
  simp [revise]

theorem revise_of_forall_ne {key : ι → κ} {update : ι → α → α} {held : κ → α} {jobs : List ι}
    {k : κ} (h : ∀ job ∈ jobs, key job ≠ k) : revise key update held jobs k = held k := by
  induction jobs using List.reverseRecOn with
  | nil => rfl
  | append_singleton jobs job ih =>
    simp only [List.mem_append, List.mem_singleton, or_imp, forall_and, forall_eq] at h
    rw [revise_concat, Function.update_of_ne (Ne.symm h.2)]
    exact ih h.1

-- What every revision keeps of the value of its key.
theorem revise_invariant {key : ι → κ} {update : ι → α → α} {P : κ → α → Prop} {held : κ → α}
    (hheld : ∀ k, P k (held k)) (hupdate : ∀ job a, P (key job) a → P (key job) (update job a))
    (jobs : List ι) (k : κ) : P k (revise key update held jobs k) := by
  induction jobs using List.reverseRecOn generalizing k with
  | nil => exact hheld k
  | append_singleton jobs job ih =>
    rw [revise_concat, Function.update_apply]
    split
    . next heq =>
      rw [heq]
      exact hupdate job _ (ih (key job))
    . exact ih k

-- Jobs with keys of their own leave the same in any order, and where they are run more than once.
theorem revise_of_mem {key : ι → κ} {update : ι → α → α} {held : κ → α} {jobs : List ι} {job : ι}
    (hmem : job ∈ jobs) (hkeys : ∀ other ∈ jobs, key other = key job → other = job)
    (hagain : ∀ a, update job (update job a) = update job a)
    : revise key update held jobs (key job) = update job (held (key job)) := by
  induction jobs using List.reverseRecOn with
  | nil => contradiction
  | append_singleton jobs last ih =>
    rw [revise_concat]
    simp only [List.mem_append, List.mem_singleton, or_imp, forall_and, forall_eq] at hkeys hmem
    by_cases hlast : key last = key job
    . have hsame : last = job := hkeys.2 hlast
      rw [hsame, Function.update_self]
      by_cases hbefore : job ∈ jobs
      . rw [ih hbefore hkeys.1, hagain]
      . rw [revise_of_forall_ne]
        intro other hother heq
        exact hbefore (hkeys.1 other hother heq ▸ hother)
    . have hbefore : job ∈ jobs := by
        rcases hmem with hmem | rfl
        . exact hmem
        . exact absurd rfl hlast
      rw [Function.update_of_ne (Ne.symm hlast)]
      exact ih hbefore hkeys.1

end KeyedLog
