import Mathlib.Data.List.Basic
import Mathlib.Data.List.Nodup
import Mathlib.Data.List.Perm.Lattice
import Mathlib.Data.List.Range
import Mathlib.Data.List.Sort

/-!
This module contains indexes over a list: the entries of each key, the first entry of each key and
the number of entries of each key, all built in one pass, and what a scan of the list finds in
their place. Gathered key by key no entry is lost or met twice, and interned keys file every entry
in the slot of its key. It also contains tables that number their keys, a key gets the next number
when it is seen for the first time, and keys that are made of a text, a separator and a number.
-/

universe u v w

namespace KeyedIndex

variable {κ : Type u} {α : Type v} {β : Type w} [DecidableEq κ]

def push (m : κ → List α) (k : κ) (a : α) : κ → List α :=
  fun k' => if k' = k then m k' ++ [a] else m k'

def group (key : α → κ) (l : List α) : κ → List α :=
  l.foldl (fun m a => push m (key a) a) (fun _ => [])

def emplace (m : κ → Option β) (k : κ) (b : β) : κ → Option β :=
  fun k' => if k' = k then (m k').or (some b) else m k'

def firsts (key : α → κ) (value : α → β) (l : List α) : κ → Option β :=
  l.foldl (fun m a => emplace m (key a) (value a)) (fun _ => none)

def increment (m : κ → Nat) (k : κ) : κ → Nat :=
  fun k' => if k' = k then m k' + 1 else m k'

def counts (key : α → κ) (l : List α) : κ → Nat :=
  l.foldl (fun m a => increment m (key a)) (fun _ => 0)

theorem foldl_push (key : α → κ) (l : List α) (m : κ → List α) (k : κ)
    : l.foldl (fun m a => push m (key a) a) m k = m k ++ l.filter (fun a => key a = k) := by
  induction l generalizing m with
  | nil => simp
  | cons a l ih =>
    rw [List.foldl_cons, ih, push]
    by_cases h : k = key a
    . simp [h]
    . have h' : key a ≠ k := fun heq => h heq.symm
      simp [h, h']

theorem group_eq_filter (key : α → κ) (l : List α) (k : κ)
    : group key l k = l.filter (fun a => key a = k) := by
  rw [group, foldl_push, List.nil_append]

theorem foldl_emplace (key : α → κ) (value : α → β) (l : List α) (m : κ → Option β) (k : κ)
    : l.foldl (fun m a => emplace m (key a) (value a)) m k
        =
      (m k).or ((l.find? (fun a => key a = k)).map value) := by
  induction l generalizing m with
  | nil => simp
  | cons a l ih =>
    rw [List.foldl_cons, ih, emplace]
    by_cases h : k = key a
    . simp [h]
    . have h' : key a ≠ k := fun heq => h heq.symm
      simp [h, h']

theorem firsts_eq_find (key : α → κ) (value : α → β) (l : List α) (k : κ)
    : firsts key value l k = (l.find? (fun a => key a = k)).map value := by
  rw [firsts, foldl_emplace, Option.none_or]

theorem foldl_increment (key : α → κ) (l : List α) (m : κ → Nat) (k : κ)
    : l.foldl (fun m a => increment m (key a)) m k = m k + l.countP (fun a => key a = k) := by
  induction l generalizing m with
  | nil => simp
  | cons a l ih =>
    rw [List.foldl_cons, ih, increment]
    by_cases h : k = key a
    . simp [h]
      omega
    . have h' : key a ≠ k := fun heq => h heq.symm
      simp [h, h']

theorem counts_eq_countP (key : α → κ) (l : List α) (k : κ)
    : counts key l k = l.countP (fun a => key a = k) := by
  rw [counts, foldl_increment, Nat.zero_add]

theorem filter_append_filter_perm {l : List α} {p q : α → Bool}
    (hdisjoint : ∀ a ∈ l, p a = true → q a = false)
    : (l.filter p ++ l.filter q).Perm (l.filter (fun a => p a || q a)) := by
  induction l with
  | nil => simp
  | cons a l ih =>
    have ih := ih (fun b hb => hdisjoint b (by simp [hb]))
    cases hp : p a with
    | true =>
      have hq := hdisjoint a (by simp) hp
      simpa [hp, hq] using ih
    | false =>
      cases hq : q a with
      | true =>
        simp only [List.filter_cons, hp, hq, Bool.or_true, if_true]
        apply List.perm_middle.trans
        simpa using ih
      | false => simpa [hp, hq] using ih

theorem eq_of_position {entries : List (α × Nat)}
    (hsorted : entries.Pairwise (fun a b => a.2 < b.2)) {a b : α × Nat} (ha : a ∈ entries)
    (hb : b ∈ entries) (heq : a.2 = b.2)
    : a = b := by
  have hinj : (entries.map Prod.snd).Nodup := by
    rw [List.Nodup, List.pairwise_map]
    apply hsorted.imp
    intro a b hlt
    omega
  exact List.inj_on_of_nodup_map hinj ha hb heq

-- Two disjoint parts of a list of entries with their positions, sorted by position, are the entries
-- of both parts in the order of the list.
theorem mergeSort_filter_append {entries : List (α × Nat)}
    (hsorted : entries.Pairwise (fun a b => a.2 < b.2)) {p q : α × Nat → Bool}
    (hdisjoint : ∀ a ∈ entries, p a = true → q a = false)
    : (entries.filter p ++ entries.filter q).mergeSort (fun a b => a.2 ≤ b.2)
        =
      entries.filter (fun a => p a || q a) := by
  have hperm := (List.mergeSort_perm (entries.filter p ++ entries.filter q)
    (fun a b => a.2 ≤ b.2)).trans (filter_append_filter_perm hdisjoint)
  refine @List.Perm.eq_of_pairwise _ (fun a b => a.2 ≤ b.2) _ _ ?_ ?_ ?_ hperm
  . intro a b ha hb hab hba
    have ha := List.mem_of_mem_filter (hperm.mem_iff.mp ha)
    exact eq_of_position hsorted ha (List.mem_of_mem_filter hb) (by omega)
  . have := @List.pairwise_mergeSort (α × Nat) (fun a b => a.2 ≤ b.2)
      (by simp; omega) (by simp; omega) (entries.filter p ++ entries.filter q)
    simpa using this
  . apply List.Pairwise.sublist List.filter_sublist
    apply hsorted.imp
    intro a b hlt
    omega

end KeyedIndex

/-! ### Interned keys -/

namespace KeyedIndex

variable {κ : Type u} {α : Type v} {β : Type w} [DecidableEq κ]

theorem insertionSort_eq_iff_perm (r : α → α → Prop) [DecidableRel r] [Std.Antisymm r]
    [Std.Total r] [IsTrans α r] {l l' : List α}
    : l.insertionSort r = l'.insertionSort r ↔ l.Perm l' := by
  have hl := List.perm_insertionSort r l
  have hl' := List.perm_insertionSort r l'
  constructor
  . intro h
    rw [h] at hl
    exact hl.symm.trans hl'
  . intro h
    refine @List.Perm.eq_of_pairwise' _ r _ _ _ ?_ ?_ ?_
    . exact List.pairwise_insertionSort r l
    . exact List.pairwise_insertionSort r l'
    . exact (hl.trans h).trans hl'.symm

theorem insertionSort_eq_of_perm (r : α → α → Prop) [DecidableRel r] [Std.Antisymm r]
    [Std.Total r] [IsTrans α r] {l l' : List α} (h : l.Perm l') (hsorted : l'.Pairwise r)
    : l.insertionSort r = l' := by
  rw [(insertionSort_eq_iff_perm r).mpr h]
  exact hsorted.insertionSort_eq

theorem getElem?_foldl_modify (slot : α → Nat) (file : α → β → β) (l : List α) (table : List β)
    (i : Nat)
    : (l.foldl (fun table a => table.modify (slot a) (file a)) table)[i]?
        =
      (table[i]?).map (fun b =>
        (l.filter (fun a => slot a = i)).foldl (fun b a => file a b) b) := by
  induction l generalizing table with
  | nil => simp
  | cons a l ih =>
    rw [List.foldl_cons, ih, List.getElem?_modify]
    by_cases h : slot a = i
    . simp [h, Function.comp_def]
    . simp [h]

theorem flatMap_filter_perm (key : α → κ) {table : List κ} (hnodup : table.Nodup) {l : List α}
    (hmem : ∀ a ∈ l, key a ∈ table)
    : (table.flatMap (fun k => l.filter (fun a => key a = k))).Perm l := by
  induction table generalizing l with
  | nil =>
    cases l with
    | nil => exact List.Perm.refl _
    | cons a l => exact absurd (hmem a (by simp)) (by simp)
  | cons k table ih =>
    have hk := (List.nodup_cons.mp hnodup).1
    have hothers : ∀ k' ∈ table, l.filter (fun a => key a = k')
        = (l.filter (fun a => !decide (key a = k))).filter (fun a => key a = k') := by
      intro k' hk'
      rw [List.filter_filter]
      apply List.filter_congr
      intro a _
      by_cases heq : key a = k'
      . have hne : key a ≠ k := by
          intro hkey
          rw [heq] at hkey
          rw [hkey] at hk'
          contradiction
        simp [heq, heq ▸ hne]
      . simp [heq]
    have hrest := @ih (List.nodup_cons.mp hnodup).2 (l.filter (fun a => !decide (key a = k))) (by
      intro a ha
      rw [List.mem_filter] at ha
      have hcons := hmem a ha.1
      simpa [(by simpa using ha.2 : key a ≠ k)] using hcons)
    have hmap : table.flatMap (fun k' => l.filter (fun a => key a = k'))
        = table.flatMap (fun k' =>
          (l.filter (fun a => !decide (key a = k))).filter (fun a => key a = k')) := by
      rw [List.flatMap_def, List.flatMap_def, List.map_congr_left hothers]
    rw [List.flatMap_cons, hmap]
    apply (hrest.append_left _).trans
    exact List.filter_append_perm _ _

theorem idxOf_eq_iff {κ : Type u} [BEq κ] [LawfulBEq κ] {table : List κ} (hnodup : table.Nodup)
    {i : Nat} (hi : i < table.length) {k : κ} (hk : k ∈ table)
    : table.idxOf k = i ↔ k = table[i] := by
  constructor
  . intro h
    rw [← List.getElem_idxOf (List.idxOf_lt_length_of_mem hk)]
    simp only [h]
  . intro h
    rw [h, hnodup.idxOf_getElem]

end KeyedIndex

/-! ### Numbered keys -/

namespace KeyedIndex

theorem append_cons_inj {α : Type} {separator : α} {a b s t : List α} (hs : separator ∉ s)
    (ht : separator ∉ t)
    : a ++ separator :: s = b ++ separator :: t ↔ a = b ∧ s = t := by
  constructor
  . intro h
    rw [List.append_eq_append_iff] at h
    cases h with
    | inl h =>
      obtain ⟨m, hb, hm⟩ := h
      cases m with
      | nil => simpa [hb] using hm
      | cons c m =>
        rw [List.cons_append] at hm
        have hmem : separator ∈ m ++ separator :: t := by simp
        rw [← List.tail_eq_of_cons_eq hm] at hmem
        exact absurd hmem hs
    | inr h =>
      obtain ⟨m, ha, hm⟩ := h
      cases m with
      | nil => simpa [ha, eq_comm] using hm
      | cons c m =>
        rw [List.cons_append] at hm
        have hmem : separator ∈ m ++ separator :: s := by simp
        rw [← List.tail_eq_of_cons_eq hm] at hmem
        exact absurd hmem ht
  . intro h
    rw [h.1, h.2]

theorem isDigit_of_mem_repr {n : Nat} {c : Char} (h : c ∈ n.repr.toList) : c.isDigit = true := by
  rw [Nat.toList_repr] at h
  exact Nat.isDigit_of_mem_toDigits (by decide) (by decide) h

theorem repr_injective {m n : Nat} (h : m.repr = n.repr) : m = n := by
  have hdigits := congrArg (fun s => Nat.ofDigitChars 10 s.toList 0) h
  simpa only [Nat.toList_repr, Nat.ofDigitChars_ten_toDigits] using hdigits

theorem intRepr_chars {z : Int} {c : Char} (h : c ∈ z.repr.toList) : c = '-' ∨ c.isDigit = true := by
  rw [Int.repr_eq_if] at h
  split at h
  . right
    exact isDigit_of_mem_repr h
  . rw [String.toList_append, List.mem_append] at h
    cases h with
    | inl hsign =>
      left
      exact List.mem_singleton.mp hsign
    | inr hdigit =>
      right
      exact isDigit_of_mem_repr hdigit

theorem sign_notMem_repr (n : Nat) : '-' ∉ n.repr.toList := by
  intro h
  have := isDigit_of_mem_repr h
  cases this

theorem intRepr_injective {y z : Int} (h : y.repr = z.repr) : y = z := by
  rw [Int.repr_eq_if, Int.repr_eq_if] at h
  split at h
  . split at h
    . have := repr_injective h
      omega
    . have hsign := sign_notMem_repr y.toNat
      rw [h] at hsign
      simp at hsign
  . split at h
    . have hsign := sign_notMem_repr z.toNat
      rw [← h] at hsign
      simp at hsign
    . rw [← String.toList_inj, String.toList_append, String.toList_append] at h
      have := repr_injective (String.toList_inj.mp (List.append_cancel_left h))
      omega

section

variable {separator : Char} {text text' : String}

theorem numberedText_inj (hseparator : separator.isDigit = false) {m n : Nat}
    : text ++ separator.toString ++ toString m = text' ++ separator.toString ++ toString n
        ↔ text = text' ∧ m = n := by
  have hnotMem (k : Nat) : separator ∉ k.repr.toList := by
    intro h
    rw [isDigit_of_mem_repr h] at hseparator
    cases hseparator
  rw [← String.toList_inj]
  simp only [String.toList_append, List.append_assoc, Char.toString, Nat.toString_eq_repr,
    String.toList_singleton, List.singleton_append]
  rw [append_cons_inj (hnotMem m) (hnotMem n), String.toList_inj, String.toList_inj]
  constructor
  . intro h
    exact ⟨h.1, repr_injective h.2⟩
  . intro h
    rw [h.1, h.2]
    exact ⟨rfl, rfl⟩

theorem numberedText_int32_inj (hseparator : separator.isDigit = false) (hsign : separator ≠ '-')
    {m n : Int32}
    : text ++ separator.toString ++ toString m = text' ++ separator.toString ++ toString n
        ↔ text = text' ∧ m = n := by
  have hnotMem (k : Int) : separator ∉ k.repr.toList := by
    intro h
    cases intRepr_chars h with
    | inl heq => exact hsign heq
    | inr hdigit =>
      rw [hdigit] at hseparator
      cases hseparator
  have hstring (k : Int32) : toString k = k.toInt.repr := rfl
  rw [← String.toList_inj]
  simp only [String.toList_append, List.append_assoc, Char.toString, hstring,
    String.toList_singleton, List.singleton_append]
  rw [append_cons_inj (hnotMem m.toInt) (hnotMem n.toInt), String.toList_inj, String.toList_inj]
  constructor
  . intro h
    exact ⟨h.1, Int32.toInt_inj.mp (intRepr_injective h.2)⟩
  . intro h
    rw [h.1, h.2]
    exact ⟨rfl, rfl⟩

end

end KeyedIndex

/-! ### Numbered keys -/

namespace KeyedIndex

variable {κ : Type u} {ν : Type v} [BEq κ] [LawfulBEq κ]

theorem mem_of_lookup {table : List (κ × ν)} {k : κ} {n : ν} (h : table.lookup k = some n)
    : (k, n) ∈ table := by
  obtain ⟨before, after, heq, _⟩ := List.lookup_eq_some_iff.mp h
  simp [heq]

theorem notMem_of_lookup {table : List (κ × ν)} {k : κ} (h : table.lookup k = none)
    : k ∉ table.map Prod.fst := by
  intro hmem
  obtain ⟨entry, hentry, heq⟩ := List.mem_map.mp hmem
  have hne := List.lookup_eq_none_iff.mp h entry hentry
  rw [heq] at hne
  simp at hne

/-- The keys are distinct and their numbers were given out in order. -/
structure Numbered (number : Nat → ν) (table : List (κ × ν)) : Prop where
  nodup : (table.map Prod.fst).Nodup
  numbers : table.map Prod.snd = (List.range table.length).map number

namespace Numbered

variable {number : Nat → ν} {table : List (κ × ν)} {k k' : κ} {n n' : ν}

omit [BEq κ] [LawfulBEq κ] in
theorem nil : Numbered number ([] : List (κ × ν)) := ⟨List.nodup_nil, rfl⟩

theorem concat (h : Numbered number table) (hk : table.lookup k = none)
    : Numbered number (table ++ [(k, number table.length)]) := by
  constructor
  . rw [List.map_append, List.nodup_append]
    refine ⟨h.nodup, List.nodup_singleton _, ?_⟩
    intro a ha b hb heq
    rw [List.mem_singleton.mp hb] at heq
    rw [heq] at ha
    exact notMem_of_lookup hk ha
  . rw [List.map_append, h.numbers, List.length_append, List.length_singleton, List.range_succ,
      List.map_append]
    rfl

omit [BEq κ] [LawfulBEq κ] in
theorem number_of_mem (h : Numbered number table) (hmem : (k, n) ∈ table)
    : ∃ i, table[i]? = some (k, n) ∧ n = number i := by
  obtain ⟨i, hi⟩ := List.mem_iff_getElem?.mp hmem
  refine ⟨i, hi, ?_⟩
  have hnumbers := congrArg (fun l => l[i]?) h.numbers
  have hlt := (List.getElem?_eq_some_iff.mp hi).1
  simp only [List.getElem?_map, hi, List.getElem?_range hlt, Option.map_some] at hnumbers
  exact Option.some.inj hnumbers

/-- Two keys share a number exactly when they are equal, as long as numbers do not repeat. -/
theorem lookup_eq_iff (h : Numbered number table)
    (hinj : ∀ i < table.length, ∀ j < table.length, number i = number j → i = j)
    (hk : table.lookup k = some n) (hk' : table.lookup k' = some n')
    : n = n' ↔ k = k' := by
  constructor
  . intro heq
    obtain ⟨i, hi, hni⟩ := h.number_of_mem (mem_of_lookup hk)
    obtain ⟨j, hj, hnj⟩ := h.number_of_mem (mem_of_lookup hk')
    have hij := hinj i (List.getElem?_eq_some_iff.mp hi).1 j (List.getElem?_eq_some_iff.mp hj).1
      (by rw [← hni, ← hnj, heq])
    rw [hij, hj] at hi
    cases hi
    rfl
  . intro heq
    rw [heq, hk'] at hk
    exact (Option.some.inj hk).symm

end Numbered
end KeyedIndex
