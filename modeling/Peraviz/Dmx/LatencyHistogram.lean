import Mathlib.Data.List.Induction
import Peraviz.Ranking.Basic

/-!
This module contains the histogram of latencies: 32 counters, each for the latencies up to the next
power of two, and how far a percentile that is read from them is from the true one.
-/

namespace Peraviz.Dmx

/-- The counters and the latencies are plain numbers: no step on 64-bit ones wraps. -/
structure LatencyHistogram where
  buckets : List Nat := List.replicate 32 0
  samples : Nat := 0
  maximumUs : Nat := 0
  deriving DecidableEq

namespace LatencyHistogram

/-- The loop over the buckets behind this one, as many as there are. -/
def bucketFrom (valueUs : Nat) : Nat → Nat → Nat
  | 0, bucket => bucket
  | behind + 1, bucket =>
    if 2 ^ bucket < valueUs then
      bucketFrom valueUs behind (bucket + 1)
    else
      bucket

def bucketOf (valueUs : Nat) : Nat :=
  bucketFrom valueUs 31 0

def observe (histogram : LatencyHistogram) (valueUs : Nat) : LatencyHistogram :=
  { buckets := histogram.buckets.modify (bucketOf valueUs) (fun count => count + 1)
    samples := histogram.samples + 1
    maximumUs := max histogram.maximumUs valueUs }

def target (histogram : LatencyHistogram) (percent : Nat) : Nat :=
  histogram.samples / 100 * percent + (histogram.samples % 100 * percent + 99) / 100

def percentile (histogram : LatencyHistogram) (percent : Nat) : Nat :=
  if histogram.samples = 0 then
    0
  else
    match Ranking.firstReaching (histogram.target percent) histogram.buckets 0 0 with
    | some index => min (2 ^ index) histogram.maximumUs
    | none => histogram.maximumUs

def recorded (latencies : List Nat) : LatencyHistogram :=
  latencies.foldl observe {}

end LatencyHistogram

/-- The nearest-rank percentile of the latencies themselves. -/
def nearestRank (latencies : List Nat) (percent : Nat) : Nat :=
  (Ranking.ascending latencies).getD ((latencies.length * percent + 99) / 100 - 1) 0

namespace LatencyHistogram

theorem bucketFrom_le (valueUs behind bucket : Nat)
    : bucketFrom valueUs behind bucket ≤ bucket + behind := by
  induction behind generalizing bucket with
  | zero => exact Nat.le_refl bucket
  | succ behind ih =>
    unfold bucketFrom
    split
    . have := ih (bucket + 1)
      omega
    . omega

theorem le_pow_bucketFrom {valueUs behind bucket : Nat}
    (h : bucketFrom valueUs behind bucket < bucket + behind)
    : valueUs ≤ 2 ^ bucketFrom valueUs behind bucket := by
  induction behind generalizing bucket with
  | zero => exact absurd h (Nat.lt_irrefl bucket)
  | succ behind ih =>
    unfold bucketFrom at h ⊢
    split
    . next hlt =>
      rw [if_pos hlt] at h
      apply ih
      omega
    . omega

theorem pow_lt_of_lt_bucketFrom {valueUs behind bucket index : Nat} (hle : bucket ≤ index)
    (h : index < bucketFrom valueUs behind bucket) : 2 ^ index < valueUs := by
  induction behind generalizing bucket with
  | zero =>
    unfold bucketFrom at h
    omega
  | succ behind ih =>
    unfold bucketFrom at h
    split at h
    . next hlt =>
      cases Nat.lt_or_eq_of_le hle with
      | inl hahead => exact ih hahead h
      | inr heq => exact heq ▸ hlt
    . omega

theorem bucketOf_lt (valueUs : Nat) : bucketOf valueUs < 32 := by
  have := bucketFrom_le valueUs 31 0
  unfold bucketOf
  omega

theorem le_pow_bucketOf {valueUs : Nat} (h : bucketOf valueUs < 31)
    : valueUs ≤ 2 ^ bucketOf valueUs := by
  apply le_pow_bucketFrom
  unfold bucketOf at h
  omega

theorem pow_lt_of_lt_bucketOf {valueUs index : Nat} (h : index < bucketOf valueUs)
    : 2 ^ index < valueUs :=
  pow_lt_of_lt_bucketFrom (Nat.zero_le index) h

theorem bucketOf_mono (a b : Nat) (hab : a ≤ b) : bucketOf a ≤ bucketOf b := by
  by_contra hlt
  have hpow := pow_lt_of_lt_bucketOf (Nat.lt_of_not_le hlt)
  have hlast := bucketOf_lt a
  have := le_pow_bucketOf (show bucketOf b < 31 by omega)
  omega

theorem buckets_observe (past : List Nat) (valueUs : Nat)
    : (Ranking.bucketCounts bucketOf past 32).modify (bucketOf valueUs) (fun count => count + 1)
        = Ranking.bucketCounts bucketOf (past ++ [valueUs]) 32 := by
  apply List.ext_getElem?
  intro index
  simp only [Ranking.bucketCounts, List.getElem?_modify, List.getElem?_map, List.countP_append]
  by_cases hindex : index < 32
  . simp only [List.getElem?_range hindex]
    by_cases heq : bucketOf valueUs = index
    . simp [heq]
    . simp [heq]
  . simp [hindex]

theorem recorded_eq (latencies : List Nat)
    : recorded latencies
        = { buckets := Ranking.bucketCounts bucketOf latencies 32
            samples := latencies.length
            maximumUs := latencies.foldl max 0 } := by
  unfold recorded
  induction latencies using List.reverseRecOn with
  | nil => rfl
  | append_singleton past valueUs ih =>
    rw [List.foldl_append, ih, List.foldl_cons, List.foldl_nil]
    simp only [observe, buckets_observe, List.length_append, List.length_singleton,
      List.foldl_append, List.foldl_cons, List.foldl_nil]

theorem target_eq (histogram : LatencyHistogram) (percent : Nat)
    : histogram.target percent = (histogram.samples * percent + 99) / 100 := by
  unfold target
  have hsplit := Nat.div_add_mod histogram.samples 100
  have hmul : histogram.samples * percent
      = 100 * (histogram.samples / 100 * percent) + histogram.samples % 100 * percent := by
    rw [← Nat.mul_assoc, ← Nat.add_mul, hsplit]
  omega

-- The rank of a percentile is one of an element, as long as there is an element.
theorem rank_lt {count percent : Nat} (hcount : 0 < count) (hpercent : 1 ≤ percent)
    (hmost : percent ≤ 100)
    : 0 < (count * percent + 99) / 100 ∧ (count * percent + 99) / 100 ≤ count := by
  have hlow := Nat.mul_le_mul_left count hpercent
  have hhigh := Nat.mul_le_mul_left count hmost
  omega

theorem rank_lt_length {latencies : List Nat} (h : latencies ≠ []) {percent : Nat}
    (hpercent : 1 ≤ percent) (hmost : percent ≤ 100)
    : (latencies.length * percent + 99) / 100 - 1 < (Ranking.ascending latencies).length := by
  have hrank := rank_lt (List.length_pos_iff.mpr h) hpercent hmost
  rw [Ranking.length_ascending]
  omega

theorem nearestRank_eq {latencies : List Nat} {percent : Nat}
    (h : (latencies.length * percent + 99) / 100 - 1 < (Ranking.ascending latencies).length)
    : nearestRank latencies percent
        = (Ranking.ascending latencies)[(latencies.length * percent + 99) / 100 - 1] := by
  unfold nearestRank
  rw [List.getD_eq_getElem?_getD, List.getElem?_eq_getElem h, Option.getD_some]

theorem percentile_eq {latencies : List Nat} (h : latencies ≠ []) {percent : Nat}
    (hpercent : 1 ≤ percent) (hmost : percent ≤ 100)
    : (recorded latencies).percentile percent
        = min (2 ^ bucketOf (nearestRank latencies percent)) (latencies.foldl max 0) := by
  have hrank := rank_lt (List.length_pos_iff.mpr h) hpercent hmost
  have hlt := rank_lt_length h hpercent hmost
  have hscan := Ranking.firstReaching_bucketCounts bucketOf_mono latencies hlt (bucketOf_lt _)
  rw [Nat.sub_add_cancel hrank.1, ← nearestRank_eq hlt] at hscan
  unfold percentile
  rw [target_eq, recorded_eq]
  simp only [hscan, List.length_eq_zero_iff, if_neg h]

theorem nearestRank_mono {latencies : List Nat} (h : latencies ≠ []) {low high : Nat}
    (hlow : 1 ≤ low) (hle : low ≤ high) (hhigh : high ≤ 100)
    : nearestRank latencies low ≤ nearestRank latencies high := by
  rw [nearestRank_eq (rank_lt_length h hlow (by omega)),
    nearestRank_eq (rank_lt_length h (by omega) hhigh)]
  apply Ranking.getElem_le_getElem (Ranking.ascending_pairwise latencies)
  have := Nat.mul_le_mul_left latencies.length hle
  omega

theorem le_foldl_max {xs : List Nat} {least x : Nat} (h : x = least ∨ x ∈ xs)
    : x ≤ xs.foldl max least := by
  induction xs generalizing least x with
  | nil =>
    cases h with
    | inl heq => exact Nat.le_of_eq heq
    | inr hmem => contradiction
  | cons first xs ih =>
    rw [List.foldl_cons]
    rw [List.mem_cons] at h
    rcases h with heq | heq | hmem
    . exact Nat.le_trans (heq ▸ Nat.le_max_left least first) (ih (Or.inl rfl))
    . exact Nat.le_trans (heq ▸ Nat.le_max_right least first) (ih (Or.inl rfl))
    . exact ih (Or.inr hmem)

theorem nearestRank_le_maximum {latencies : List Nat} (h : latencies ≠ []) {percent : Nat}
    (hpercent : 1 ≤ percent) (hmost : percent ≤ 100)
    : nearestRank latencies percent ≤ latencies.foldl max 0 := by
  rw [nearestRank_eq (rank_lt_length h hpercent hmost)]
  apply le_foldl_max
  right
  rw [← (Ranking.ascending_perm latencies).mem_iff]
  apply List.getElem_mem

theorem nearestRank_le_pow {latencies : List Nat} {percent : Nat}
    (h : nearestRank latencies percent ≤ 2 ^ 31)
    : nearestRank latencies percent ≤ 2 ^ bucketOf (nearestRank latencies percent) := by
  cases Nat.lt_or_ge (bucketOf (nearestRank latencies percent)) 31 with
  | inl hinner => exact le_pow_bucketOf hinner
  | inr hlast => exact Nat.le_trans h (Nat.pow_le_pow_right (by omega) hlast)

theorem pow_bucketOf_lt {valueUs : Nat} (h : 0 < valueUs) : 2 ^ bucketOf valueUs < 2 * valueUs := by
  cases hbucket : bucketOf valueUs with
  | zero => omega
  | succ bucket =>
    have := pow_lt_of_lt_bucketOf (show bucket < bucketOf valueUs by omega)
    omega

/--
The last bucket has no upper bound, so a percentile above 2 ^ 31 is read as 2 ^ 31 from it. The
first one holds the latencies of zero as well, so a percentile of zero may be read as one.
-/
theorem percentile_within_double (latencies : List Nat) (percent : Nat) (hpercent : 1 ≤ percent)
    (hmost : percent ≤ 100)
    : (nearestRank latencies percent ≤ 2 ^ 31
          → nearestRank latencies percent ≤ (recorded latencies).percentile percent)
        ∧ (recorded latencies).percentile percent ≤ 2 * nearestRank latencies percent + 1
        ∧ (0 < nearestRank latencies percent
          → (recorded latencies).percentile percent < 2 * nearestRank latencies percent)
        ∧ (recorded latencies).percentile percent ≤ latencies.foldl max 0
        ∧ ∀ higher, percent ≤ higher → higher ≤ 100
          → (recorded latencies).percentile percent ≤ (recorded latencies).percentile higher := by
  by_cases h : latencies = []
  . have hempty : ∀ p, (recorded latencies).percentile p = 0 := by
      intro p
      rw [h]
      rfl
    have hrank : nearestRank latencies percent = 0 := by
      rw [h]
      rfl
    simp [hempty, hrank]
  . rw [percentile_eq h hpercent hmost]
    have hmaximum := nearestRank_le_maximum h hpercent hmost
    refine ⟨?_, ?_, ?_, Nat.min_le_right _ _, ?_⟩
    . intro hbound
      exact Nat.le_min.mpr ⟨nearestRank_le_pow hbound, hmaximum⟩
    . cases Nat.eq_zero_or_pos (nearestRank latencies percent) with
      | inl hzero =>
        rw [hzero]
        exact Nat.min_le_left _ _
      | inr hpos =>
        have := pow_bucketOf_lt hpos
        omega
    . intro hpos
      exact Nat.lt_of_le_of_lt (Nat.min_le_left _ _) (pow_bucketOf_lt hpos)
    . intro higher hle hhigh
      rw [percentile_eq h (Nat.le_trans hpercent hle) hhigh]
      have hbucket := bucketOf_mono _ _ (nearestRank_mono h hpercent hle hhigh)
      have hpow := Nat.pow_le_pow_right (show 0 < 2 by omega) hbucket
      omega

theorem percentile_within_double_latencies
    : let latencies := [3, 900, 17, 250, 4]
      (recorded latencies).percentile 50 ≤ 2 * nearestRank latencies 50 + 1
        ∧ (recorded latencies).percentile 50 ≤ (recorded latencies).percentile 99 := by
  have h := percentile_within_double [3, 900, 17, 250, 4] 50 (by decide) (by decide)
  exact ⟨h.2.1, h.2.2.2.2 99 (by decide) (by decide)⟩

theorem percentile_misses_ends
    : ¬ (recorded [0, 5]).percentile 50 < 2 * nearestRank [0, 5] 50 + 1
        ∧ ¬ nearestRank [2 ^ 32] 50 ≤ (recorded [2 ^ 32]).percentile 50 := by
  decide +kernel

end LatencyHistogram

end Peraviz.Dmx
