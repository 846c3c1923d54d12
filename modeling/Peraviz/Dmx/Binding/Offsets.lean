import Mathlib.Data.List.Induction
import Peraviz.Checked.OptionFold
import Peraviz.Dmx.Binding.Types
import Peraviz.Gdtf.Xml

/-!
This module contains the merge of the offset lists of all channels of one attribute. Each byte is
merged for itself, so the module proves exactly when the bytes that are left belong to one channel.
-/

namespace Peraviz.Dmx

open CheckedInt Peraviz.Gdtf

inductive ByteDepth where
  | coarse | fine | ultraFine
  deriving DecidableEq

def ByteDepth.toNat : ByteDepth → Nat
  | coarse => 1
  | fine => 2
  | ultraFine => 3

/-- The recorded offset gives way to a lower one, and an unset one to any. -/
def lowerOffset (recorded : Int32) : Option Int32 → Int32
  | none => recorded
  | some offset => if recorded ≤ 0 ∨ offset < recorded then offset else recorded

/-- Where the fine byte stands in the list of a channel whose attribute names a byte. -/
def fineOffsetIndex (offsets : List Int32) (byteIndex : Int32) : Nat :=
  if 2 ≤ byteIndex ∧ (byteIndex.toInt - 1).toNat < offsets.length then (byteIndex.toInt - 1).toNat
  else if 1 < offsets.length then 1
  else 0

def consumeOffsets (offsets : List Int32) (isFine : Bool) (byteIndex : Int32)
    (target : ChannelOffsets) : ChannelOffsets :=
  if offsets = [] then target
  else if isFine then
    let index := fineOffsetIndex offsets byteIndex
    { target with
      fine := lowerOffset target.fine offsets[index]?
      ultraFine := lowerOffset target.ultraFine offsets[index + 1]? }
  else
    { coarse := lowerOffset target.coarse offsets[0]?
      fine := lowerOffset target.fine offsets[1]?
      ultraFine := lowerOffset target.ultraFine offsets[2]? }

def consumeOffsetsWithDepth (offsets : List Int32) (isFine : Bool) (byteIndex : Int32)
    (byteDepth : ByteDepth) (target : ChannelOffsets) : ChannelOffsets :=
  let consumed := consumeOffsets offsets isFine byteIndex target
  { consumed with
    fine := if byteDepth.toNat < ByteDepth.fine.toNat then -1 else consumed.fine
    ultraFine := if byteDepth.toNat < ByteDepth.ultraFine.toNat then -1 else consumed.ultraFine }

/-- A channel whose attribute names no fine byte. Its offsets are positive, as they are parsed. -/
structure CoarseChannel where
  offsets : List Int32
  positive : ∀ offset ∈ offsets, 0 < offset.toInt
  byteIndex : Int32

namespace CoarseChannel

/-- The first three offsets, an entry that is missing is unset. -/
def channelOffsets (channel : CoarseChannel) : ChannelOffsets where
  coarse := channel.offsets[0]?.getD (-1)
  fine := channel.offsets[1]?.getD (-1)
  ultraFine := channel.offsets[2]?.getD (-1)

/-- No channel has a lower offset at the place, or one where this channel has none. -/
def LeastAt (channels : List CoarseChannel) (place : Nat) (channel : CoarseChannel) : Prop :=
  ∀ other ∈ channels, ∀ offset, other.offsets[place]? = some offset →
    ∃ least, channel.offsets[place]? = some least ∧ least.toInt ≤ offset.toInt

end CoarseChannel

/-- What is left of all channels of one attribute at full depth. -/
def consumeAll (channels : List CoarseChannel) : ChannelOffsets :=
  channels.foldl (fun target channel =>
    consumeOffsetsWithDepth channel.offsets false channel.byteIndex .ultraFine target) {}

/-- The offsets are those of one channel, which starts at the lowest first offset. Without any
offset all are unset. -/
def Together (channels : List CoarseChannel) (target : ChannelOffsets) : Prop :=
  ((∀ channel ∈ channels, channel.offsets = []) ∧ target = {})
    ∨ ∃ channel ∈ channels, channel.offsets ≠ [] ∧ channel.LeastAt channels 0
      ∧ target = channel.channelOffsets

-- A number behind `INT_MAX` is not narrowed, so that the filter of the parser carries over.
theorem positive_of_parseOffsets {rawOffset : String} {offsets : List Int32}
    (h : parseOffsets rawOffset = some offsets) : ∀ offset ∈ offsets, 0 < offset.toInt := by
  have hparsed : ∀ n ∈ (offsetPieces rawOffset).filterMap offsetValue, 0 < n := by
    intro n hn
    obtain ⟨piece, _, hvalue⟩ := List.mem_filterMap.mp hn
    unfold offsetValue at hvalue
    split at hvalue
    next => contradiction
    next => exact of_decide_eq_true (Option.filter_eq_some_iff.mp hvalue).2
  have hsame : ∀ n offset, narrow n = some offset → (0 < n ↔ 0 < offset.toInt) := by
    intro n offset hnarrow
    rw [narrow_eq_some hnarrow]
  exact (OptionFold.forall_mem_iff_of_forall₂ (OptionFold.forall₂_of_mapM h) hsame).mp hparsed

/-- Every list that is parsed is that of a channel. -/
theorem exists_coarseChannel {rawOffset : String} {offsets : List Int32}
    (h : parseOffsets rawOffset = some offsets) (byteIndex : Int32)
    : ∃ channel : CoarseChannel, channel.offsets = offsets ∧ channel.byteIndex = byteIndex :=
  ⟨⟨offsets, positive_of_parseOffsets h, byteIndex⟩, rfl, rfl⟩

/-! ### One byte -/

/-- The lowest of the offsets that are there, `-1` where there is none. -/
def IsLowest (candidates : List (Option Int32)) (offset : Int32) : Prop :=
  (offset = -1 ∧ ∀ candidate ∈ candidates, candidate = none)
    ∨ (0 < offset.toInt ∧ some offset ∈ candidates
      ∧ ∀ other, some other ∈ candidates → offset.toInt ≤ other.toInt)

theorem isLowest_nil : IsLowest [] (-1) :=
  .inl ⟨rfl, fun _ h => absurd h List.not_mem_nil⟩

theorem isLowest_concat {candidates : List (Option Int32)} {recorded : Int32}
    {candidate : Option Int32} (hpositive : ∀ offset, candidate = some offset → 0 < offset.toInt)
    (h : IsLowest candidates recorded)
    : IsLowest (candidates ++ [candidate]) (lowerOffset recorded candidate) := by
  have hzero : (0 : Int32).toInt = 0 := rfl
  cases candidate with
  | none =>
    cases h with
    | inl h =>
      left
      refine ⟨h.1, ?_⟩
      intro other hother
      cases List.mem_append.mp hother with
      | inl hother => exact h.2 other hother
      | inr hother => exact List.mem_singleton.mp hother
    | inr h =>
      right
      refine ⟨h.1, List.mem_append_left _ h.2.1, ?_⟩
      intro other hother
      apply h.2.2
      simpa using hother
  | some offset =>
    right
    have hoffset := hpositive offset rfl
    unfold lowerOffset
    simp only [Int32.le_iff_toInt_le, Int32.lt_iff_toInt_lt, hzero]
    cases h with
    | inl h =>
      have hunset : recorded.toInt = -1 := by
        rw [h.1]
        rfl
      rw [if_pos (by omega)]
      refine ⟨hoffset, by simp, ?_⟩
      intro other hother
      cases List.mem_append.mp hother with
      | inl hother => exact absurd (h.2 _ hother) (by simp)
      | inr hother =>
        have heq : other.toInt = offset.toInt :=
          congrArg Int32.toInt (Option.some.inj (List.mem_singleton.mp hother))
        omega
    | inr h =>
      have hlowest : ∀ other, some other ∈ candidates ++ [some offset] →
          recorded.toInt ≤ other.toInt ∨ other = offset := by
        intro other hother
        cases List.mem_append.mp hother with
        | inl hother => exact .inl (h.2.2 other hother)
        | inr hother => exact .inr (Option.some.inj (List.mem_singleton.mp hother))
      split
      next hlower =>
        refine ⟨hoffset, by simp, ?_⟩
        intro other hother
        have hcases := hlowest other hother
        have hpositive := h.1
        cases hcases with
        | inl hle => omega
        | inr heq =>
          have hvalue := congrArg Int32.toInt heq
          omega
      next hnot =>
        refine ⟨h.1, List.mem_append_left _ h.2.1, ?_⟩
        intro other hother
        cases hlowest other hother with
        | inl hle => exact hle
        | inr heq =>
          have hvalue := congrArg Int32.toInt heq
          omega

theorem isLowest_foldl {candidates : List (Option Int32)}
    (hpositive : ∀ offset, some offset ∈ candidates → 0 < offset.toInt)
    : IsLowest candidates (candidates.foldl lowerOffset (-1)) := by
  induction candidates using List.reverseRecOn with
  | nil => exact isLowest_nil
  | append_singleton candidates candidate ih =>
    rw [List.foldl_concat]
    apply isLowest_concat
    . intro offset hoffset
      apply hpositive
      simp [hoffset]
    . apply ih
      intro offset hoffset
      exact hpositive offset (List.mem_append_left _ hoffset)

/-! ### One channel -/

section

variable {channels : List CoarseChannel}

def candidatesAt (channels : List CoarseChannel) (place : Nat) : List (Option Int32) :=
  channels.map (fun channel => channel.offsets[place]?)

theorem mem_candidatesAt {place : Nat} {offset : Int32}
    : some offset ∈ candidatesAt channels place
        ↔ ∃ channel ∈ channels, channel.offsets[place]? = some offset := by
  rw [candidatesAt, List.mem_map]

theorem consumeOffsetsWithDepth_coarse (channel : CoarseChannel) (target : ChannelOffsets)
    : consumeOffsetsWithDepth channel.offsets false channel.byteIndex .ultraFine target
        = { coarse := lowerOffset target.coarse channel.offsets[0]?
            fine := lowerOffset target.fine channel.offsets[1]?
            ultraFine := lowerOffset target.ultraFine channel.offsets[2]? } := by
  unfold consumeOffsetsWithDepth consumeOffsets
  cases channel.offsets with
  | nil => rfl
  | cons first rest => rfl

theorem consumeAll_eq (channels : List CoarseChannel)
    : consumeAll channels
        = { coarse := (candidatesAt channels 0).foldl lowerOffset (-1)
            fine := (candidatesAt channels 1).foldl lowerOffset (-1)
            ultraFine := (candidatesAt channels 2).foldl lowerOffset (-1) } := by
  unfold consumeAll candidatesAt
  induction channels using List.reverseRecOn with
  | nil => rfl
  | append_singleton channels channel ih =>
    rw [List.foldl_concat, ih, consumeOffsetsWithDepth_coarse]
    simp only [List.map_append, List.map_cons, List.map_nil, List.foldl_concat]

theorem isLowest_candidatesAt (channels : List CoarseChannel) (place : Nat)
    : IsLowest (candidatesAt channels place)
        ((candidatesAt channels place).foldl lowerOffset (-1)) := by
  apply isLowest_foldl
  intro offset hoffset
  obtain ⟨channel, _, hoffset⟩ := mem_candidatesAt.mp hoffset
  exact channel.positive offset (List.mem_of_getElem? hoffset)

/-- A merged byte is that of a channel exactly when no other channel has a lower one there. -/
theorem lowest_eq_iff {channel : CoarseChannel} (hmem : channel ∈ channels) {place : Nat}
    {offset : Int32} (h : IsLowest (candidatesAt channels place) offset)
    : offset = channel.offsets[place]?.getD (-1) ↔ channel.LeastAt channels place := by
  have hminus : (-1 : Int32).toInt = -1 := rfl
  cases h with
  | inl h =>
    have hnone : ∀ other ∈ channels, other.offsets[place]? = none := by
      intro other hother
      exact h.2 _ (List.mem_map_of_mem hother)
    rw [hnone channel hmem, h.1]
    constructor
    . intro _ other hother least hleast
      rw [hnone other hother] at hleast
      contradiction
    . intro _
      rfl
  | inr h =>
    obtain ⟨lowest, hlowest, hoffset⟩ := mem_candidatesAt.mp h.2.1
    constructor
    . intro heq other hother least hleast
      cases hown : channel.offsets[place]? with
      | none =>
        rw [hown, Option.getD_none] at heq
        rw [heq, hminus] at h
        omega
      | some own =>
        rw [hown, Option.getD_some] at heq
        refine ⟨own, rfl, ?_⟩
        rw [← heq]
        exact h.2.2 least (mem_candidatesAt.mpr ⟨other, hother, hleast⟩)
    . intro hleast
      obtain ⟨own, hown, hle⟩ := hleast lowest hlowest offset hoffset
      have hge := h.2.2 own (mem_candidatesAt.mpr ⟨channel, hmem, hown⟩)
      rw [hown, Option.getD_some, ← Int32.toInt_inj]
      omega

theorem consumeAll_eq_channelOffsets_iff {channel : CoarseChannel} (hmem : channel ∈ channels)
    : consumeAll channels = channel.channelOffsets
        ↔ channel.LeastAt channels 0 ∧ channel.LeastAt channels 1
          ∧ channel.LeastAt channels 2 := by
  rw [consumeAll_eq, CoarseChannel.channelOffsets, ChannelOffsets.mk.injEq,
    lowest_eq_iff hmem (isLowest_candidatesAt channels 0),
    lowest_eq_iff hmem (isLowest_candidatesAt channels 1),
    lowest_eq_iff hmem (isLowest_candidatesAt channels 2)]

theorem consumeAll_of_empty (h : ∀ channel ∈ channels, channel.offsets = [])
    : consumeAll channels = {} := by
  unfold consumeAll
  induction channels using List.reverseRecOn with
  | nil => rfl
  | append_singleton channels channel ih =>
    rw [List.foldl_concat, ih (fun other hother => h other (List.mem_append_left _ hother)),
      h channel (by simp)]
    rfl

end

theorem positive_pair {first second : Int32} (hfirst : 0 < first.toInt)
    (hsecond : 0 < second.toInt) : ∀ offset ∈ [first, second], 0 < offset.toInt := by
  simp only [List.forall_mem_cons, List.not_mem_nil, false_implies, implies_true, and_true]
  exact ⟨hfirst, hsecond⟩

theorem positive_wideOffsets : ∀ offset ∈ ([1, 10] : List Int32), 0 < offset.toInt :=
  positive_pair (by decide) (by decide)

theorem positive_narrowOffsets : ∀ offset ∈ ([5, 6] : List Int32), 0 < offset.toInt :=
  positive_pair (by decide) (by decide)

def wideChannel : CoarseChannel where
  offsets := [1, 10]
  positive := positive_wideOffsets
  byteIndex := 1

def narrowChannel : CoarseChannel where
  offsets := [5, 6]
  positive := positive_narrowOffsets
  byteIndex := 1

end Peraviz.Dmx
