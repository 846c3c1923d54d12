import Peraviz.Checked.OptionFold
import Peraviz.Dmx.Binding.Impl

/-!
This module contains the exact condition under which every index of every binding is a slot of its
universe: the fine bytes are sanitized, the coarse ones are not.
-/

namespace Peraviz.Dmx

open CheckedInt

/-- The index is a slot of a universe, or there is none. -/
def IndexInside (index : Int32) : Prop :=
  index = -1 ∨ (0 ≤ index ∧ index < 512)

structure FixtureAttributeChannel.Inside (channel : FixtureAttributeChannel) : Prop where
  coarse : IndexInside channel.coarse
  fine : IndexInside channel.fine
  ultraFine : IndexInside channel.ultraFine

structure FixtureGoboWheelBinding.Inside (wheel : FixtureGoboWheelBinding) : Prop where
  channel : wheel.channel.Inside
  indexChannel : wheel.indexChannel.Inside
  rotationChannel : wheel.rotationChannel.Inside

structure FixtureControlBinding.Inside (binding : FixtureControlBinding) : Prop where
  channels : ∀ a, (binding.channels a).Inside
  goboWheels : ∀ wheel ∈ binding.goboWheels, wheel.Inside

/-! ### Conditions on the patch and its offsets -/

/-- An offset that can be moved to the address of the patch without an overflow. -/
def OffsetDefined (patch : FixturePatch) (offset : Int32) : Prop :=
  offset.toInt ≤ 0 ∨ patch.mvrAddress.toInt + offset.toInt - 2 < 2147483648

structure ChannelOffsets.Defined (patch : FixturePatch) (offsets : ChannelOffsets) : Prop where
  coarse : OffsetDefined patch offsets.coarse
  fine : OffsetDefined patch offsets.fine
  ultraFine : OffsetDefined patch offsets.ultraFine

/-- The slot of a byte, `-1` where there is none. -/
def slotOf (patch : FixturePatch) (offset : Int32) : Int :=
  if offset.toInt ≤ 0 then -1 else patch.mvrAddress.toInt + offset.toInt - 2

/-- The coarse byte lies in the universe of the patch, or there is none. -/
def ChannelOffsets.CoarseInside (patch : FixturePatch) (offsets : ChannelOffsets) : Prop :=
  offsets.coarse.toInt ≤ 0 ∨ patch.mvrAddress.toInt + offsets.coarse.toInt - 2 < 512

/-- The coarse byte is there and lies in the universe of the patch. -/
def ChannelOffsets.CoarseInRange (patch : FixturePatch) (offsets : ChannelOffsets) : Prop :=
  0 < offsets.coarse.toInt ∧ patch.mvrAddress.toInt + offsets.coarse.toInt - 2 < 512

namespace FixtureGoboWheelOffset

def channels (wheel : FixtureGoboWheelOffset) : List ChannelOffsets :=
  [wheel.select, wheel.index, wheel.rotation]

end FixtureGoboWheelOffset

namespace FixtureControlOffsets

/-- A channel of a control or of a gobo wheel. -/
def HasChannel (offsets : FixtureControlOffsets) (channel : ChannelOffsets) : Prop :=
  (∃ a, offsets.offsets a = channel) ∨ ∃ wheel ∈ offsets.goboWheels, channel ∈ wheel.channels

/-- The offset of a byte of a channel of a gobo wheel. -/
def TakenByWheel (offsets : FixtureControlOffsets) (offset : Int32) : Prop :=
  ∃ wheel ∈ offsets.goboWheels, ∃ channel ∈ wheel.channels,
    offset ∈ [channel.coarse, channel.fine, channel.ultraFine]

/-- A control that counts, or the selection of a wheel, has its coarse byte in range. A zoom that
starts on a byte of a gobo wheel does not count. -/
def Accepted (patch : FixturePatch) (offsets : FixtureControlOffsets) : Prop :=
  (∃ a ∈ Attribute.accepting, (offsets.offsets a).CoarseInRange patch ∧
      (a = .zoom → ¬ offsets.TakenByWheel (offsets.offsets a).coarse))
    ∨ ∃ wheel ∈ offsets.goboWheels, wheel.select.CoarseInRange patch

end FixtureControlOffsets

/-- The patch passes the checks in front of the offsets. -/
structure FixturePatch.Resolves (resolve : String → String → Except String FixtureControlOffsets)
    (patch : FixturePatch) (offsets : FixtureControlOffsets) : Prop where
  uuid : patch.fixtureUuid ≠ ""
  mvrUniverse : 0 < patch.mvrUniverse.toInt
  mvrAddress : 0 < patch.mvrAddress.toInt ∧ patch.mvrAddress.toInt ≤ 512
  mode : patch.dmxMode ≠ ""
  path : patch.gdtfPath ≠ ""
  resolved : resolve patch.gdtfPath patch.dmxMode = .ok offsets

/-- No addition overflows, and if the fixture is bound, no coarse byte lies behind its universe. -/
structure FixturePatch.Fits (patch : FixturePatch) (universeOffset : Int32)
    (offsets : FixtureControlOffsets) : Prop where
  artnetUniverse : -2147483648 ≤ patch.mvrUniverse.toInt + universeOffset.toInt ∧
    patch.mvrUniverse.toInt + universeOffset.toInt < 2147483648
  defined : ∀ channel, offsets.HasChannel channel → channel.Defined patch
  coarse : offsets.Accepted patch → ∀ channel, offsets.HasChannel channel →
    channel.CoarseInside patch

/-! ### Indices -/

theorem toInt_zero : (0 : Int32).toInt = 0 := rfl

theorem toInt_one : (1 : Int32).toInt = 1 := rfl

theorem toInt_minusOne : (-1 : Int32).toInt = -1 := rfl

theorem toInt_slots : (512 : Int32).toInt = 512 := rfl

theorem isValidChannelIndex_iff {index : Int32}
    : isValidChannelIndex index = true ↔ 0 ≤ index.toInt ∧ index.toInt < 512 := by
  simp only [isValidChannelIndex, Bool.and_eq_true, decide_eq_true_eq, Int32.le_iff_toInt_le,
    Int32.lt_iff_toInt_lt, toInt_zero, toInt_slots]

theorem indexInside_iff {index : Int32}
    : IndexInside index ↔ -1 ≤ index.toInt ∧ index.toInt < 512 := by
  rw [IndexInside, ← Int32.toInt_inj, Int32.le_iff_toInt_le, Int32.lt_iff_toInt_lt, toInt_zero,
    toInt_slots, toInt_minusOne]
  omega

theorem indexInside_sanitizeIndex {index : Int32} (h : -1 ≤ index.toInt)
    : IndexInside (sanitizeIndex index) := by
  rw [indexInside_iff, sanitizeIndex]
  split
  next =>
    rw [toInt_minusOne]
    omega
  next hnot =>
    simp only [Bool.and_eq_true, decide_eq_true_eq, Bool.not_eq_true', not_and,
      Int32.le_iff_toInt_le, toInt_zero, Bool.not_eq_false, isValidChannelIndex_iff] at hnot
    omega

section

variable {patch : FixturePatch}

theorem le_slotOf (haddress : 0 < patch.mvrAddress.toInt) (offset : Int32)
    : -1 ≤ slotOf patch offset := by
  unfold slotOf
  split
  next => omega
  next => omega

variable (haddress : 0 < patch.mvrAddress.toInt ∧ patch.mvrAddress.toInt ≤ 512)
include haddress

theorem toChannelIndex0_of_offset {offset : Int32} (h : OffsetDefined patch offset)
    : Defined (toChannelIndex0 patch offset) (fun index => index.toInt = slotOf patch offset) := by
  have hlt := offset.toInt_lt
  unfold toChannelIndex0 slotOf
  simp only [Int32.le_iff_toInt_le, toInt_zero]
  split
  next => exact Defined.pure rfl
  next hpositive =>
    rw [OffsetDefined] at h
    apply Defined.bind (defined_subChecked (by rw [toInt_one]; omega))
    intro base hbase
    apply Defined.bind (defined_subChecked (by rw [toInt_one]; omega))
    intro step hstep
    rw [toInt_one] at hbase hstep
    apply Defined.mono (defined_addChecked (by omega))
    intro index hindex
    omega

theorem offsetDefined_of_isSome {offset : Int32} (h : (toChannelIndex0 patch offset).isSome)
    : OffsetDefined patch offset := by
  unfold toChannelIndex0 at h
  simp only [Int32.le_iff_toInt_le, toInt_zero] at h
  split at h
  next hle => exact .inl hle
  next hpositive =>
    have hlt := offset.toInt_lt
    have hbase := @defined_subChecked patch.mvrAddress 1 (by rw [toInt_one]; omega)
    have hstep := @defined_subChecked offset 1 (by rw [toInt_one]; omega)
    obtain ⟨base, hbase, hbaseInt⟩ := hbase
    obtain ⟨step, hstep, hstepInt⟩ := hstep
    rw [toInt_one] at hbaseInt hstepInt
    rw [hbase, hstep, Option.bind_eq_bind, Option.bind_some, Option.bind_some, addChecked,
      narrow] at h
    split at h
    next hfits =>
      right
      omega
    next => contradiction

theorem toChannelIndex0_isSome_iff {offset : Int32}
    : (toChannelIndex0 patch offset).isSome ↔ OffsetDefined patch offset := by
  constructor
  . intro h
    exact offsetDefined_of_isSome haddress h
  . intro h
    have hdefined := toChannelIndex0_of_offset haddress h
    obtain ⟨index, hindex, _⟩ := hdefined
    rw [hindex]
    rfl

theorem toInt_of_toChannelIndex0 {offset index : Int32}
    (h : toChannelIndex0 patch offset = some index)
    : index.toInt = slotOf patch offset := by
  have hdefined := (toChannelIndex0_isSome_iff haddress).mp (by rw [h]; rfl)
  obtain ⟨other, hother, hvalue⟩ := toChannelIndex0_of_offset haddress hdefined
  rw [h] at hother
  rw [Option.some.inj hother]
  exact hvalue

/-! ### Channels -/

theorem toChannelBinding_isSome_iff {offsets : ChannelOffsets}
    : (toChannelBinding patch offsets).isSome ↔ offsets.Defined patch := by
  have hcoarse := @toChannelIndex0_isSome_iff _ haddress offsets.coarse
  have hfine := @toChannelIndex0_isSome_iff _ haddress offsets.fine
  have hultraFine := @toChannelIndex0_isSome_iff _ haddress offsets.ultraFine
  unfold toChannelBinding
  constructor
  . intro h
    cases hc : toChannelIndex0 patch offsets.coarse with
    | none => simp [hc] at h
    | some coarse =>
      cases hf : toChannelIndex0 patch offsets.fine with
      | none => simp [hc, hf] at h
      | some fine =>
        cases hu : toChannelIndex0 patch offsets.ultraFine with
        | none => simp [hc, hf, hu] at h
        | some ultraFine =>
          rw [hc] at hcoarse
          rw [hf] at hfine
          rw [hu] at hultraFine
          exact ⟨hcoarse.mp rfl, hfine.mp rfl, hultraFine.mp rfl⟩
  . intro h
    obtain ⟨coarse, hc⟩ := Option.isSome_iff_exists.mp (hcoarse.mpr h.coarse)
    obtain ⟨fine, hf⟩ := Option.isSome_iff_exists.mp (hfine.mpr h.fine)
    obtain ⟨ultraFine, hu⟩ := Option.isSome_iff_exists.mp (hultraFine.mpr h.ultraFine)
    rw [hc, hf, hu]
    rfl

omit haddress

/-- The channel has the slots of its offsets. -/
structure MovedTo (patch : FixturePatch) (offsets : ChannelOffsets)
    (channel : FixtureAttributeChannel) : Prop where
  coarse : channel.coarse.toInt = slotOf patch offsets.coarse
  fine : channel.fine.toInt = slotOf patch offsets.fine
  ultraFine : channel.ultraFine.toInt = slotOf patch offsets.ultraFine

/-- There is no index below `-1`. -/
structure FixtureAttributeChannel.Bounded (channel : FixtureAttributeChannel) : Prop where
  coarse : -1 ≤ channel.coarse.toInt
  fine : -1 ≤ channel.fine.toInt
  ultraFine : -1 ≤ channel.ultraFine.toInt

include haddress in
theorem movedTo_of_toChannelBinding {offsets : ChannelOffsets}
    {channel : FixtureAttributeChannel} (h : toChannelBinding patch offsets = some channel)
    : MovedTo patch offsets channel := by
  unfold toChannelBinding at h
  obtain ⟨coarse, hcoarse, h⟩ := Option.bind_eq_some_iff.mp h
  obtain ⟨fine, hfine, h⟩ := Option.bind_eq_some_iff.mp h
  obtain ⟨ultraFine, hultraFine, h⟩ := Option.bind_eq_some_iff.mp h
  cases h
  constructor
  . exact toInt_of_toChannelIndex0 haddress hcoarse
  . exact toInt_of_toChannelIndex0 haddress hfine
  . exact toInt_of_toChannelIndex0 haddress hultraFine

theorem MovedTo.bounded (haddress : 0 < patch.mvrAddress.toInt) {offsets : ChannelOffsets}
    {channel : FixtureAttributeChannel} (h : MovedTo patch offsets channel)
    : channel.Bounded := by
  constructor
  . rw [h.coarse]
    exact le_slotOf haddress _
  . rw [h.fine]
    exact le_slotOf haddress _
  . rw [h.ultraFine]
    exact le_slotOf haddress _

theorem sanitizeChannelBinding_inside_iff {channel : FixtureAttributeChannel}
    (h : channel.Bounded)
    : (sanitizeChannelBinding channel).Inside ↔ channel.coarse.toInt < 512 := by
  constructor
  . intro hinside
    exact (indexInside_iff.mp hinside.coarse).2
  . intro hcoarse
    constructor
    . exact indexInside_iff.mpr ⟨h.coarse, hcoarse⟩
    . exact indexInside_sanitizeIndex h.fine
    . exact indexInside_sanitizeIndex h.ultraFine

theorem MovedTo.coarse_lt_iff {offsets : ChannelOffsets} {channel : FixtureAttributeChannel}
    (h : MovedTo patch offsets channel)
    : channel.coarse.toInt < 512 ↔ offsets.CoarseInside patch := by
  rw [h.coarse, slotOf, ChannelOffsets.CoarseInside]
  split
  next => omega
  next => omega

theorem MovedTo.isValid_iff (haddress : 0 < patch.mvrAddress.toInt) {offsets : ChannelOffsets}
    {channel : FixtureAttributeChannel} (h : MovedTo patch offsets channel)
    : isValidChannelIndex channel.coarse = true ↔ offsets.CoarseInRange patch := by
  rw [isValidChannelIndex_iff, h.coarse, slotOf, ChannelOffsets.CoarseInRange]
  split
  next => omega
  next => omega

end

end Peraviz.Dmx
