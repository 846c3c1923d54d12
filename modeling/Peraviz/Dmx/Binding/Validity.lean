import Peraviz.Checked.OptionFold
import Peraviz.Dmx.Binding.Indices

/-!
This module contains the exact condition under which every index of every binding is a slot of its
universe. It goes through the acceptance of a fixture, whose zoom gives way to the gobo wheels
first.
-/

namespace Peraviz.Dmx

open CheckedInt

/-! ### The zoom beside the gobo wheels -/

theorem mem_collectChannelIndices {channel : FixtureAttributeChannel} {index : Int32}
    : index ∈ collectChannelIndices channel
        ↔ index ∈ [channel.coarse, channel.fine, channel.ultraFine]
          ∧ isValidChannelIndex index = true := by
  rw [collectChannelIndices, List.mem_filter]

theorem isValid_of_mem_wheelIndices {wheels : List FixtureGoboWheelBinding} {index : Int32}
    (h : index ∈ wheels.flatMap wheelIndices) : isValidChannelIndex index = true := by
  obtain ⟨wheel, _, h⟩ := List.mem_flatMap.mp h
  simp only [wheelIndices, List.mem_append, mem_collectChannelIndices] at h
  cases h with
  | inl h => exact h.elim (fun h => h.2) (fun h => h.2)
  | inr h => exact h.2

section

variable {taken : List Int32} {zoom : FixtureAttributeChannel}

theorem reservedZoom_coarse
    : (reservedZoom taken zoom).coarse = if zoom.coarse ∈ taken then -1 else zoom.coarse := by
  unfold reservedZoom
  split
  next hempty =>
    rw [List.isEmpty_iff] at hempty
    rw [hempty, if_neg List.not_mem_nil]
  next =>
    split
    next h =>
      rw [if_pos (List.contains_iff_mem.mp h)]
    next h =>
      rw [if_neg (fun hmem => h (List.contains_iff_mem.mpr hmem))]

theorem reservedZoom_bounded (h : zoom.Bounded) : (reservedZoom taken zoom).Bounded := by
  unfold reservedZoom
  split
  next => exact h
  next =>
    split
    next => exact ⟨by decide, by decide, by decide⟩
    next =>
      constructor
      . exact h.coarse
      . dsimp only
        split
        next => decide
        next => exact h.fine
      . dsimp only
        split
        next => decide
        next => exact h.ultraFine

theorem reservedZoom_coarse_lt_iff (htaken : ∀ index ∈ taken, isValidChannelIndex index = true)
    : (reservedZoom taken zoom).coarse.toInt < 512 ↔ zoom.coarse.toInt < 512 := by
  rw [reservedZoom_coarse]
  split
  next h =>
    have hvalid := (isValidChannelIndex_iff.mp (htaken _ h)).2
    rw [toInt_minusOne]
    omega
  next => rfl

theorem reservedZoom_isValid_iff
    : isValidChannelIndex (reservedZoom taken zoom).coarse = true
        ↔ isValidChannelIndex zoom.coarse = true ∧ zoom.coarse ∉ taken := by
  rw [reservedZoom_coarse]
  split
  next h =>
    constructor
    . intro hvalid
      contradiction
    . intro hvalid
      exact absurd h hvalid.2
  next h =>
    constructor
    . intro hvalid
      exact ⟨hvalid, h⟩
    . intro hvalid
      exact hvalid.1

end

/-! ### One fixture -/

/-- The channels of the wheel have the slots of its offsets. -/
structure WheelMovedTo (patch : FixturePatch) (offsets : FixtureGoboWheelOffset)
    (wheel : FixtureGoboWheelBinding) : Prop where
  channel : MovedTo patch offsets.select wheel.channel
  indexChannel : MovedTo patch offsets.index wheel.indexChannel
  rotationChannel : MovedTo patch offsets.rotation wheel.rotationChannel

/-- The channels of the binding have the slots of the offsets. -/
structure BindingMovedTo (patch : FixturePatch) (offsets : FixtureControlOffsets)
    (binding : FixtureControlBinding) : Prop where
  channels : ∀ a, MovedTo patch (offsets.offsets a) (binding.channels a)
  goboWheels : List.Forall₂ (WheelMovedTo patch) offsets.goboWheels binding.goboWheels

section

variable {patch : FixturePatch} {universeOffset : Int32} {offsets : FixtureControlOffsets}
variable (haddress : 0 < patch.mvrAddress.toInt ∧ patch.mvrAddress.toInt ≤ 512)

include haddress in
theorem wheelMovedTo_of_wheelBindingOf {wheelOffset : FixtureGoboWheelOffset}
    {wheel : FixtureGoboWheelBinding} (h : wheelBindingOf patch wheelOffset = some wheel)
    : WheelMovedTo patch wheelOffset wheel := by
  unfold wheelBindingOf at h
  obtain ⟨channel, hchannel, h⟩ := Option.bind_eq_some_iff.mp h
  obtain ⟨indexChannel, hindex, h⟩ := Option.bind_eq_some_iff.mp h
  obtain ⟨rotationChannel, hrotation, h⟩ := Option.bind_eq_some_iff.mp h
  cases h
  constructor
  . exact movedTo_of_toChannelBinding haddress hchannel
  . exact movedTo_of_toChannelBinding haddress hindex
  . exact movedTo_of_toChannelBinding haddress hrotation

include haddress in
theorem wheelBindingOf_isSome_iff {wheel : FixtureGoboWheelOffset}
    : (wheelBindingOf patch wheel).isSome ↔ ∀ channel ∈ wheel.channels, channel.Defined patch := by
  have hselect := @toChannelBinding_isSome_iff _ haddress wheel.select
  have hindex := @toChannelBinding_isSome_iff _ haddress wheel.index
  have hrotation := @toChannelBinding_isSome_iff _ haddress wheel.rotation
  simp only [FixtureGoboWheelOffset.channels, List.forall_mem_cons, List.not_mem_nil,
    false_implies, implies_true, and_true, ← hselect, ← hindex, ← hrotation]
  unfold wheelBindingOf
  cases toChannelBinding patch wheel.select with
  | none => simp
  | some channel =>
    cases toChannelBinding patch wheel.index with
    | none => simp
    | some indexChannel =>
      cases toChannelBinding patch wheel.rotation with
      | none => simp
      | some rotationChannel => simp

theorem addChecked_isSome_iff {a b : Int32}
    : (addChecked a b).isSome
        ↔ -2147483648 ≤ a.toInt + b.toInt ∧ a.toInt + b.toInt < 2147483648 := by
  rw [addChecked, narrow]
  split
  next h => simp [h]
  next h => simp [h]

include haddress in
theorem bindFixture_isSome_iff
    : (bindFixture patch universeOffset offsets).isSome
        ↔ (-2147483648 ≤ patch.mvrUniverse.toInt + universeOffset.toInt
            ∧ patch.mvrUniverse.toInt + universeOffset.toInt < 2147483648)
          ∧ ∀ channel, offsets.HasChannel channel → channel.Defined patch := by
  have hchannels : (Attribute.traverse fun a => toChannelBinding patch (offsets.offsets a)).isSome
      ↔ ∀ a, (offsets.offsets a).Defined patch := by
    rw [Attribute.traverse_isSome_iff]
    exact forall_congr' (fun a => toChannelBinding_isSome_iff haddress)
  have hwheels : (offsets.goboWheels.mapM (wheelBindingOf patch)).isSome
      ↔ ∀ wheel ∈ offsets.goboWheels, ∀ channel ∈ wheel.channels, channel.Defined patch := by
    rw [OptionFold.mapM_isSome_iff]
    exact forall_congr' (fun wheel => imp_congr_right
      (fun _ => wheelBindingOf_isSome_iff haddress))
  have hall : (∀ channel, offsets.HasChannel channel → channel.Defined patch)
      ↔ (∀ a, (offsets.offsets a).Defined patch)
        ∧ ∀ wheel ∈ offsets.goboWheels, ∀ channel ∈ wheel.channels, channel.Defined patch := by
    constructor
    . intro h
      constructor
      . intro a
        exact h _ (.inl ⟨a, rfl⟩)
      . intro wheel hwheel channel hchannel
        exact h channel (.inr ⟨wheel, hwheel, hchannel⟩)
    . intro h channel hchannel
      cases hchannel with
      | inl hcontrol =>
        obtain ⟨a, ha⟩ := hcontrol
        rw [← ha]
        exact h.1 a
      | inr hwheel =>
        obtain ⟨wheel, hwheel, hchannel⟩ := hwheel
        exact h.2 wheel hwheel channel hchannel
  rw [hall, ← hchannels, ← hwheels, ← addChecked_isSome_iff]
  unfold bindFixture
  cases addChecked patch.mvrUniverse universeOffset with
  | none => simp
  | some artnetUniverseId =>
    cases Attribute.traverse fun a => toChannelBinding patch (offsets.offsets a) with
    | none => simp
    | some channels =>
      cases offsets.goboWheels.mapM (wheelBindingOf patch) with
      | none => simp
      | some goboWheels => simp

include haddress in
/-- The binding of a fixture is made of a moved one, which is reserved, tested and sanitized. -/
theorem exists_movedTo_of_bindFixture {result : Option FixtureControlBinding}
    (h : bindFixture patch universeOffset offsets = some result)
    : ∃ moved, BindingMovedTo patch offsets moved
        ∧ result = if hasChannel (reserveGoboWheelChannelsFromZoom moved)
            then some (sanitizeBinding (reserveGoboWheelChannelsFromZoom moved)) else none := by
  unfold bindFixture at h
  obtain ⟨artnetUniverseId, _, h⟩ := Option.bind_eq_some_iff.mp h
  obtain ⟨channels, hchannels, h⟩ := Option.bind_eq_some_iff.mp h
  obtain ⟨goboWheels, hwheels, h⟩ := Option.bind_eq_some_iff.mp h
  cases h
  refine ⟨_, ?_, rfl⟩
  constructor
  . intro a
    exact movedTo_of_toChannelBinding haddress (Attribute.eq_some_of_traverse hchannels a)
  . apply List.Forall₂.imp _ (OptionFold.forall₂_of_mapM hwheels)
    intro wheelOffset wheel hwheel
    exact wheelMovedTo_of_wheelBindingOf haddress hwheel

/-! ### Acceptance -/

omit haddress

theorem offset_eq_iff {offset offset' index index' : Int32}
    (h : index.toInt = slotOf patch offset) (h' : index'.toInt = slotOf patch offset')
    (hvalid : 0 ≤ index.toInt)
    : index = index' ↔ offset = offset' := by
  rw [← Int32.toInt_inj, ← Int32.toInt_inj, h, h']
  rw [h] at hvalid
  unfold slotOf at *
  split at hvalid
  next => omega
  next => split <;> omega

theorem mem_bytes_iff {offset index : Int32}
    (h : index.toInt = slotOf patch offset) (hvalid : 0 ≤ index.toInt) {source : ChannelOffsets}
    {channel : FixtureAttributeChannel} (hmoved : MovedTo patch source channel)
    : offset ∈ [source.coarse, source.fine, source.ultraFine]
        ↔ index ∈ [channel.coarse, channel.fine, channel.ultraFine] := by
  simp only [List.mem_cons, List.not_mem_nil, or_false,
    offset_eq_iff h hmoved.coarse hvalid, offset_eq_iff h hmoved.fine hvalid,
    offset_eq_iff h hmoved.ultraFine hvalid]

theorem taken_iff {binding : FixtureControlBinding}
    (hmoved : BindingMovedTo patch offsets binding) {offset index : Int32}
    (h : index.toInt = slotOf patch offset) (hvalid : isValidChannelIndex index = true)
    : offsets.TakenByWheel offset ↔ index ∈ binding.goboWheels.flatMap wheelIndices := by
  have hnonneg := (isValidChannelIndex_iff.mp hvalid).1
  rw [List.mem_flatMap]
  apply OptionFold.exists_mem_iff_of_forall₂ hmoved.goboWheels
  intro wheelOffset wheel hwheel
  simp only [FixtureGoboWheelOffset.channels, List.exists_mem_cons_iff, List.not_mem_nil,
    false_and, exists_false, or_false, wheelIndices, List.mem_append, mem_collectChannelIndices,
    hvalid, and_true, mem_bytes_iff h hnonneg hwheel.channel,
    mem_bytes_iff h hnonneg hwheel.indexChannel,
    mem_bytes_iff h hnonneg hwheel.rotationChannel, or_assoc]

theorem hasChannel_reserve_iff (hpositive : 0 < patch.mvrAddress.toInt)
    {binding : FixtureControlBinding} (hmoved : BindingMovedTo patch offsets binding)
    : hasChannel (reserveGoboWheelChannelsFromZoom binding) = true ↔ offsets.Accepted patch := by
  rw [hasChannel, Bool.or_eq_true, List.any_eq_true, List.any_eq_true,
    FixtureControlOffsets.Accepted]
  apply or_congr
  . apply exists_congr
    intro a
    apply and_congr_right
    intro _
    rw [← (hmoved.channels a).isValid_iff hpositive]
    dsimp only [reserveGoboWheelChannelsFromZoom]
    split
    next hzoom =>
      rw [hzoom, reservedZoom_isValid_iff]
      apply and_congr_right
      intro hvalid
      rw [taken_iff hmoved (hmoved.channels .zoom).coarse hvalid]
      simp
    next hzoom => simp [hzoom]
  . apply Iff.symm
    apply OptionFold.exists_mem_iff_of_forall₂ hmoved.goboWheels
    intro wheelOffset wheel hwheel
    rw [hwheel.channel.isValid_iff hpositive]

/-! ### Slots -/

theorem sanitizeWheel_inside_iff (hpositive : 0 < patch.mvrAddress.toInt)
    {wheelOffset : FixtureGoboWheelOffset} {wheel : FixtureGoboWheelBinding}
    (h : WheelMovedTo patch wheelOffset wheel)
    : (sanitizeWheel wheel).Inside ↔ ∀ channel ∈ wheelOffset.channels,
        channel.CoarseInside patch := by
  simp only [FixtureGoboWheelOffset.channels, List.forall_mem_cons, List.not_mem_nil,
    false_implies, implies_true, and_true, ← h.channel.coarse_lt_iff,
    ← h.indexChannel.coarse_lt_iff, ← h.rotationChannel.coarse_lt_iff,
    ← sanitizeChannelBinding_inside_iff (h.channel.bounded hpositive),
    ← sanitizeChannelBinding_inside_iff (h.indexChannel.bounded hpositive),
    ← sanitizeChannelBinding_inside_iff (h.rotationChannel.bounded hpositive)]
  constructor
  . intro hinside
    exact ⟨hinside.channel, hinside.indexChannel, hinside.rotationChannel⟩
  . intro hinside
    exact ⟨hinside.1, hinside.2.1, hinside.2.2⟩

theorem sanitizeChannel_reserve_inside_iff (hpositive : 0 < patch.mvrAddress.toInt)
    {binding : FixtureControlBinding} (hmoved : BindingMovedTo patch offsets binding)
    (a : Attribute)
    : (sanitizeChannelBinding ((reserveGoboWheelChannelsFromZoom binding).channels a)).Inside
        ↔ (offsets.offsets a).CoarseInside patch := by
  have hbounded := (hmoved.channels a).bounded hpositive
  rw [← (hmoved.channels a).coarse_lt_iff]
  dsimp only [reserveGoboWheelChannelsFromZoom]
  split
  next hzoom =>
    rw [hzoom] at hbounded
    rw [hzoom, sanitizeChannelBinding_inside_iff (reservedZoom_bounded hbounded)]
    apply reservedZoom_coarse_lt_iff
    intro index hindex
    exact isValid_of_mem_wheelIndices hindex
  next => exact sanitizeChannelBinding_inside_iff hbounded

theorem sanitizeBinding_inside_iff (hpositive : 0 < patch.mvrAddress.toInt)
    {binding : FixtureControlBinding} (hmoved : BindingMovedTo patch offsets binding)
    : (sanitizeBinding (reserveGoboWheelChannelsFromZoom binding)).Inside
        ↔ ∀ channel, offsets.HasChannel channel → channel.CoarseInside patch := by
  have hwheels : (∀ wheel ∈ offsets.goboWheels, ∀ channel ∈ wheel.channels,
      channel.CoarseInside patch) ↔ ∀ wheel ∈ binding.goboWheels, (sanitizeWheel wheel).Inside := by
    apply OptionFold.forall_mem_iff_of_forall₂ hmoved.goboWheels
    intro wheelOffset wheel hwheel
    exact (sanitizeWheel_inside_iff hpositive hwheel).symm
  constructor
  . intro hinside channel hchannel
    cases hchannel with
    | inl hcontrol =>
      obtain ⟨a, ha⟩ := hcontrol
      rw [← ha, ← sanitizeChannel_reserve_inside_iff hpositive hmoved]
      exact hinside.channels a
    | inr hwheel =>
      obtain ⟨wheel, hwheel, hchannel⟩ := hwheel
      apply hwheels.mpr _ wheel hwheel channel hchannel
      intro wheel hwheel
      exact hinside.goboWheels _ (List.mem_map_of_mem hwheel)
  . intro hcoarse
    constructor
    . intro a
      apply (sanitizeChannel_reserve_inside_iff hpositive hmoved a).mpr
      exact hcoarse _ (.inl ⟨a, rfl⟩)
    . intro wheel hwheel
      obtain ⟨source, hsource, hwheel⟩ := List.mem_map.mp hwheel
      rw [← hwheel]
      apply hwheels.mp _ source hsource
      intro wheel hwheel channel hchannel
      exact hcoarse channel (.inr ⟨wheel, hwheel, hchannel⟩)

include haddress in
theorem bindFixture_inside_iff
    : (∃ result, bindFixture patch universeOffset offsets = some result
          ∧ ∀ binding ∈ result, binding.Inside)
        ↔ patch.Fits universeOffset offsets := by
  constructor
  . intro h
    obtain ⟨result, hresult, hinside⟩ := h
    have hdefined := (bindFixture_isSome_iff haddress).mp (by rw [hresult]; rfl)
    refine ⟨hdefined.1, hdefined.2, ?_⟩
    intro haccepted
    obtain ⟨moved, hmoved, heq⟩ := exists_movedTo_of_bindFixture haddress hresult
    rw [if_pos ((hasChannel_reserve_iff haddress.1 hmoved).mpr haccepted)] at heq
    apply (sanitizeBinding_inside_iff haddress.1 hmoved).mp
    exact hinside _ heq
  . intro h
    have hsome := (bindFixture_isSome_iff haddress).mpr ⟨h.artnetUniverse, h.defined⟩
    obtain ⟨result, hresult⟩ := Option.isSome_iff_exists.mp hsome
    refine ⟨result, hresult, ?_⟩
    obtain ⟨moved, hmoved, heq⟩ := exists_movedTo_of_bindFixture haddress hresult
    intro binding hbinding
    rw [heq] at hbinding
    split at hbinding
    next hchannel =>
      rw [← Option.some.inj hbinding]
      apply (sanitizeBinding_inside_iff haddress.1 hmoved).mpr
      exact h.coarse ((hasChannel_reserve_iff haddress.1 hmoved).mp hchannel)
    next => contradiction

end

/-! ### All fixtures -/

section

variable {resolve : String → String → Except String FixtureControlOffsets}
variable {universeOffset : Int32}

/-- The binding that the round of a patch appends. -/
def boundBindings (resolve : String → String → Except String FixtureControlOffsets)
    (universeOffset : Int32) (patch : FixturePatch) : List FixtureControlBinding :=
  match outcomeOf resolve universeOffset patch with
  | some (.resolved _ (some binding)) => [binding]
  | _ => []

theorem bindings_of_build {patches : List FixturePatch} {result : FixtureBindingBuildResult}
    (h : buildFixtureControlBindings resolve patches universeOffset = some result)
    : result.bindings = patches.flatMap (boundBindings resolve universeOffset) := by
  unfold buildFixtureControlBindings at h
  apply OptionFold.emitted _ h
  intro result patch next hnext
  obtain ⟨outcome, houtcome, hnext⟩ := Option.map_eq_some_iff.mp hnext
  rw [boundBindings, houtcome, ← hnext]
  cases outcome with
  | skipped => exact (List.append_nil _).symm
  | refused reason => exact (List.append_nil _).symm
  | resolved offsets binding =>
    cases binding with
    | none => exact (List.append_nil _).symm
    | some binding => rfl

theorem build_isSome_iff {patches : List FixturePatch}
    : (buildFixtureControlBindings resolve patches universeOffset).isSome
        ↔ ∀ patch ∈ patches, (outcomeOf resolve universeOffset patch).isSome := by
  unfold buildFixtureControlBindings
  apply OptionFold.isSome_iff
  intro result patch
  rw [Option.isSome_map]

/-- A patch either resolves, or its round is defined and binds nothing. -/
theorem resolves_or_refused (patch : FixturePatch)
    : (∃ offsets, patch.Resolves resolve offsets ∧ outcomeOf resolve universeOffset patch
          = (bindFixture patch universeOffset offsets).map (.resolved offsets))
        ∨ ((∀ offsets, ¬ patch.Resolves resolve offsets)
          ∧ (outcomeOf resolve universeOffset patch).isSome
          ∧ boundBindings resolve universeOffset patch = []) := by
  unfold boundBindings outcomeOf
  split
  next huuid =>
    right
    exact ⟨fun offsets h => h.uuid huuid, rfl, rfl⟩
  next huuid =>
    split
    next haddress =>
      right
      refine ⟨?_, rfl, rfl⟩
      intro offsets h
      have huniverse := h.mvrUniverse
      have hpatch := h.mvrAddress
      simp only [Int32.le_iff_toInt_le, Int32.lt_iff_toInt_lt, toInt_zero, toInt_slots]
        at haddress
      omega
    next haddress =>
      simp only [Int32.le_iff_toInt_le, Int32.lt_iff_toInt_lt, toInt_zero, toInt_slots]
        at haddress
      split
      next hmode =>
        right
        exact ⟨fun offsets h => h.mode hmode, rfl, rfl⟩
      next hmode =>
        split
        next hpath =>
          right
          exact ⟨fun offsets h => h.path hpath, rfl, rfl⟩
        next hpath =>
          cases hresolved : resolve patch.gdtfPath patch.dmxMode with
          | error reason =>
            right
            refine ⟨?_, rfl, rfl⟩
            intro offsets h
            rw [h.resolved] at hresolved
            contradiction
          | ok offsets =>
            left
            exact ⟨offsets, ⟨huuid, by omega, by omega, hmode, hpath, hresolved⟩, rfl⟩

theorem patch_inside_iff (patch : FixturePatch)
    : ((outcomeOf resolve universeOffset patch).isSome
          ∧ ∀ binding ∈ boundBindings resolve universeOffset patch, binding.Inside)
        ↔ ∀ offsets, patch.Resolves resolve offsets → patch.Fits universeOffset offsets := by
  cases @resolves_or_refused resolve universeOffset patch with
  | inl h =>
    obtain ⟨offsets, hresolves, houtcome⟩ := h
    have hunique : (∀ other, patch.Resolves resolve other → patch.Fits universeOffset other)
        ↔ patch.Fits universeOffset offsets := by
      constructor
      . intro hall
        exact hall offsets hresolves
      . intro hfits other hother
        have heq := hother.resolved.symm.trans hresolves.resolved
        rw [Except.ok.inj heq]
        exact hfits
    rw [hunique, ← bindFixture_inside_iff hresolves.mvrAddress, boundBindings, houtcome,
      Option.isSome_map]
    cases bindFixture patch universeOffset offsets with
    | none => simp
    | some result => cases result <;> simp
  | inr h =>
    obtain ⟨hnot, hsome, hempty⟩ := h
    rw [hempty]
    constructor
    . intro _ offsets hresolves
      exact absurd hresolves (hnot offsets)
    . intro _
      exact ⟨hsome, fun binding hmem => absurd hmem List.not_mem_nil⟩

end

/--
Every index of every binding is a slot or `-1` exactly if no addition overflows and no coarse byte
of a bound fixture lies behind its universe.
-/
theorem buildFixtureControlBindings_inside_iff
    (resolve : String → String → Except String FixtureControlOffsets)
    (patches : List FixturePatch) (universeOffset : Int32)
    : (∃ result, buildFixtureControlBindings resolve patches universeOffset = some result
          ∧ ∀ binding ∈ result.bindings, binding.Inside)
        ↔ ∀ patch ∈ patches, ∀ offsets, patch.Resolves resolve offsets →
          patch.Fits universeOffset offsets := by
  have hiff : (∃ result, buildFixtureControlBindings resolve patches universeOffset = some result
      ∧ ∀ binding ∈ result.bindings, binding.Inside)
      ↔ (buildFixtureControlBindings resolve patches universeOffset).isSome
        ∧ ∀ patch ∈ patches, ∀ binding ∈ boundBindings resolve universeOffset patch,
          binding.Inside := by
    constructor
    . intro h
      obtain ⟨result, hresult, hinside⟩ := h
      refine ⟨by rw [hresult]; rfl, ?_⟩
      intro patch hpatch binding hbinding
      apply hinside
      rw [bindings_of_build hresult]
      exact List.mem_flatMap.mpr ⟨patch, hpatch, hbinding⟩
    . intro h
      obtain ⟨result, hresult⟩ := Option.isSome_iff_exists.mp h.1
      refine ⟨result, hresult, ?_⟩
      intro binding hbinding
      rw [bindings_of_build hresult] at hbinding
      obtain ⟨patch, hpatch, hbinding⟩ := List.mem_flatMap.mp hbinding
      exact h.2 patch hpatch binding hbinding
  rw [hiff, build_isSome_iff, ← forall₂_and]
  apply forall_congr'
  intro patch
  apply imp_congr_right
  intro _
  exact patch_inside_iff patch

/-- A fixture at the last address whose dimmer is in range and whose pan is not. -/
def lastAddressPatch : FixturePatch where
  fixtureUuid := "spot"
  mvrUniverse := 1
  mvrAddress := 512
  dmxMode := "Standard"
  gdtfPath := "spot.gdtf"

def dimmerPanOffsets : FixtureControlOffsets where
  offsets a :=
    match a with
    | .dimmer => { coarse := 1 }
    | .pan => { coarse := 2, fine := 3 }
    | _ => {}

/-- The coarse byte of pan is bound to slot 512. -/
theorem pan_behindUniverse
    : ∃ result, buildFixtureControlBindings (fun _ _ => .ok dimmerPanOffsets) [lastAddressPatch] 0
          = some result
        ∧ ∃ binding ∈ result.bindings, (binding.channels .pan).coarse = 512
          ∧ ¬ binding.Inside := by
  refine ⟨_, rfl, _, List.mem_cons_self, ?_, ?_⟩
  . decide
  . intro hinside
    have hcoarse := indexInside_iff.mp (hinside.channels .pan).coarse
    revert hcoarse
    decide

end Peraviz.Dmx
