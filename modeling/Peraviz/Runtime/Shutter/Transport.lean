import Peraviz.Runtime.Codec.RoundTrip
import Peraviz.Runtime.Shutter.Layout

/-!
This module contains the comparison of the shutter layout of a scene with that of the scene that its
packed form decodes to.
-/

namespace Peraviz.Runtime

def roundTrip (p : Platform) (scene : CompiledRuntimeScene) : CompiledRuntimeScene :=
  let packed := Codec.encodeCompiledRuntimeScene p.toFloatFormat scene
  (Codec.decodeCompiledRuntimeScene p.toFloatFormat packed.integers packed.floats).scene

/-- The shutter bindings arrive in transport precision, with the programs that they read. -/
structure ShuttersSurvive (p : Platform) (scene : CompiledRuntimeScene) : Prop where
  bindings : (roundTrip p scene).shutterBindings
    = scene.shutterBindings.map (Codec.transportShutter p.toFloatFormat)
  programs : (roundTrip p scene).sourcePrograms
    = scene.sourcePrograms.map (Codec.transportSourceProgram p.toFloatFormat)
  counted : scene.shutterBindings.length < 2 ^ 31

def shutterScalars (b : CompiledShutterBinding) : List ℚ :=
  [b.duration, b.duty, b.offset, b.physicalFrom, b.physicalTo]

def Platform.IsDouble (p : Platform) (x : ℚ) : Prop := p.ofDoubleBits (p.doubleBits x) = x

/-- The scalars are doubles, and their conversion to `float` and back ends in doubles. -/
def ScalarsAreDoubles (p : Platform) (scene : CompiledRuntimeScene) : Prop :=
  ∀ b ∈ scene.shutterBindings, ∀ x ∈ shutterScalars b, p.IsDouble x ∧ p.IsDouble (p.toFloat x)

def ShutterControlLayout.Together (layout : ShutterControlLayout) (layer other : Int) : Prop :=
  ∃ id, (layer, id) ∈ layout.byLayer ∧ (other, id) ∈ layout.byLayer

def ShutterControlLayout.seedOf (layout : ShutterControlLayout) (layer : Int) : Option UInt32 :=
  ((layout.byLayer.find? (fun entry => entry.1 = layer)).bind (fun entry =>
    layout.authorities.find? (fun authority => authority.id = entry.2))).map
      ShutterControlAuthority.seed

/-- The same layers together, and the same seed for every layer. -/
structure ShutterControlLayout.Agrees (layout other : ShutterControlLayout) : Prop where
  together : ∀ a b, layout.Together a b ↔ other.Together a b
  seeds : ∀ layer, layout.seedOf layer = other.seedOf layer

/-- A record of a control set in transport precision. -/
def transportRecord (p : Platform) (record : List Int) : List Int :=
  record.zipIdx.map (fun entry => if 6 ≤ entry.2 ∧ entry.2 ≤ 10 then
    p.doubleBits (p.toFloat (p.ofDoubleBits entry.1)) else entry.1)

/-- Layers that differ, differ in transport precision. -/
def StaysDistinct (p : Platform) (bindings : List CompiledShutterBinding) : Prop :=
  ∀ a ∈ bindings.map CompiledShutterBinding.layer,
    ∀ b ∈ bindings.map CompiledShutterBinding.layer,
      ((bindingSignatures p bindings a).map (transportRecord p)).Perm
        ((bindingSignatures p bindings b).map (transportRecord p))
      → (bindingSignatures p bindings a).Perm (bindingSignatures p bindings b)

/-- The sorted records of a layer are in order in transport precision. -/
def StaysSorted (p : Platform) (bindings : List CompiledShutterBinding) (layer : Int) : Prop :=
  ((layerSignatures p bindings layer).map (transportRecord p)).Pairwise (fun a b => a ≤ b)

/-! ### Records -/

section

variable {p : Platform} {b : CompiledShutterBinding}

theorem signature_transport (h : ∀ x ∈ shutterScalars b, p.IsDouble x)
    : shutterControlSignature p (Codec.transportShutter p.toFloatFormat b)
        = transportRecord p (shutterControlSignature p b) := by
  have hscalar : ∀ x ∈ shutterScalars b,
      p.doubleBits (p.toFloat (p.ofDoubleBits (p.doubleBits x))) = p.doubleBits (p.toFloat x) := by
    intro x hx
    rw [h x hx]
  simp [shutterScalars] at hscalar
  simp [shutterControlSignature, transportRecord, Codec.transportShutter, hscalar]

theorem transportRecord_signature
    (h : ∀ x ∈ shutterScalars b, p.IsDouble x ∧ p.IsDouble (p.toFloat x))
    : transportRecord p (transportRecord p (shutterControlSignature p b))
        = transportRecord p (shutterControlSignature p b) := by
  rw [← signature_transport (fun x hx => (h x hx).1), ← signature_transport]
  . simp [shutterControlSignature, Codec.transportShutter, p.toFloat_toFloat]
  . intro x hx
    have hmap : shutterScalars (Codec.transportShutter p.toFloatFormat b)
        = (shutterScalars b).map p.toFloat := rfl
    rw [hmap, List.mem_map] at hx
    obtain ⟨y, hy, rfl⟩ := hx
    exact (h y hy).2

theorem headD_transportRecord (record : List Int)
    : (transportRecord p record).headD 0 = record.headD 0 := by
  cases record with
  | nil => rfl
  | cons first rest =>
    unfold transportRecord
    rw [List.zipIdx_cons, List.map_cons, List.headD_cons, List.headD_cons]
    apply if_neg
    omega

theorem transportField_eq (record : List Int)
    : record.zipIdx.map (transportField p) = (transportRecord p record).map UInt64.ofInt := by
  unfold transportRecord
  rw [List.map_map]
  rfl

end

/-! ### Seeds -/

section

variable {p : Platform} {fmt : FloatFormat}

theorem program?_transport (programs : List CompiledDmxSourceProgram) (id : Int32)
    : program? (programs.map (Codec.transportSourceProgram fmt)) id
        = (program? programs id).map (Codec.transportSourceProgram fmt) := by
  unfold program?
  rw [List.find?_map]
  rfl

theorem dependencyWalk_transport (programs : List CompiledDmxSourceProgram)
    (visited : List Int32) (id : Int32)
    : dependencyWalk (programs.map (Codec.transportSourceProgram fmt)) nextMaster visited id
        = dependencyWalk programs nextMaster visited id := by
  fun_induction dependencyWalk programs nextMaster visited id with
  | case1 visited id hstop =>
    rw [dependencyWalk, if_pos hstop]
  | case2 visited id hnew hnone =>
    have hmapped := @program?_transport fmt programs id
    rw [hnone, Option.map_none] at hmapped
    rw [dependencyWalk, if_neg hnew]
    split
    next => rfl
    next program hfound =>
      rw [hmapped] at hfound
      cases hfound
  | case3 visited id hnew program hfind ih =>
    have hmapped := @program?_transport fmt programs id
    rw [hfind, Option.map_some] at hmapped
    rw [dependencyWalk, if_neg hnew]
    split
    next hnone =>
      rw [hmapped] at hnone
      cases hnone
    next other hfound =>
      rw [hmapped] at hfound
      cases hfound
      exact ih

theorem shutterSeed_transport (programs : List CompiledDmxSourceProgram)
    {signatures : List (List Int)}
    (h : ∀ record ∈ signatures, transportRecord p (transportRecord p record)
      = transportRecord p record)
    : shutterSeed p (programs.map (Codec.transportSourceProgram fmt))
          (signatures.map (transportRecord p))
        = shutterSeed p programs signatures := by
  have hfields : (signatures.map (transportRecord p)).flatMap
      (fun record => record.zipIdx.map (transportField p))
        = signatures.flatMap (fun record => record.zipIdx.map (transportField p)) := by
    rw [List.flatMap_map]
    apply List.flatMap_congr
    intro record hrecord
    rw [transportField_eq, transportField_eq, h record hrecord]
  have hchains : (signatures.map (transportRecord p)).flatMap (fun record =>
      (dependencyWalk (programs.map (Codec.transportSourceProgram fmt)).reverse nextMaster []
        (Int32.ofInt (record.headD 0))).1.flatMap (fun id =>
          (program? (programs.map (Codec.transportSourceProgram fmt)).reverse id).elim []
            programSeeds))
        = signatures.flatMap (fun record =>
          (dependencyWalk programs.reverse nextMaster [] (Int32.ofInt (record.headD 0))).1.flatMap
            (fun id => (program? programs.reverse id).elim [] programSeeds)) := by
    rw [List.flatMap_map, ← List.map_reverse]
    apply List.flatMap_congr
    intro record _
    rw [headD_transportRecord, dependencyWalk_transport]
    apply List.flatMap_congr
    intro id _
    rw [program?_transport]
    cases program? programs.reverse id with
    | none => rfl
    | some program => rfl
  unfold shutterSeed
  rw [hfields, hchains]

end

/-! ### Control sets -/

section

variable {p : Platform} {scene : CompiledRuntimeScene}

theorem layers_transport (fmt : FloatFormat) (bindings : List CompiledShutterBinding)
    : (bindings.map (Codec.transportShutter fmt)).map CompiledShutterBinding.layer
        = bindings.map CompiledShutterBinding.layer := by
  rw [List.map_map]
  rfl

theorem bindingSignatures_transport (h : ScalarsAreDoubles p scene) (layer : Int)
    : bindingSignatures p (scene.shutterBindings.map (Codec.transportShutter p.toFloatFormat)) layer
        = (bindingSignatures p scene.shutterBindings layer).map (transportRecord p) := by
  unfold bindingSignatures
  rw [List.filter_map, List.map_map, List.map_map]
  apply List.map_congr_left
  intro b hb
  exact signature_transport (fun x hx => (h b (List.mem_of_mem_filter hb) x hx).1)

-- What arrives of a sorted control set that stays sorted is its records one by one.
theorem layerSignatures_transport (h : ScalarsAreDoubles p scene) {layer : Int}
    (hsorted : StaysSorted p scene.shutterBindings layer)
    : layerSignatures p (scene.shutterBindings.map (Codec.transportShutter p.toFloatFormat)) layer
        = (layerSignatures p scene.shutterBindings layer).map (transportRecord p) := by
  have hperm := (layerSignatures_perm p scene.shutterBindings layer).map (transportRecord p)
  rw [← bindingSignatures_transport h] at hperm
  apply KeyedIndex.insertionSort_eq_of_perm _ hperm.symm
  exact hsorted

theorem length_internedSignatures_le (p : Platform) (bindings : List CompiledShutterBinding)
    : (internedSignatures p bindings).length ≤ bindings.length := by
  unfold internedSignatures sortUnique
  apply le_trans (List.dedup_sublist _).length_le
  rw [List.length_insertionSort, List.length_map]

/-! ### Layouts -/

theorem together_iff (hcount : (internedSignatures p scene.shutterBindings).length < 2 ^ 31)
    (a b : Int)
    : (shutterControlLayout p scene).Together a b
        ↔ a ∈ scene.shutterBindings.map CompiledShutterBinding.layer
          ∧ b ∈ scene.shutterBindings.map CompiledShutterBinding.layer
          ∧ (bindingSignatures p scene.shutterBindings a).Perm
            (bindingSignatures p scene.shutterBindings b) := by
  have hlayers : ∀ layer, (∃ id, (layer, id) ∈ (shutterControlLayout p scene).byLayer)
      ↔ layer ∈ scene.shutterBindings.map CompiledShutterBinding.layer := by
    intro layer
    rw [List.mem_map, ← (@layers_layout p scene).2 layer, List.mem_map]
    constructor
    . rintro ⟨id, hid⟩
      exact ⟨(layer, id), hid, rfl⟩
    . rintro ⟨entry, hentry, rfl⟩
      exact ⟨entry.2, hentry⟩
  constructor
  . rintro ⟨id, ha, hb⟩
    refine ⟨(hlayers a).mp ⟨id, ha⟩, (hlayers b).mp ⟨id, hb⟩, ?_⟩
    exact (grouped_layout hcount _ ha _ hb).mp rfl
  . rintro ⟨ha, hb, hperm⟩
    obtain ⟨id, hid⟩ := (hlayers a).mpr ha
    obtain ⟨other, hother⟩ := (hlayers b).mpr hb
    have hsame : id = other := (grouped_layout hcount _ hid _ hother).mpr hperm
    rw [← hsame] at hother
    exact ⟨id, hid, hother⟩

theorem seedOf_layout (hcount : (internedSignatures p scene.shutterBindings).length < 2 ^ 31)
    (layer : Int)
    : (shutterControlLayout p scene).seedOf layer
        = if layer ∈ scene.shutterBindings.map CompiledShutterBinding.layer then
          some (shutterSeed p scene.sourcePrograms
            (layerSignatures p scene.shutterBindings layer))
        else none := by
  obtain ⟨_, hlayers⟩ := @layers_layout p scene
  unfold ShutterControlLayout.seedOf
  cases hfind : (shutterControlLayout p scene).byLayer.find? (fun entry => entry.1 = layer) with
  | none =>
    rw [if_neg]
    . rfl
    . intro hmem
      rw [List.mem_map, ← hlayers layer, List.mem_map] at hmem
      obtain ⟨entry, hentry, heq⟩ := hmem
      have hnone := List.find?_eq_none.mp hfind entry hentry
      exact hnone (decide_eq_true heq)
  | some entry =>
    have hentry := List.mem_of_find?_eq_some hfind
    have hlayer : entry.1 = layer := by simpa using List.find?_some hfind
    obtain ⟨hbinding, hinterned, hid⟩ := mem_byLayer hentry
    rw [hlayer] at hbinding hinterned hid
    rw [if_pos (List.mem_map.mpr hbinding), Option.bind_some]
    obtain ⟨authority, ⟨hauthority, hauthorityId⟩, hunique⟩ := filed_layout hcount entry hentry
    have hslot := List.idxOf_lt_length_of_mem hinterned
    have hfound : (shutterControlLayout p scene).authorities.find?
        (fun authority => authority.id = entry.2) = some authority := by
      cases hfirst : (shutterControlLayout p scene).authorities.find?
          (fun authority => authority.id = entry.2) with
      | none =>
        have hnone := List.find?_eq_none.mp hfirst authority hauthority
        exact absurd (decide_eq_true hauthorityId) hnone
      | some first =>
        have hid : first.id = entry.2 := by simpa using List.find?_some hfirst
        exact congrArg some (hunique first ⟨List.mem_of_find?_eq_some hfirst, hid⟩)
    rw [hfound, Option.map_some]
    obtain ⟨position, hlt, heq⟩ := mem_authorities_layout hcount hauthority
    -- the slot of the authority is the one of the control set of the layer
    rw [heq, id_filedAuthority, hid, shutterAuthority, ofNat_succ_inj (by omega) (by omega)]
      at hauthorityId
    have hkey : (internedSignatures p scene.shutterBindings)[position]
        = layerSignatures p scene.shutterBindings layer := by
      subst hauthorityId
      exact List.getElem_idxOf hlt
    rw [heq, hkey]
    rfl

theorem together_transport (h : ScalarsAreDoubles p scene) (hsurvive : ShuttersSurvive p scene)
    (a b : Int)
    : (shutterControlLayout p (roundTrip p scene)).Together a b
        ↔ a ∈ scene.shutterBindings.map CompiledShutterBinding.layer
          ∧ b ∈ scene.shutterBindings.map CompiledShutterBinding.layer
          ∧ ((bindingSignatures p scene.shutterBindings a).map (transportRecord p)).Perm
            ((bindingSignatures p scene.shutterBindings b).map (transportRecord p)) := by
  have hcount : (internedSignatures p (roundTrip p scene).shutterBindings).length < 2 ^ 31 := by
    apply lt_of_le_of_lt (length_internedSignatures_le p _)
    rw [hsurvive.bindings, List.length_map]
    exact hsurvive.counted
  rw [together_iff hcount, hsurvive.bindings, layers_transport, bindingSignatures_transport h,
    bindingSignatures_transport h]

theorem seedOf_transport (h : ScalarsAreDoubles p scene) (hsurvive : ShuttersSurvive p scene)
    {layer : Int} (hsorted : StaysSorted p scene.shutterBindings layer)
    : (shutterControlLayout p (roundTrip p scene)).seedOf layer
        = (shutterControlLayout p scene).seedOf layer := by
  have hcount := lt_of_le_of_lt (length_internedSignatures_le p scene.shutterBindings)
    hsurvive.counted
  have hcount' : (internedSignatures p (roundTrip p scene).shutterBindings).length < 2 ^ 31 := by
    apply lt_of_le_of_lt (length_internedSignatures_le p _)
    rw [hsurvive.bindings, List.length_map]
    exact hsurvive.counted
  rw [seedOf_layout hcount, seedOf_layout hcount', hsurvive.bindings, layers_transport,
    hsurvive.programs, layerSignatures_transport h hsorted, shutterSeed_transport]
  intro record hrecord
  obtain ⟨b, hb, _, rfl⟩ := layerSignatures_record hrecord
  exact transportRecord_signature (h b hb)

-- The records that the seed is folded over arrive in their order if they stay sorted, only then.
theorem layerSignatures_transport_iff (h : ScalarsAreDoubles p scene)
    (hsurvive : ShuttersSurvive p scene) (layer : Int)
    : layerSignatures p (roundTrip p scene).shutterBindings layer
          = (layerSignatures p scene.shutterBindings layer).map (transportRecord p)
        ↔ StaysSorted p scene.shutterBindings layer := by
  rw [hsurvive.bindings]
  constructor
  . intro heq
    unfold StaysSorted
    rw [← heq]
    exact List.pairwise_insertionSort _ _
  . exact layerSignatures_transport h

theorem roundTrip_of_fits
    (hversion : scene.contractVersion = kCompiledRuntimeSceneContractVersion)
    (h : Codec.Fits scene) : roundTrip p scene = Codec.transport p.toFloatFormat scene := by
  have hdecoded := @Codec.decode_encode p.toFloatFormat scene hversion h
  exact congrArg Codec.CompiledRuntimeSceneDecodeResult.scene hdecoded.1

theorem shuttersSurvive_of_fits
    (hversion : scene.contractVersion = kCompiledRuntimeSceneContractVersion)
    (h : Codec.Fits scene) : ShuttersSurvive p scene := by
  constructor
  . rw [roundTrip_of_fits hversion h]
    rfl
  . rw [roundTrip_of_fits hversion h]
    rfl
  . apply h.tables
    simp [Codec.tableSizes]

end

/--
The packed form puts the same layers together exactly when layers that differ still do in transport
precision. A seed is folded over the same records exactly when these stay sorted, and is then the
same.
-/
theorem shutterControlLayout_transport (p : Platform) (scene : CompiledRuntimeScene)
    (h : ScalarsAreDoubles p scene) (hsurvive : ShuttersSurvive p scene)
    : let bindings := scene.shutterBindings
      let layout := shutterControlLayout p scene
      let arrived := shutterControlLayout p (roundTrip p scene)
      ((∀ a b, layout.Together a b ↔ arrived.Together a b) ↔ StaysDistinct p bindings)
        ∧ (∀ layer, layerSignatures p (roundTrip p scene).shutterBindings layer
            = (layerSignatures p bindings layer).map (transportRecord p)
          ↔ StaysSorted p bindings layer)
        ∧ (∀ layer, StaysSorted p bindings layer → layout.seedOf layer = arrived.seedOf layer)
        ∧ (StaysDistinct p bindings ∧ (∀ layer, StaysSorted p bindings layer)
          → layout.Agrees arrived) := by
  intro bindings layout arrived
  have hcount := lt_of_le_of_lt (length_internedSignatures_le p scene.shutterBindings)
    hsurvive.counted
  have htogether : (∀ a b, layout.Together a b ↔ arrived.Together a b)
      ↔ StaysDistinct p bindings := by
    constructor
    . intro hsame a ha b hb hperm
      have harrived := (together_transport h hsurvive a b).mpr ⟨ha, hb, hperm⟩
      exact ((together_iff hcount a b).mp ((hsame a b).mpr harrived)).2.2
    . intro hdistinct a b
      apply (together_iff hcount a b).trans
      apply Iff.trans _ (together_transport h hsurvive a b).symm
      constructor
      . rintro ⟨ha, hb, hperm⟩
        exact ⟨ha, hb, hperm.map _⟩
      . rintro ⟨ha, hb, hperm⟩
        exact ⟨ha, hb, hdistinct a ha b hb hperm⟩
  have hseeds : ∀ layer, StaysSorted p bindings layer
      → layout.seedOf layer = arrived.seedOf layer := by
    intro layer hsorted
    exact (seedOf_transport h hsurvive hsorted).symm
  refine ⟨htogether, layerSignatures_transport_iff h hsurvive, hseeds, ?_⟩
  rintro ⟨hdistinct, hsorted⟩
  constructor
  . exact htogether.mpr hdistinct
  . intro layer
    exact hseeds layer (hsorted layer)

/-- Doubles from one up to two and zero, of which a `float` keeps 23 places. -/
def nearOnePlatform : Platform where
  toFloat x := ⌊x * 2 ^ 23 + 1 / 2⌋ / 2 ^ 23
  toFloat_toFloat x := by
    rw [div_mul_cancel₀ _ (by decide), Int.floor_intCast_add]
    norm_num
  pow := fun x _ => x
  log := id
  doubleBits x := if x = 0 then 0 else 0x3ff0000000000000 + ⌊(x - 1) * 2 ^ 52⌋
  ofDoubleBits bits := if bits = 0 then 0 else 1 + (bits - 0x3ff0000000000000) / 2 ^ 52
  hashOrder := id
  hashOrder_perm := List.Perm.refl

/-- Two shutter functions with the default duty and offset, in the ranges of a mode master. -/
def strobeScene (first second : ℚ) : CompiledRuntimeScene where
  sourcePrograms := [{ programId := 7, sources := [⟨1, 1, 0⟩] }]
  shutterBindings := [
    { fixtureId := 1, beamTargetId := 10, sourceProgramId := 7, wave := .listed .strobe,
      duration := first, modeFrom := 128, modeTo := 255 },
    { fixtureId := 1, beamTargetId := 10, sourceProgramId := 7, wave := .listed .strobe,
      duration := second, modeFrom := 0, modeTo := 127 }]

theorem fits_strobeScene (first second : ℚ) : Codec.Fits (strobeScene first second) := by
  constructor <;> simp [strobeScene, Codec.tableSizes, Codec.sceneCells, Codec.headerCells,
    Codec.sourceProgramCells, Codec.byteSourceCells, Codec.shutterCells, Codec.ofSize,
    Codec.ofBool, Codec.ofUInt32, Codec.ofUInt8]

instance (p : Platform) (x : ℚ) : Decidable (p.IsDouble x) := by
  unfold Platform.IsDouble
  infer_instance

theorem shutterControlLayout_transport_distinct
    : let scene := strobeScene 1 (5 / 4)
      ∀ a b, (shutterControlLayout nearOnePlatform scene).Together a b
        ↔ (shutterControlLayout nearOnePlatform (roundTrip nearOnePlatform scene)).Together a b := by
  intro scene
  have hdoubles : ScalarsAreDoubles nearOnePlatform scene := by
    unfold ScalarsAreDoubles
    decide +kernel
  have hlayout := shutterControlLayout_transport nearOnePlatform scene hdoubles
    (shuttersSurvive_of_fits rfl (fits_strobeScene _ _))
  apply hlayout.1.mpr
  unfold StaysDistinct
  decide +kernel

/-- Two durations that a `float` does not tell apart: the modes decide the order that arrives. -/
theorem shutterControlLayout_transport_close
    : ¬ ∀ (p : Platform) (scene : CompiledRuntimeScene), ScalarsAreDoubles p scene
        → ShuttersSurvive p scene
        → (shutterControlLayout p scene).Agrees (shutterControlLayout p (roundTrip p scene)) := by
  intro h
  have hagrees := h nearOnePlatform (strobeScene (1 + 1 / 2 ^ 30) (1 + 1 / 2 ^ 29))
    (by unfold ScalarsAreDoubles; decide +kernel)
    (shuttersSurvive_of_fits rfl (fits_strobeScene _ _))
  have hseeds := hagrees.seeds (layerKey 10 1)
  rw [roundTrip_of_fits rfl (fits_strobeScene _ _)] at hseeds
  exact absurd hseeds (by decide +kernel)

end Peraviz.Runtime
