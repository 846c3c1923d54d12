import Mathlib.Combinatorics.Pigeonhole
import Peraviz.KeyedIndex.Basic
import Peraviz.Runtime.Install.Shutters

/-!
This module contains the layout of the shutter authorities of a scene: layers with the same control
set share an authority.
-/

namespace Peraviz.Runtime

structure ShutterControlAuthority where
  id : Int32 := 0
  fixture : Int32 := 0
  index : Int32 := 1
  seed : UInt32 := 0
  targets : List Int32 := []
  deriving DecidableEq

structure ShutterControlLayout where
  byLayer : List (Int × Int32) := []
  authorities : List ShutterControlAuthority := []

/-- The signatures of the bindings of a layer, as the scene orders them. -/
def bindingSignatures (p : Platform) (bindings : List CompiledShutterBinding) (layer : Int)
    : List (List Int) :=
  (bindings.filter (fun b => b.layer == layer)).map (shutterControlSignature p)

/-- The layers in ascending order, each with its control set. -/
def controlLayers (p : Platform) (bindings : List CompiledShutterBinding)
    : List (Int × List (List Int)) :=
  (sortUnique (bindings.map CompiledShutterBinding.layer)).map (fun layer =>
    (layer, layerSignatures p bindings layer))

def controlAuthority (p : Platform) (programs : List CompiledDmxSourceProgram)
    (entry : List (List Int) × Nat) : ShutterControlAuthority :=
  let front := entry.1.headD []
  { id := Int32.ofNat (entry.2 + 1)
    fixture := Int32.ofInt (front.getD 11 0)
    index := Int32.ofInt (front.getD 1 0)
    seed := shutterSeed p programs entry.1
    targets := [] }

def layerTarget (layer : Int) : Int32 := Int32.ofInt (layer / 2 ^ 32)

def ShutterControlAuthority.push (authority : ShutterControlAuthority) (layer : Int)
    : ShutterControlAuthority :=
  { authority with targets := authority.targets ++ [layerTarget layer] }

/-- The position behind an identifier, `none` if it overflowed. -/
def authorityPosition (id : Int32) : Option Nat :=
  if 0 < id then some (id.toInt.toNat - 1) else none

def routeLayer (interned : List (List (List Int))) (layout : ShutterControlLayout)
    (entry : Int × List (List Int)) : ShutterControlLayout :=
  let id := Int32.ofNat (interned.idxOf entry.2 + 1)
  { byLayer := layout.byLayer ++ [(entry.1, id)]
    authorities := match authorityPosition id with
      | none => layout.authorities
      | some position => layout.authorities.modify position (fun authority =>
        authority.push entry.1) }

def shutterControlLayout (p : Platform) (scene : CompiledRuntimeScene) : ShutterControlLayout :=
  let interned := internedSignatures p scene.shutterBindings
  (controlLayers p scene.shutterBindings).foldl (routeLayer interned)
    { authorities := interned.zipIdx.map (controlAuthority p scene.sourcePrograms) }

/-- A layout that files every layer with the authority of its control set. -/
structure LaysOut (p : Platform) (bindings : List CompiledShutterBinding)
    (layout : ShutterControlLayout) : Prop where
  layers : (layout.byLayer.map Prod.fst).Nodup
    ∧ ∀ layer, layer ∈ layout.byLayer.map Prod.fst ↔ ∃ b ∈ bindings, b.layer = layer
  grouped : ∀ a ∈ layout.byLayer, ∀ b ∈ layout.byLayer,
    a.2 = b.2 ↔ (bindingSignatures p bindings a.1).Perm (bindingSignatures p bindings b.1)
  filed : ∀ a ∈ layout.byLayer, ∃! authority, authority ∈ layout.authorities ∧ authority.id = a.2
  dense : layout.authorities.map ShutterControlAuthority.id
    = (List.range layout.authorities.length).map (fun position => Int32.ofNat (position + 1))
  occupied : ∀ authority ∈ layout.authorities, ∃ a ∈ layout.byLayer, a.2 = authority.id
  targets : ∀ authority ∈ layout.authorities, authority.targets
    = (layout.byLayer.filter (fun a => a.2 = authority.id)).map (fun a => layerTarget a.1)
  cover : (layout.authorities.flatMap (fun authority => authority.targets.map (fun target =>
    layerKey target authority.index))).Perm (layout.byLayer.map Prod.fst)

theorem sortUnique_nodup {α : Type} [LE α] [DecidableLE α] [DecidableEq α] (l : List α)
    : (sortUnique l).Nodup := by
  exact List.nodup_dedup _

/-! ### Layers -/

theorem layerTarget_layerKey (target index : Int32)
    : layerTarget (layerKey target index) = target := by
  have hindex := index.toUInt32.toNat_lt
  have hdiv : layerKey target index / 2 ^ 32 = target.toInt := by
    rw [layerKey]
    omega
  rw [layerTarget, hdiv, Int32.ofInt_toInt]

section

variable {p : Platform} {bindings : List CompiledShutterBinding} {layer layer' : Int}
  {record : List Int}

theorem mem_controlLayers {entry : Int × List (List Int)}
    (h : entry ∈ controlLayers p bindings)
    : (∃ b ∈ bindings, b.layer = entry.1) ∧ entry.2 = layerSignatures p bindings entry.1 := by
  rw [controlLayers, List.mem_map] at h
  cases h with
  | intro l hl =>
    rw [← hl.2]
    constructor
    . have hmem := mem_sortUnique.mp hl.1
      rw [List.mem_map] at hmem
      exact hmem
    . rfl

theorem map_fst_controlLayers
    : (controlLayers p bindings).map Prod.fst
      = sortUnique (bindings.map CompiledShutterBinding.layer) := by
  rw [controlLayers, List.map_map]
  exact List.map_id _

theorem layerSignatures_perm (p : Platform) (bindings : List CompiledShutterBinding) (layer : Int)
    : (layerSignatures p bindings layer).Perm (bindingSignatures p bindings layer) := by
  exact List.perm_insertionSort _ _

theorem layerSignatures_eq_iff
    : layerSignatures p bindings layer = layerSignatures p bindings layer'
      ↔ (bindingSignatures p bindings layer).Perm (bindingSignatures p bindings layer') := by
  rw [layerSignatures, layerSignatures, bindingSignatures, bindingSignatures]
  apply KeyedIndex.insertionSort_eq_iff_perm

theorem layerSignatures_record (h : record ∈ layerSignatures p bindings layer)
    : ∃ b ∈ bindings, b.layer = layer ∧ record = shutterControlSignature p b := by
  rw [(layerSignatures_perm p bindings layer).mem_iff, bindingSignatures, List.mem_map] at h
  cases h with
  | intro b hb =>
    have hmem := List.mem_filter.mp hb.1
    exact ⟨b, hmem.1, by simpa using hmem.2, hb.2.symm⟩

theorem layerSignatures_ne_nil (h : ∃ b ∈ bindings, b.layer = layer)
    : layerSignatures p bindings layer ≠ [] := by
  intro hnil
  cases h with
  | intro b hb =>
    have hmem : shutterControlSignature p b ∈ layerSignatures p bindings layer := by
      rw [(layerSignatures_perm p bindings layer).mem_iff, bindingSignatures]
      apply List.mem_map_of_mem
      rw [List.mem_filter]
      exact ⟨hb.1, by simpa using hb.2⟩
    rw [hnil] at hmem
    contradiction

-- The index of an authority and the target of a layer are the key of the layer.
theorem layerKey_front (h : ∃ b ∈ bindings, b.layer = layer)
    : layerKey (layerTarget layer)
        (Int32.ofInt (((layerSignatures p bindings layer).headD []).getD 1 0)) = layer := by
  cases hsignatures : layerSignatures p bindings layer with
  | nil => exact absurd hsignatures (layerSignatures_ne_nil h)
  | cons front rest =>
    have hfront := @layerSignatures_record p bindings layer front (by rw [hsignatures]; simp)
    cases hfront with
    | intro b hb =>
      have hindex : front.getD 1 0 = b.shutterIndex.toInt := by
        rw [hb.2.2]
        rfl
      rw [List.headD_cons, hindex, Int32.ofInt_toInt, ← hb.2.1, CompiledShutterBinding.layer,
        layerTarget_layerKey]

end

/-! ### Routing -/

theorem authorityPosition_ofNat {i : Nat} (h : i + 1 < 2 ^ 31)
    : authorityPosition (Int32.ofNat (i + 1)) = some i := by
  have hint : (Int32.ofNat (i + 1)).toInt = i + 1 := by
    rw [Int32.toInt_ofNat_of_lt h]
    rfl
  have hpos : 0 < Int32.ofNat (i + 1) := by
    rw [Int32.lt_iff_toInt_lt, hint, Int32.toInt_zero]
    omega
  rw [authorityPosition, if_pos hpos, hint]
  rfl

theorem ofNat_succ_inj {i j : Nat} (hi : i + 1 < 2 ^ 31) (hj : j + 1 < 2 ^ 31)
    : Int32.ofNat (i + 1) = Int32.ofNat (j + 1) ↔ i = j := by
  constructor
  . intro h
    have hposition := authorityPosition_ofNat hi
    rw [h, authorityPosition_ofNat hj] at hposition
    exact (Option.some.inj hposition).symm
  . intro h
    rw [h]

section

variable {p : Platform} {scene : CompiledRuntimeScene} {layers : List (Int × List (List Int))}
  {interned : List (List (List Int))}

theorem foldl_push_targets (authority : ShutterControlAuthority)
    (layers : List (Int × List (List Int)))
    : layers.foldl (fun authority entry => authority.push entry.1) authority
      = { authority with
        targets := authority.targets ++ layers.map (fun entry => layerTarget entry.1) } := by
  induction layers generalizing authority with
  | nil => simp
  | cons entry layers ih =>
    rw [List.foldl_cons, ih, ShutterControlAuthority.push]
    simp

theorem byLayer_foldl (layout : ShutterControlLayout)
    : (layers.foldl (routeLayer interned) layout).byLayer = layout.byLayer
      ++ layers.map (fun entry => (entry.1, Int32.ofNat (interned.idxOf entry.2 + 1))) := by
  induction layers generalizing layout with
  | nil => simp
  | cons entry layers ih =>
    rw [List.foldl_cons, ih, routeLayer]
    simp

-- While identifiers do not overflow every layer is routed to the slot of its control set.
theorem authorities_foldl (hcount : interned.length < 2 ^ 31)
    (hmem : ∀ entry ∈ layers, entry.2 ∈ interned) (layout : ShutterControlLayout)
    : (layers.foldl (routeLayer interned) layout).authorities
      = layers.foldl (fun authorities entry => authorities.modify (interned.idxOf entry.2)
        (fun authority => authority.push entry.1)) layout.authorities := by
  induction layers generalizing layout with
  | nil => rfl
  | cons entry layers ih =>
    have hslot := List.idxOf_lt_length_of_mem (hmem entry (by simp))
    rw [List.foldl_cons, ih (fun entry hentry => hmem entry (by simp [hentry])), List.foldl_cons,
      routeLayer]
    dsimp only
    rw [authorityPosition_ofNat (by omega)]

end

/-! ### The layout -/

section

variable {p : Platform} {scene : CompiledRuntimeScene}

theorem controlLayers_interned
    : ∀ entry ∈ controlLayers p scene.shutterBindings,
        entry.2 ∈ internedSignatures p scene.shutterBindings := by
  intro entry hentry
  have hlayer := mem_controlLayers hentry
  rw [hlayer.2, mem_internedSignatures]
  cases hlayer.1 with
  | intro b hb => exact ⟨b, hb.1, by rw [hb.2]⟩

theorem byLayer_layout
    : (shutterControlLayout p scene).byLayer = (controlLayers p scene.shutterBindings).map
      (fun entry =>
        (entry.1, Int32.ofNat ((internedSignatures p scene.shutterBindings).idxOf entry.2 + 1))) := by
  rw [shutterControlLayout, byLayer_foldl]
  rfl

theorem byLayer_shutterAuthority
    : ∀ a ∈ (shutterControlLayout p scene).byLayer,
        a.2 = shutterAuthority p scene.shutterBindings a.1 := by
  intro a ha
  rw [byLayer_layout, List.mem_map] at ha
  cases ha with
  | intro entry hentry =>
    rw [← hentry.2, shutterAuthority, (mem_controlLayers hentry.1).2]

/-- An authority of the layout, its targets are those of the layers in its slot. -/
def filedAuthority (p : Platform) (scene : CompiledRuntimeScene) (key : List (List Int))
    (position : Nat) : ShutterControlAuthority :=
  { controlAuthority p scene.sourcePrograms (key, position) with
    targets := ((controlLayers p scene.shutterBindings).filter (fun entry =>
      (internedSignatures p scene.shutterBindings).idxOf entry.2 = position)).map (fun entry =>
        layerTarget entry.1) }

theorem authorities_layout (hcount : (internedSignatures p scene.shutterBindings).length < 2 ^ 31)
    : (shutterControlLayout p scene).authorities
      = (internedSignatures p scene.shutterBindings).zipIdx.map (fun entry =>
        filedAuthority p scene entry.1 entry.2) := by
  apply List.ext_getElem?
  intro i
  rw [shutterControlLayout, authorities_foldl hcount controlLayers_interned, KeyedIndex.getElem?_foldl_modify,
    List.getElem?_map, List.getElem?_map, List.getElem?_zipIdx]
  cases (internedSignatures p scene.shutterBindings)[i]? with
  | none => rfl
  | some key =>
    simp only [Option.map_some, Nat.zero_add]
    rw [foldl_push_targets]
    rfl

theorem mem_authorities_layout
    (hcount : (internedSignatures p scene.shutterBindings).length < 2 ^ 31)
    {authority : ShutterControlAuthority}
    (h : authority ∈ (shutterControlLayout p scene).authorities)
    : ∃ position, ∃ hlt : position < (internedSignatures p scene.shutterBindings).length,
        authority = filedAuthority p scene
          ((internedSignatures p scene.shutterBindings)[position]) position := by
  rw [authorities_layout hcount, List.mem_map] at h
  cases h with
  | intro entry hentry =>
    have hmem := List.mem_zipIdx' hentry.1
    refine ⟨entry.2, hmem.1, ?_⟩
    rw [← hmem.2]
    exact hentry.2.symm

-- A filed layer: its control set is interned, and it has the identifier of the slot.
theorem mem_byLayer {a : Int × Int32} (h : a ∈ (shutterControlLayout p scene).byLayer)
    : (∃ b ∈ scene.shutterBindings, b.layer = a.1)
        ∧ layerSignatures p scene.shutterBindings a.1 ∈ internedSignatures p scene.shutterBindings
        ∧ a.2 = shutterAuthority p scene.shutterBindings a.1 := by
  have hauthority := byLayer_shutterAuthority a h
  rw [byLayer_layout, List.mem_map] at h
  cases h with
  | intro entry hentry =>
    have hlayer := mem_controlLayers hentry.1
    have hinterned := controlLayers_interned entry hentry.1
    rw [hlayer.2] at hinterned
    rw [← hentry.2] at hauthority ⊢
    exact ⟨hlayer.1, hinterned, hauthority⟩

theorem layers_layout
    : ((shutterControlLayout p scene).byLayer.map Prod.fst).Nodup
        ∧ ∀ layer, layer ∈ (shutterControlLayout p scene).byLayer.map Prod.fst
          ↔ ∃ b ∈ scene.shutterBindings, b.layer = layer := by
  have hmap : (shutterControlLayout p scene).byLayer.map Prod.fst
      = sortUnique (scene.shutterBindings.map CompiledShutterBinding.layer) := by
    rw [byLayer_layout, List.map_map, ← @map_fst_controlLayers p]
    rfl
  rw [hmap]
  constructor
  . exact sortUnique_nodup _
  . intro layer
    rw [mem_sortUnique, List.mem_map]

theorem grouped_layout (hcount : (internedSignatures p scene.shutterBindings).length < 2 ^ 31)
    : ∀ a ∈ (shutterControlLayout p scene).byLayer, ∀ b ∈ (shutterControlLayout p scene).byLayer,
        a.2 = b.2 ↔ (bindingSignatures p scene.shutterBindings a.1).Perm
          (bindingSignatures p scene.shutterBindings b.1) := by
  intro a ha b hb
  have ha := mem_byLayer ha
  have hb := mem_byLayer hb
  have haslot := List.idxOf_lt_length_of_mem ha.2.1
  have hbslot := List.idxOf_lt_length_of_mem hb.2.1
  rw [ha.2.2, hb.2.2, shutterAuthority, shutterAuthority,
    ofNat_succ_inj (by omega) (by omega), List.idxOf_inj ha.2.1, layerSignatures_eq_iff]

theorem id_filedAuthority (key : List (List Int)) (position : Nat)
    : (filedAuthority p scene key position).id = Int32.ofNat (position + 1) := by
  rfl

theorem filed_layout (hcount : (internedSignatures p scene.shutterBindings).length < 2 ^ 31)
    : ∀ a ∈ (shutterControlLayout p scene).byLayer, ∃! authority,
        authority ∈ (shutterControlLayout p scene).authorities ∧ authority.id = a.2 := by
  intro a ha
  have ha := mem_byLayer ha
  have hslot := List.idxOf_lt_length_of_mem ha.2.1
  generalize hposition : (internedSignatures p scene.shutterBindings).idxOf
    (layerSignatures p scene.shutterBindings a.1) = slot at hslot
  refine ⟨filedAuthority p scene (internedSignatures p scene.shutterBindings)[slot] slot, ?_, ?_⟩
  . constructor
    . rw [authorities_layout hcount, List.mem_map]
      refine ⟨((internedSignatures p scene.shutterBindings)[slot], slot), ?_, rfl⟩
      rw [List.mem_zipIdx_iff_getElem?, List.getElem?_eq_getElem hslot]
    . rw [id_filedAuthority, ha.2.2, shutterAuthority, hposition]
  . intro authority hauthority
    have hmem := mem_authorities_layout hcount hauthority.1
    cases hmem with
    | intro position hmem =>
      cases hmem with
      | intro hlt heq =>
        have hid := hauthority.2
        rw [heq, id_filedAuthority, ha.2.2, shutterAuthority, hposition,
          ofNat_succ_inj (by omega) (by omega)] at hid
        subst hid
        exact heq

theorem dense_layout (hcount : (internedSignatures p scene.shutterBindings).length < 2 ^ 31)
    : (shutterControlLayout p scene).authorities.map ShutterControlAuthority.id
      = (List.range (shutterControlLayout p scene).authorities.length).map (fun position =>
        Int32.ofNat (position + 1)) := by
  have hid : ShutterControlAuthority.id ∘ (fun entry : List (List Int) × Nat =>
      filedAuthority p scene entry.1 entry.2)
        = (fun position => Int32.ofNat (position + 1)) ∘ Prod.snd := by
    rfl
  rw [authorities_layout hcount, List.map_map, hid, ← List.map_map, List.zipIdx_map_snd,
    List.length_map, List.length_zipIdx, List.range_eq_range']

theorem occupied_layout (hcount : (internedSignatures p scene.shutterBindings).length < 2 ^ 31)
    : ∀ authority ∈ (shutterControlLayout p scene).authorities,
        ∃ a ∈ (shutterControlLayout p scene).byLayer, a.2 = authority.id := by
  intro authority hauthority
  have hmem := mem_authorities_layout hcount hauthority
  cases hmem with
  | intro position hmem =>
    cases hmem with
    | intro hlt heq =>
      have hkey := mem_internedSignatures.mp (List.getElem_mem hlt)
      cases hkey with
      | intro b hb =>
        have hlayer := (@layers_layout p scene).2 b.layer
        have hfiled := hlayer.mpr ⟨b, hb.1, rfl⟩
        rw [List.mem_map] at hfiled
        cases hfiled with
        | intro a ha =>
          refine ⟨a, ha.1, ?_⟩
          rw [(mem_byLayer ha.1).2.2, ha.2, shutterAuthority, hb.2,
            (internedSignatures_nodup p scene.shutterBindings).idxOf_getElem, heq,
            id_filedAuthority]

theorem targets_layout (hcount : (internedSignatures p scene.shutterBindings).length < 2 ^ 31)
    : ∀ authority ∈ (shutterControlLayout p scene).authorities, authority.targets
      = ((shutterControlLayout p scene).byLayer.filter (fun a => a.2 = authority.id)).map
        (fun a => layerTarget a.1) := by
  intro authority hauthority
  have hmem := mem_authorities_layout hcount hauthority
  cases hmem with
  | intro position hmem =>
    cases hmem with
    | intro hlt heq =>
      rw [heq, id_filedAuthority, byLayer_layout, List.filter_map, List.map_map, filedAuthority]
      dsimp only
      congr 1
      apply List.filter_congr
      intro entry hentry
      have hslot := List.idxOf_lt_length_of_mem (controlLayers_interned entry hentry)
      rw [Function.comp_apply, decide_eq_decide]
      exact (ofNat_succ_inj (by omega) (by omega)).symm

theorem cover_layout (hcount : (internedSignatures p scene.shutterBindings).length < 2 ^ 31)
    : ((shutterControlLayout p scene).authorities.flatMap (fun authority =>
        authority.targets.map (fun target => layerKey target authority.index))).Perm
      ((shutterControlLayout p scene).byLayer.map Prod.fst) := by
  have hlayers : (shutterControlLayout p scene).byLayer.map Prod.fst
      = (controlLayers p scene.shutterBindings).map Prod.fst := by
    rw [byLayer_layout, List.map_map]
    rfl
  -- The target of a layer and the index of its control set are the key of the layer.
  have hauthority : ∀ entry ∈ (internedSignatures p scene.shutterBindings).zipIdx,
      ((filedAuthority p scene entry.1 entry.2).targets.map (fun target =>
        layerKey target (filedAuthority p scene entry.1 entry.2).index))
        = ((controlLayers p scene.shutterBindings).filter (fun layer =>
          layer.2 = entry.1)).map Prod.fst := by
    intro entry hentry
    have hmem := List.mem_zipIdx' hentry
    rw [filedAuthority]
    dsimp only
    rw [List.map_map]
    have hfilter : (controlLayers p scene.shutterBindings).filter (fun layer =>
        (internedSignatures p scene.shutterBindings).idxOf layer.2 = entry.2)
          = (controlLayers p scene.shutterBindings).filter (fun layer => layer.2 = entry.1) := by
      apply List.filter_congr
      intro layer hlayer
      rw [decide_eq_decide, hmem.2]
      exact KeyedIndex.idxOf_eq_iff (internedSignatures_nodup p scene.shutterBindings) hmem.1
        (controlLayers_interned layer hlayer)
    rw [hfilter]
    apply List.map_congr_left
    intro layer hlayer
    have hlayer := List.mem_filter.mp hlayer
    have hsignatures := mem_controlLayers hlayer.1
    have hkey : layer.2 = entry.1 := by simpa using hlayer.2
    rw [Function.comp_apply, controlAuthority, ← hkey, hsignatures.2]
    exact layerKey_front hsignatures.1
  have hflat : (shutterControlLayout p scene).authorities.flatMap (fun authority =>
      authority.targets.map (fun target => layerKey target authority.index))
        = ((internedSignatures p scene.shutterBindings).flatMap (fun key =>
          (controlLayers p scene.shutterBindings).filter (fun layer =>
            layer.2 = key))).map Prod.fst := by
    rw [authorities_layout hcount, List.flatMap_map, List.flatMap_def,
      List.map_congr_left hauthority, List.map_flatMap, List.flatMap_def]
    congr 1
    have hfst := @List.zipIdx_map_fst _ 0 (internedSignatures p scene.shutterBindings)
    conv => rhs; rw [← hfst, List.map_map]
    rfl
  rw [hlayers, hflat]
  apply List.Perm.map
  apply KeyedIndex.flatMap_filter_perm
  . exact internedSignatures_nodup p scene.shutterBindings
  . exact controlLayers_interned

end

/-- While there are fewer control sets than identifiers, two layers share an authority if and only if
their bindings have the same signatures. -/
theorem shutterControlLayout_laysOut (p : Platform) (scene : CompiledRuntimeScene)
    (hcount : (internedSignatures p scene.shutterBindings).length < 2 ^ 31)
    : LaysOut p scene.shutterBindings (shutterControlLayout p scene) where
  layers := layers_layout
  grouped := grouped_layout hcount
  filed := filed_layout hcount
  dense := dense_layout hcount
  occupied := occupied_layout hcount
  targets := targets_layout hcount
  cover := cover_layout hcount

/-- Two beams whose bindings are listed in different orders, and one beam with a binding less. -/
def sharedScene : CompiledRuntimeScene :=
  { shutterBindings := [
      { fixtureId := 1, beamTargetId := 10, sourceProgramId := 7, wave := .listed .strobe },
      { fixtureId := 1, beamTargetId := 10, sourceProgramId := 8 },
      { fixtureId := 1, beamTargetId := 11, sourceProgramId := 8 },
      { fixtureId := 1, beamTargetId := 11, sourceProgramId := 7, wave := .listed .strobe },
      { fixtureId := 1, beamTargetId := 12, sourceProgramId := 7, wave := .listed .strobe }] }

theorem shutterControlLayout_laysOut_shared
    : LaysOut exactPlatform sharedScene.shutterBindings
        (shutterControlLayout exactPlatform sharedScene) := by
  apply shutterControlLayout_laysOut
  decide +kernel

example : (shutterControlLayout exactPlatform sharedScene).authorities.map
    ShutterControlAuthority.targets = [[12], [10, 11]] := by decide +kernel

/-! ### More layers than identifiers -/

/-- A binding of its own layer and its own signature for every number below 2^64. -/
def crowdedBinding (i : Nat) : CompiledShutterBinding :=
  { fixtureId := Int32.ofNat i
    beamTargetId := Int32.ofNat i
    shutterIndex := Int32.ofNat (i / 2 ^ 32) }

def crowdedScene (n : Nat) : CompiledRuntimeScene :=
  { shutterBindings := (List.range n).map crowdedBinding }

theorem toUInt32_injective {a b : Int32} (h : a.toUInt32 = b.toUInt32)
    : a = b := by
  have hsame := congrArg UInt32.toInt32 h
  rwa [Int32.toInt32_toUInt32, Int32.toInt32_toUInt32] at hsame

theorem int32_ofNat_inj {i j : Nat} (h : Int32.ofNat i = Int32.ofNat j)
    : i % 2 ^ 32 = j % 2 ^ 32 := by
  have hnat := congrArg (fun x : Int32 => x.toUInt32.toNat) h
  rwa [Int32.toUInt32_ofNat', UInt32.toNat_ofNat', Int32.toUInt32_ofNat', UInt32.toNat_ofNat']
    at hnat

theorem crowded_inj {i j : Nat} (hi : i < 2 ^ 64) (hj : j < 2 ^ 64)
    (hlow : Int32.ofNat i = Int32.ofNat j)
    (hhigh : Int32.ofNat (i / 2 ^ 32) = Int32.ofNat (j / 2 ^ 32))
    : i = j := by
  have hlow := int32_ofNat_inj hlow
  have hhigh := int32_ofNat_inj hhigh
  omega

theorem crowdedBinding_signature {p : Platform} {i j : Nat} (hi : i < 2 ^ 64) (hj : j < 2 ^ 64)
    (h : shutterControlSignature p (crowdedBinding i) = shutterControlSignature p (crowdedBinding j))
    : i = j := by
  have hindex := congrArg (fun signature : List Int => signature.getD 1 0) h
  have hfixture := congrArg (fun signature : List Int => signature.getD 11 0) h
  simp only [shutterControlSignature, crowdedBinding, List.getD_cons_succ, List.getD_cons_zero]
    at hindex hfixture
  apply crowded_inj hi hj
  . exact Int32.toInt_inj.mp hfixture
  . exact Int32.toInt_inj.mp hindex

theorem crowdedBinding_layer {i j : Nat} (hi : i < 2 ^ 64) (hj : j < 2 ^ 64)
    (h : (crowdedBinding i).layer = (crowdedBinding j).layer)
    : i = j := by
  have htarget := congrArg layerTarget h
  rw [CompiledShutterBinding.layer, CompiledShutterBinding.layer, layerTarget_layerKey,
    layerTarget_layerKey] at htarget
  rw [CompiledShutterBinding.layer, CompiledShutterBinding.layer, layerKey, layerKey, htarget] at h
  apply crowded_inj hi hj
  . exact htarget
  . have hindex : (crowdedBinding i).shutterIndex.toUInt32.toNat
        = (crowdedBinding j).shutterIndex.toUInt32.toNat := by omega
    exact toUInt32_injective (UInt32.toNat_inj.mp hindex)

/-- Of more layers than there are identifiers two share one, whatever their signatures. -/
theorem exists_layout_not
    : ∃ scene, ¬LaysOut exactPlatform scene.shutterBindings
        (shutterControlLayout exactPlatform scene) := by
  generalize hcount : 4294967296 = count
  refine ⟨crowdedScene (count + 1), ?_⟩
  intro h
  generalize hbindings : (crowdedScene (count + 1)).shutterBindings = bindings at h
  have hbinding : ∀ i ∈ Finset.range (count + 1), crowdedBinding i ∈ bindings := by
    intro i hi
    rw [← hbindings, crowdedScene]
    apply List.mem_map_of_mem
    simpa using hi
  have hpigeon := @Finset.exists_ne_map_eq_of_card_lt_of_maps_to _ _ (Finset.range (count + 1))
    (Finset.range count) (by simp)
    (fun i => (shutterAuthority exactPlatform bindings (crowdedBinding i).layer).toUInt32.toNat) (by
      intro i _
      have hlt := (shutterAuthority exactPlatform bindings
        (crowdedBinding i).layer).toUInt32.toNat_lt
      simp only [Finset.coe_range, Set.mem_Iio]
      omega)
  obtain ⟨i, hi, j, hj, hne, hsame⟩ := hpigeon
  have hauthority := toUInt32_injective (UInt32.toNat_inj.mp hsame)
  have hfiled : ∀ i ∈ Finset.range (count + 1), ∃ a ∈ (shutterControlLayout exactPlatform
      (crowdedScene (count + 1))).byLayer, a.1 = (crowdedBinding i).layer
        ∧ a.2 = shutterAuthority exactPlatform bindings (crowdedBinding i).layer := by
    intro i hi
    have hlayer := (h.layers.2 (crowdedBinding i).layer).mpr ⟨_, hbinding i hi, rfl⟩
    rw [List.mem_map] at hlayer
    cases hlayer with
    | intro a ha =>
      refine ⟨a, ha.1, ha.2, ?_⟩
      rw [(mem_byLayer ha.1).2.2, ha.2, hbindings]
  obtain ⟨a, ha, halayer, haid⟩ := hfiled i hi
  obtain ⟨b, hb, hblayer, hbid⟩ := hfiled j hj
  have hperm := (h.grouped a ha b hb).mp (by rw [haid, hbid, hauthority])
  rw [halayer, hblayer] at hperm
  have hmem : shutterControlSignature exactPlatform (crowdedBinding i)
      ∈ bindingSignatures exactPlatform bindings (crowdedBinding i).layer := by
    apply List.mem_map_of_mem
    simpa using hbinding i hi
  rw [hperm.mem_iff, bindingSignatures, List.mem_map] at hmem
  obtain ⟨other, hother, hsignature⟩ := hmem
  have hother := List.mem_filter.mp hother
  rw [← hbindings, crowdedScene, List.mem_map] at hother
  obtain ⟨⟨k, hk, hkother⟩, hlayer⟩ := hother
  simp only [Finset.mem_range, List.mem_range] at hi hj hk
  rw [← hkother] at hsignature hlayer
  have hki := crowdedBinding_signature (by omega) (by omega) hsignature
  have hkj := @crowdedBinding_layer k j (by omega) (by omega) (by simpa using hlayer)
  omega

end Peraviz.Runtime
