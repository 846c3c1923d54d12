import Peraviz.Footprint.Basic
import Peraviz.Presentation.RenderState.Session
import Peraviz.Presentation.ShutterPlayback.Impl

/-!
This module contains what the main thread keeps of the renderer: the instance buffers of the batched
lenses, the parameters of the materials of lenses and surfaces, and the session that brings both up
to date with the physical outputs and their shutters.
-/

namespace Peraviz.Presentation

open Peraviz.Runtime
open Footprint (visitAt)

/-! ### The rendering server -/

abbrev RID := Nat

structure MaterialColor where
  red : ℚ := 0
  green : ℚ := 0
  blue : ℚ := 0
  deriving DecidableEq

/-- What the server was told last about a resource. -/
structure RenderingResource where
  buffer : Option (List ℚ) := none
  emission : Option MaterialColor := none
  emissionEnergy : Option ℚ := none
  visible : Option Bool := none
  deriving DecidableEq

inductive RenderingKey where
  | multimesh (rid : RID)
  | material (rid : RID)
  | surfaceInstance (rid : RID)
  deriving DecidableEq

abbrev RenderingServer := RenderingKey → RenderingResource

namespace RenderingServer

variable (server : RenderingServer)

def multimeshSetBuffer (rid : RID) (buffer : List ℚ) : RenderingServer :=
  Function.update server (.multimesh rid)
    { server (.multimesh rid) with buffer := some buffer }

def materialSetEmission (rid : RID) (color : MaterialColor) : RenderingServer :=
  Function.update server (.material rid)
    { server (.material rid) with emission := some color }

def materialSetEnergy (rid : RID) (energy : ℚ) : RenderingServer :=
  Function.update server (.material rid)
    { server (.material rid) with emissionEnergy := some energy }

def instanceSetVisible (rid : RID) (visible : Bool) : RenderingServer :=
  Function.update server (.surfaceInstance rid)
    { server (.surfaceInstance rid) with visible := some visible }

end RenderingServer

def RenderValues.color (v : RenderValues) : MaterialColor := ⟨v.red, v.green, v.blue⟩

/-! ### Batched lenses -/

/-- An instance of a batch, with the sixteen floats that the buffer of the batch has of it. -/
structure LensSlot where
  owner : Nat := 0
  scale : ℚ := 1
  baseEnergy : ℚ := 0
  visible : Bool := true
  transform : List ℚ := []
  placed : List ℚ := []
  color : MaterialColor := {}
  energy : ℚ := 0
  deriving DecidableEq

def LensSlot.cells (slot : LensSlot) : List ℚ :=
  slot.placed ++ [slot.color.red, slot.color.green, slot.color.blue, slot.energy]

structure LensBatch where
  rid : RID := 0
  slots : List LensSlot := []
  dirty : Bool := true
  deriving DecidableEq

namespace LensBatch

def buffer (batch : LensBatch) : List ℚ := batch.slots.flatMap LensSlot.cells

/-- Rewrites an instance, a float that changes makes the batch dirty. -/
def rewrite (f : LensSlot → LensSlot) (batch : LensBatch) (s : Nat) : LensBatch :=
  match batch.slots[s]? with
  | none => batch
  | some slot => { batch with
      slots := batch.slots.set s (f slot)
      dirty := batch.dirty || (f slot).cells != slot.cells
    }

/-- An instance that is hidden has a transform of zeros. -/
def setVisible (s : Nat) (visible : Bool) (batch : LensBatch) : LensBatch :=
  match batch.slots[s]? with
  | none => batch
  | some slot =>
    if slot.visible = visible then
      batch
    else
      { batch with
        slots := batch.slots.set s { slot with
          visible := visible
          placed := if visible then slot.transform else List.replicate 12 0
        }
        dirty := true
      }

def flush (server : RenderingServer) (batch : LensBatch) : RenderingServer × LensBatch :=
  if batch.dirty then
    (server.multimeshSetBuffer batch.rid batch.buffer, { batch with dirty := false })
  else
    (server, batch)

end LensBatch

structure LensRoute where
  batch : Nat
  slot : Nat
  deriving DecidableEq

structure NativeLensBatches where
  batches : List LensBatch := []
  routes : List (List LensRoute) := []
  enabled : Bool := true
  gain : ℚ := 1

namespace NativeLensBatches

def lensSlot (count : Nat) (owner : Int32) (scale : CallerFloat) (cells : List CallerFloat)
    : Option LensSlot := do
  let scale ← scale
  let cells ← cells.mapM id
  if owner < 0 ∨ count ≤ owner.toInt.toNat ∨ scale < 0 then
    none
  else
    some {
      owner := owner.toInt.toNat
      scale := scale
      transform := cells.take 12
      placed := cells.take 12
      color := ⟨cells.getD 12 0, cells.getD 13 0, cells.getD 14 0⟩
      energy := cells.getD 15 0
    }

def lensBatch (count : Nat) (rid : Option RID) (ids : Option (List Int32))
    (data gain : Option (List CallerFloat)) : Option LensBatch := do
  let rid ← rid
  let ids ← ids
  let data ← data
  let gain ← gain
  if ids.length < 8 ∨ 64 < ids.length ∨ data.length ≠ ids.length * 16 ∨ gain.length ≠ ids.length
      ∨ rid = 0 then
    none
  else
    let slots ← (List.range ids.length).mapM (fun s =>
      lensSlot count (ids.getD s 0) (gain.getD s none) ((data.drop (s * 16)).take 16))
    some { rid := rid, slots := slots }

/-- The instances of every batch in the order in which they are installed, with their owners. -/
def instances (batches : List LensBatch) : List (Nat × LensRoute) :=
  batches.zipIdx.flatMap (fun batch =>
    batch.1.slots.zipIdx.map (fun slot => (slot.1.owner, ⟨batch.2, slot.2⟩)))

def routesOf (count : Nat) (batches : List LensBatch) : List (List LensRoute) :=
  (instances batches).foldl (fun routes entry => routes.modify entry.1 (· ++ [entry.2]))
    (List.replicate count [])

def clear (lenses : NativeLensBatches) : NativeLensBatches :=
  { lenses with batches := [], routes := [] }

/-- The values of an array that are of the wrong type are `none`. -/
def install (count : Nat) (rids : List (Option RID)) (owners : List (Option (List Int32)))
    (buffers scales : List (Option (List CallerFloat))) (lenses : NativeLensBatches)
    : NativeLensBatches × Bool :=
  if rids.length ≠ owners.length ∨ rids.length ≠ buffers.length ∨ rids.length ≠ scales.length then
    (lenses, false)
  else if rids.isEmpty then
    (lenses.clear, true)
  else
    let next := (List.range rids.length).mapM (fun b =>
      lensBatch count (rids.getD b none) (owners.getD b none) (buffers.getD b none)
        (scales.getD b none))
    match next with
    | none => (lenses, false)
    | some next => ({ lenses with batches := next, routes := routesOf count next }, true)

def invalidate (lenses : NativeLensBatches) : NativeLensBatches :=
  { lenses with batches := lenses.batches.map (fun batch => { batch with dirty := true }) }

def rewrite (f : LensSlot → LensSlot) (lenses : NativeLensBatches) (route : LensRoute)
    : NativeLensBatches :=
  { lenses with batches := lenses.batches.modify route.batch (fun batch =>
      batch.rewrite f route.slot) }

/-- Rewrites the instances that an output is routed to. -/
def rewriteOwner (f : LensSlot → LensSlot) (lenses : NativeLensBatches) (owner : Nat)
    : NativeLensBatches :=
  (lenses.routes.getD owner []).foldl (rewrite f) lenses

def rewriteAll (f : LensSlot → LensSlot) (lenses : NativeLensBatches) : NativeLensBatches :=
  { lenses with batches := lenses.batches.map (fun batch =>
      (List.range batch.slots.length).foldl (LensBatch.rewrite f) batch) }

def flush (server : RenderingServer) (lenses : NativeLensBatches)
    : RenderingServer × NativeLensBatches :=
  let held := (List.range lenses.batches.length).foldl (visitAt LensBatch.flush)
    (server, lenses.batches)
  (held.1, { lenses with batches := held.2 })

/-- Enabling leaves the energies to the next rows. -/
def setEnabled (enabled : Bool) (lenses : NativeLensBatches) : NativeLensBatches :=
  let lenses := { lenses with enabled := enabled }
  let lenses := if enabled then lenses else
    lenses.rewriteAll (fun slot => { slot with energy := 0 })
  lenses.invalidate

def slotEnergy (p : Platform) (envelope : Nat → ℚ) (lenses : NativeLensBatches) (slot : LensSlot)
    : ℚ :=
  if lenses.enabled then
    p.toFloat (p.toFloat (slot.baseEnergy * lenses.gain) * envelope slot.owner)
  else
    0

def dimSlot (p : Platform) (envelope : Nat → ℚ) (lenses : NativeLensBatches) (slot : LensSlot)
    : LensSlot :=
  { slot with energy := lenses.slotEnergy p envelope slot }

def setGain (p : Platform) (envelope : Nat → ℚ) (gain : CallerFloat) (server : RenderingServer)
    (lenses : NativeLensBatches) : RenderingServer × NativeLensBatches :=
  match gain with
  | none => (server, lenses)
  | some gain =>
    let lenses := { lenses with gain := p.toFloat (max gain 0) }
    (lenses.rewriteAll (lenses.dimSlot p envelope)).flush server

def setVisible (b s : Int32) (visible : Bool) (lenses : NativeLensBatches) : NativeLensBatches :=
  if b < 0 ∨ s < 0 then
    lenses
  else
    let batches := lenses.batches.modify b.toInt.toNat (LensBatch.setVisible s.toInt.toNat visible)
    { lenses with batches := batches }

def writeSlot (p : Platform) (envelope : Nat → ℚ) (lenses : NativeLensBatches) (v : RenderValues)
    (slot : LensSlot) : LensSlot :=
  lenses.dimSlot p envelope { slot with
    baseEnergy := p.toFloat (v.materialEnergy * slot.scale)
    color := v.color
  }

def write (p : Platform) (envelope : Nat → ℚ) (held : Nat → RenderValues)
    (lenses : NativeLensBatches) (index : Nat) : NativeLensBatches :=
  lenses.rewriteOwner (lenses.writeSlot p envelope (held index)) index

/-- The synchronous and the completed rows take the same way. -/
def apply (p : Platform) (envelope : Nat → ℚ) (held : Nat → RenderValues) (rows : List Nat)
    (suppress : Bool) (server : RenderingServer) (lenses : NativeLensBatches)
    : RenderingServer × NativeLensBatches :=
  if lenses.batches.isEmpty then
    (server, lenses)
  else
    (if suppress then lenses else rows.foldl (write p envelope held) lenses).flush server

def applyShutters (p : Platform) (envelope : Nat → ℚ) (owners : List Nat)
    (server : RenderingServer) (lenses : NativeLensBatches) : RenderingServer × NativeLensBatches :=
  if lenses.enabled then
    (owners.foldl (fun lenses => lenses.rewriteOwner (lenses.dimSlot p envelope)) lenses).flush
      server
  else
    (server, lenses)

end NativeLensBatches

/-! ### Materials -/

structure SurfaceInstance where
  rid : RID
  allowed : Bool := true
  visible : Bool := false
  known : Bool := false
  deriving DecidableEq

/-- What the cache takes a parameter for that the server was not told. -/
def unknownColor : MaterialColor := ⟨-1, -1, -1⟩

/-- A material with the instance whose surface it is drawn on. -/
structure MaterialBinding where
  rid : RID := 0
  owner : Nat := 0
  scale : ℚ := 1
  color : MaterialColor := unknownColor
  energy : ℚ := -1
  surfaceBase : ℚ := 0
  lensBase : ℚ := 0
  surfaceInstance : Option SurfaceInstance := none
  deriving DecidableEq

/-- The flag of a binding is its membership in the list of the dirty ones. -/
structure PresentationMaterialBindings where
  bindings : List MaterialBinding := []
  routes : List (List Nat) := []
  dirty : List Nat := []
  enabled : Bool := true
  surface : Bool := false
  lensGain : ℚ := 1

namespace MaterialBinding

def updateSurfaceVisible (enabled force : Bool) (server : RenderingServer) (b : MaterialBinding)
    : RenderingServer × MaterialBinding :=
  match b.surfaceInstance with
  | none => (server, b)
  | some drawn =>
    let visible := enabled && drawn.allowed && 0 < b.energy
    if force || !drawn.known || visible != drawn.visible then
      (server.instanceSetVisible drawn.rid visible,
        { b with surfaceInstance := some { drawn with visible := visible, known := true } })
    else
      (server, b)

def setColor (color : MaterialColor) (server : RenderingServer) (b : MaterialBinding)
    : RenderingServer × MaterialBinding :=
  if b.color = color then
    (server, b)
  else
    (server.materialSetEmission b.rid color, { b with color := color })

def setEnergy (energy : ℚ) (server : RenderingServer) (b : MaterialBinding)
    : RenderingServer × MaterialBinding :=
  if b.energy = energy then
    (server, b)
  else
    (server.materialSetEnergy b.rid energy, { b with energy := energy })

/-- An energy that the server need not be told where it holds another one. -/
def nearEnergy (p : Platform) (held energy : ℚ) : Prop :=
  |p.toFloat (held - energy)|
    ≤ max (p.toFloat (1 / 100000)) (p.toFloat (p.toFloat (1 / 100000) * |held|))

instance (p : Platform) (held energy : ℚ) : Decidable (nearEnergy p held energy) :=
  inferInstanceAs (Decidable (_ ≤ _))

end MaterialBinding

namespace PresentationMaterialBindings

def clear (m : PresentationMaterialBindings) : PresentationMaterialBindings :=
  { m with bindings := [], routes := [], dirty := [] }

def validBinding (count : Nat) (rid : Option RID) (owner : Int32) (scale : CallerFloat)
    : Option MaterialBinding := do
  let rid ← rid
  let scale ← scale
  if owner < 0 ∨ count ≤ owner.toInt.toNat ∨ scale < 0 then
    none
  else
    some { rid := rid, owner := owner.toInt.toNat, scale := scale }

/-- The routes of an array of pairs, `none` if one of them leads outside. -/
def validRoutes (count materials : Nat) : List Int32 → Option (List (Nat × Nat))
  | index :: material :: routes =>
    if index < 0 ∨ count ≤ index.toInt.toNat ∨ material < 0 ∨ materials ≤ material.toInt.toNat then
      none
    else
      (validRoutes count materials routes).map ((index.toInt.toNat, material.toInt.toNat) :: ·)
  | [] => some []
  | [_] => none

def install (count : Nat) (rids : List (Option RID)) (owners : List Int32)
    (scales : List CallerFloat) (routes : List Int32) (surface : Bool)
    (m : PresentationMaterialBindings) : PresentationMaterialBindings × Bool :=
  if rids.length ≠ owners.length ∨ owners.length ≠ scales.length then
    (m, false)
  else
    let bindings := (List.range owners.length).mapM (fun i =>
      validBinding count (rids.getD i none) (owners.getD i 0) (scales.getD i none))
    match bindings, validRoutes count owners.length routes with
    | some bindings, some routes =>
      ({ m.clear with
          bindings := bindings
          routes := routes.foldl (fun routes route => routes.modify route.1 (· ++ [route.2]))
            (List.replicate count [])
          surface := surface
        }, true)
    | _, _ => (m, false)

/-- The steps of some bindings with what they tell the server. -/
def visit (step : RenderingServer → MaterialBinding → RenderingServer × MaterialBinding)
    (visited : List Nat) (server : RenderingServer) (m : PresentationMaterialBindings)
    : RenderingServer × PresentationMaterialBindings :=
  let held := visited.foldl (visitAt step) (server, m.bindings)
  (held.1, { m with bindings := held.2 })

def all (m : PresentationMaterialBindings) : List Nat := List.range m.bindings.length

def installSurfaceInstances (rids : List (Option RID)) (server : RenderingServer)
    (m : PresentationMaterialBindings) : RenderingServer × PresentationMaterialBindings × Bool :=
  match rids.mapM id with
  | none => (server, m, false)
  | some rids =>
    if !m.surface ∨ rids.length ≠ m.bindings.length then
      (server, m, false)
    else
      let m := { m with bindings := m.bindings.zipWith place rids }
      let (server, m) := m.visit (MaterialBinding.updateSurfaceVisible m.enabled true) m.all server
      (server, m, true)
where
  place (b : MaterialBinding) (rid : RID) : MaterialBinding :=
    { b with surfaceInstance := some { rid := rid } }

def setSurfaceVisible (index : Int32) (allowed : Bool) (server : RenderingServer)
    (m : PresentationMaterialBindings) : RenderingServer × PresentationMaterialBindings :=
  if index < 0 then
    (server, m)
  else
    m.visit (fun server b =>
      match b.surfaceInstance with
      | none => (server, b)
      | some drawn =>
        let b := { b with surfaceInstance := some { drawn with allowed := allowed } }
        b.updateSurfaceVisible m.enabled true server) [index.toInt.toNat] server

def invalidate (m : PresentationMaterialBindings) : PresentationMaterialBindings :=
  { m with bindings := m.bindings.map (fun b =>
      { b with color := unknownColor, energy := -1 }) }

def setEnabled (enabled : Bool) (server : RenderingServer) (m : PresentationMaterialBindings)
    : RenderingServer × PresentationMaterialBindings :=
  let m := if enabled && !m.enabled then m.invalidate else m
  let (server, m) := if enabled then (server, m) else
    m.visit (MaterialBinding.setEnergy 0) m.all server
  let m := { m with enabled := enabled }
  m.visit (MaterialBinding.updateSurfaceVisible enabled false) m.all server

/-- The energy of a material under the shutters of its output. -/
def bindingEnergy (p : Platform) (envelope : Nat → ℚ) (m : PresentationMaterialBindings)
    (b : MaterialBinding) : ℚ :=
  let base := if m.surface then
      p.toFloat (b.surfaceBase * b.scale)
    else
      p.toFloat (b.lensBase * m.lensGain)
  p.toFloat (base * envelope b.owner)

def setSurfaceGain (p : Platform) (envelope : Nat → ℚ) (gain : CallerFloat)
    (server : RenderingServer) (m : PresentationMaterialBindings)
    : RenderingServer × PresentationMaterialBindings :=
  match gain with
  | none => (server, m)
  | some gain =>
    if m.surface then
      m.visit (fun server b =>
        let b := { b with scale := p.toFloat (max gain 0) }
        let energy := if m.enabled then m.bindingEnergy p envelope b else 0
        let (server, b) := b.setEnergy energy server
        b.updateSurfaceVisible m.enabled false server) m.all server
    else
      (server, m)

def setLensGain (p : Platform) (envelope : Nat → ℚ) (gain : CallerFloat)
    (server : RenderingServer) (m : PresentationMaterialBindings)
    : RenderingServer × PresentationMaterialBindings :=
  match gain with
  | none => (server, m)
  | some gain =>
    if m.surface then
      (server, m)
    else
      let m := { m with lensGain := p.toFloat (max gain 0) }
      m.visit (fun server b =>
        b.setEnergy (if m.enabled then m.bindingEnergy p envelope b else 0) server) m.all server

def lightMask : UInt32 :=
  VisualChangeColor ||| VisualChangeDimmer ||| VisualChangeMaterial ||| VisualChangeBeamTopology

def nominate (m : PresentationMaterialBindings) (row : Nat × UInt32)
    : PresentationMaterialBindings :=
  if row.2 &&& lightMask = 0 then
    m
  else
    { m with dirty := (m.routes.getD row.1 []).foldl (fun dirty material =>
        if material ∈ dirty then dirty else dirty ++ [material]) m.dirty }

def rebase (p : Platform) (m : PresentationMaterialBindings) (v : RenderValues)
    (b : MaterialBinding) : MaterialBinding :=
  if m.surface then
    let base := if 0 < v.spotEnergy then v.spotEnergy else v.beamEnergy
    { b with surfaceBase := if 0 < v.visible then base else 0 }
  else
    { b with lensBase := p.toFloat (v.materialEnergy * b.scale) }

def write (p : Platform) (envelope : Nat → ℚ) (held : Nat → RenderValues)
    (m : PresentationMaterialBindings) (server : RenderingServer) (b : MaterialBinding)
    : RenderingServer × MaterialBinding :=
  let v := held b.owner
  let b := m.rebase p v b
  let energy := m.bindingEnergy p envelope b
  let (server, b) := b.setColor v.color server
  let (server, b) := if MaterialBinding.nearEnergy p b.energy energy then (server, b) else
    b.setEnergy energy server
  if m.surface then b.updateSurfaceVisible m.enabled false server else (server, b)

/-- The synchronous and the completed rows take the same way. -/
def apply (p : Platform) (envelope : Nat → ℚ) (held : Nat → RenderValues)
    (rows : List (Nat × UInt32)) (suppress : Bool) (server : RenderingServer)
    (m : PresentationMaterialBindings) : RenderingServer × PresentationMaterialBindings :=
  let m := { m with dirty := [] }
  if m.enabled then
    let m := rows.foldl nominate m
    if suppress then (server, m) else m.visit (m.write p envelope held) m.dirty server
  else
    (server, m)

def applyShutters (p : Platform) (envelope : Nat → ℚ) (owners : List Nat)
    (server : RenderingServer) (m : PresentationMaterialBindings)
    : RenderingServer × PresentationMaterialBindings :=
  if m.enabled then
    m.visit (fun server b =>
      let (server, b) := b.setEnergy (m.bindingEnergy p envelope b) server
      if m.surface then b.updateSurfaceVisible m.enabled false server else (server, b))
      (owners.flatMap (fun owner => m.routes.getD owner [])) server
  else
    (server, m)

end PresentationMaterialBindings

/-! ### The session -/

namespace DensePresentationState

theorem sized_nil : ([] : List OutputState).length = ([] : List OutputBinding).length := rfl

theorem tracked_nil (index : Nat) (h : (([] : List OutputState).getD index {}).mask ≠ 0)
    : index ∈ ([] : List Nat) := by
  simp at h

def clear (fresh : UInt64) (state : DensePresentationState) : DensePresentationState where
  generation := fresh
  traceEnabled := state.traceEnabled
  sized := sized_nil
  tracked := tracked_nil

end DensePresentationState

/-- A session whose coordinator is the main thread, with the server that it talks to. -/
structure PeravizPresentationState where
  state : DensePresentationState := {
    sized := DensePresentationState.sized_nil
    tracked := DensePresentationState.tracked_nil
  }
  projection : RenderGroupProjection := {}
  shutters : ShutterPlayback := {}
  shutterOwnersByRow : List (List Nat) := []
  heldRenderer : List (Option PreparedRenderRow) := []
  materials : PresentationMaterialBindings := {}
  footprints : PresentationMaterialBindings := {}
  lenses : NativeLensBatches := {}
  diagnosticSkipLensWrites : Bool := false
  lensWritesSuppressed : Bool := false
  server : RenderingServer := fun _ => {}

namespace PeravizPresentationState

variable (p : Platform) (s : PeravizPresentationState)

/-- The shutter of an output, which has none where nothing was admitted. -/
def envelope (owner : Nat) : ℚ :=
  if owner < s.shutters.size then s.shutters.envelopes owner else 1

def targets : List Int32 → List TargetBinding
  | lightingSection :: target :: output :: routes =>
    ⟨lightingSection, target, output.toUInt32.toNat⟩ :: targets routes
  | _ => []

def install (fresh : UInt64) (ids : List Int32) (scales : List CallerFloat) (routes : List Int32)
    : PeravizPresentationState × Bool :=
  let s := { s with
    lenses := s.lenses.clear
    footprints := s.footprints.clear
    heldRenderer := []
  }
  if ids.length ≠ scales.length ∨ routes.length % 3 ≠ 0 then
    (s, false)
  else
    let outputs := ids.zipWith RequestedOutput.mk scales
    let (state, installed) := s.state.installOutputs fresh outputs (targets routes)
    if installed then
      ({ s with
          state := state
          shutters := ShutterPlayback.install ids
          projection := {}
          materials := s.materials.clear
        }, true)
    else
      (s, false)

def clear (fresh : UInt64) : PeravizPresentationState :=
  { s with
    state := s.state.clear fresh
    projection := {}
    shutters := {}
    shutterOwnersByRow := []
    heldRenderer := []
    materials := s.materials.clear
    footprints := s.footprints.clear
    lenses := s.lenses.clear
  }

def installGroups (representatives : List Int32) : PeravizPresentationState × Bool :=
  let (state, installed) := s.state.installGroups representatives
  ({ s with state := state }, installed)

def installRenderRows (membership : List Int32) (classes : List Setup.RenderPresentationClass)
    : PeravizPresentationState × Bool :=
  let mapping := membership.map (fun row => row.toUInt32.toNat)
  let (projection, installed) := s.projection.install mapping classes
  if membership.length = s.state.bindings.length ∧ installed then
    ({ s with
        state := s.state.invalidateRenderer
        projection := projection
        shutterOwnersByRow := (List.range classes.length).map (fun row =>
          (List.range mapping.length).filter (fun owner => mapping.getD owner 0 == row))
        heldRenderer := List.replicate classes.length none
      }, true)
  else
    (s, false)

/-- `skip` is what the environment says about the diagnostic. -/
def installMaterials (skip : Bool) (rids : List (Option RID)) (owners : List Int32)
    (scales : List CallerFloat) (routes : List Int32) : PeravizPresentationState × Bool :=
  let (materials, installed) := s.materials.install s.state.bindings.length rids owners scales
    routes false
  ({ s with materials := materials, diagnosticSkipLensWrites := skip }, installed)

def installLenses (generation : UInt64) (rids : List (Option RID))
    (owners : List (Option (List Int32))) (buffers scales : List (Option (List CallerFloat)))
    : PeravizPresentationState × Bool :=
  if generation ≠ s.state.generation then
    (s, false)
  else
    let (lenses, installed) := s.lenses.install s.state.bindings.length rids owners buffers scales
    ({ s with lenses := lenses }, installed)

def installFootprints (generation : UInt64) (rids instances : List (Option RID))
    (owners : List Int32) (scales : List CallerFloat) (routes : List Int32)
    : PeravizPresentationState × Bool :=
  if generation ≠ s.state.generation then
    (s, false)
  else
    let (footprints, installed) := s.footprints.install s.state.bindings.length rids owners scales
      routes true
    if installed then
      let (server, footprints, drawn) := footprints.installSurfaceInstances instances s.server
      ({ s with footprints := footprints, server := server }, drawn)
    else
      ({ s with footprints := footprints }, false)

def clearLenses : PeravizPresentationState := { s with lenses := s.lenses.clear }

def clearFootprints : PeravizPresentationState := { s with footprints := s.footprints.clear }

def setMaterialsEnabled (enabled : Bool) : PeravizPresentationState :=
  let (server, materials) := s.materials.setEnabled enabled s.server
  { s with lenses := s.lenses.setEnabled enabled, materials := materials, server := server }

def setFootprintsEnabled (enabled : Bool) : PeravizPresentationState :=
  let (server, footprints) := s.footprints.setEnabled enabled s.server
  { s with footprints := footprints, server := server }

def setFootprintVisible (index : Int32) (visible : Bool) : PeravizPresentationState :=
  let (server, footprints) := s.footprints.setSurfaceVisible index visible s.server
  { s with footprints := footprints, server := server }

def setLensVisible (batch slot : Int32) (visible : Bool) : PeravizPresentationState :=
  { s with lenses := s.lenses.setVisible batch slot visible }

def flushLenses : PeravizPresentationState :=
  let (server, lenses) := s.lenses.flush s.server
  { s with lenses := lenses, server := server }

def setLensEmissionGain (gain : CallerFloat) : PeravizPresentationState :=
  let (server, lenses) := s.lenses.setGain p s.envelope gain s.server
  let (server, materials) := s.materials.setLensGain p s.envelope gain server
  { s with lenses := lenses, materials := materials, server := server }

/-- A row that is drawn nominates its outputs, where any of them has a shutter. -/
def applyBeam (s : PeravizPresentationState) (row : PreparedRenderRow) : PeravizPresentationState :=
  if row.index < s.heldRenderer.length then
    let owners := s.shutterOwnersByRow.getD row.index []
    { s with
      shutters := if 0 < s.shutters.associations then
          owners.foldl (ShutterPlayback.nominate true) s.shutters
        else
          s.shutters
      heldRenderer := s.heldRenderer.set row.index (some { row with mask := 0 })
    }
  else
    s

def replayPresentationGains (shafts surfaces : Bool) (gain : CallerFloat)
    : PeravizPresentationState :=
  let s := if surfaces then
      let (server, footprints) := s.footprints.setSurfaceGain p s.envelope gain s.server
      { s with footprints := footprints, server := server }
    else
      s
  if shafts then (s.heldRenderer.filterMap (fun row => row)).foldl applyBeam s else s

def invalidateRenderer : PeravizPresentationState :=
  { s with
    state := s.state.invalidateRenderer
    projection := s.projection.invalidate
    lenses := s.lenses.invalidate
    shutters := s.shutters.invalidate p
  }

/-- What remains here of the resources and the policy of the shutters. -/
def invalidateShutters : PeravizPresentationState :=
  { s with shutters := s.shutters.invalidate p }

/-- Leaving the diagnostic replays what is held. -/
def beginSnapshot (trace : Bool) : PeravizPresentationState :=
  let suppress := trace && s.diagnosticSkipLensWrites
  let state := { s.state with traceEnabled := trace }
  { s with
    state := if s.lensWritesSuppressed = suppress then state else state.invalidateRenderer
    lensWritesSuppressed := suppress
  }

def publish (generation : UInt64) : PeravizPresentationState :=
  let s := s.projection.prepared.foldl applyBeam s
  let held := s.state.renderValues p
  let rows := s.state.dirty.map (fun index => (index, s.state.pendingMask index))
  let (server, materials) := s.materials.apply p s.envelope held rows s.lensWritesSuppressed
    s.server
  let (server, footprints) := s.footprints.apply p s.envelope held rows false server
  let (server, lenses) := s.lenses.apply p s.envelope held s.state.dirty s.lensWritesSuppressed
    server
  { s with
    materials := materials
    footprints := footprints
    lenses := lenses
    server := server
    state := s.state.finishSnapshot generation
  }

def compose (generation : UInt64) (descriptors integers : List Int32) (floats : List CallerFloat)
    (trace : Bool) (received : ℚ) : PeravizPresentationState × Bool :=
  let s := s.beginSnapshot trace
  let (state, composed) := s.state.composeBuffers generation (.filled descriptors)
    (.filled integers) (.filled floats)
  if s.projection.members.length ≠ s.state.bindings.length ∨ !composed then
    (s, false)
  else
    let (shutters, ingested) := s.shutters.ingest descriptors integers floats received
    let s := { s with
      state := state
      projection := s.projection.prepare p state
      shutters := shutters
    }
    if ingested then (s.publish p generation, true) else (s, false)

def consumeRuntime (core : Runtime.Core) (now : ℚ) (generation : UInt64) (schemaGeneration : Int32)
    (trace : Bool) (received : ℚ) : PeravizPresentationState × Bool :=
  if core.schema.schemaGeneration ≠ schemaGeneration ∨ generation ≠ s.state.generation then
    (s, false)
  else
    let s := s.beginSnapshot trace
    match consumeDirect p now core s.state s.projection generation schemaGeneration with
    | none => (s, false)
    | some result =>
      let frame := result.frame
      let s := { s with
        state := result.state
        projection := result.projection
        shutters := (s.shutters.ingest frame.descriptors frame.integers (frame.floats.map some)
          received).1
      }
      (s.publish p generation, true)

def advanceShutters (generation : UInt64) (testNow clockNow : ℚ) : PeravizPresentationState :=
  if generation ≠ s.state.generation ∨ !s.shutters.pending then
    s
  else
    let s := { s with shutters := s.shutters.tick p testNow clockNow }
    let changed := s.shutters.changed
    if changed.isEmpty then
      s
    else
      let (server, materials) := if s.lensWritesSuppressed then (s.server, s.materials) else
        s.materials.applyShutters p s.envelope changed s.server
      let (server, lenses) := if s.lensWritesSuppressed then (server, s.lenses) else
        s.lenses.applyShutters p s.envelope changed server
      let (server, footprints) := s.footprints.applyShutters p s.envelope changed server
      { s with
        materials := materials
        lenses := lenses
        footprints := footprints
        server := server
      }

end PeravizPresentationState

/-- What the scripts ask of a session, `fresh` is the number of the generation it may start. -/
inductive PresentationCall where
  | install (fresh : UInt64) (ids : List Int32) (scales : List CallerFloat) (routes : List Int32)
  | clear (fresh : UInt64)
  | installGroups (representatives : List Int32)
  | installRenderRows (membership : List Int32) (classes : List Setup.RenderPresentationClass)
  | installMaterials (skip : Bool) (rids : List (Option RID)) (owners : List Int32)
      (scales : List CallerFloat) (routes : List Int32)
  | installLenses (generation : UInt64) (rids : List (Option RID))
      (owners : List (Option (List Int32))) (buffers scales : List (Option (List CallerFloat)))
  | installFootprints (generation : UInt64) (rids instances : List (Option RID))
      (owners : List Int32) (scales : List CallerFloat) (routes : List Int32)
  | clearLenses
  | clearFootprints
  | setMaterialsEnabled (enabled : Bool)
  | setFootprintsEnabled (enabled : Bool)
  | setFootprintVisible (index : Int32) (visible : Bool)
  | setLensVisible (batch slot : Int32) (visible : Bool)
  | flushLenses
  | setLensEmissionGain (gain : CallerFloat)
  | replayPresentationGains (shafts surfaces : Bool) (gain : CallerFloat)
  | invalidateRenderer
  | invalidateShutters
  | compose (generation : UInt64) (descriptors integers : List Int32) (floats : List CallerFloat)
      (trace : Bool) (received : ℚ)
  | consumeRuntime (core : Runtime.Core) (now : ℚ) (generation : UInt64) (schemaGeneration : Int32)
      (trace : Bool) (received : ℚ)
  | advanceShutters (generation : UInt64) (testNow clockNow : ℚ)

/-- The session after a call, and what the call answers. -/
def PeravizPresentationState.call (p : Platform) (s : PeravizPresentationState)
    : PresentationCall → PeravizPresentationState × Bool
  | .install fresh ids scales routes => s.install fresh ids scales routes
  | .clear fresh => (s.clear fresh, true)
  | .installGroups representatives => s.installGroups representatives
  | .installRenderRows membership classes => s.installRenderRows membership classes
  | .installMaterials skip rids owners scales routes =>
    s.installMaterials skip rids owners scales routes
  | .installLenses generation rids owners buffers scales =>
    s.installLenses generation rids owners buffers scales
  | .installFootprints generation rids instances owners scales routes =>
    s.installFootprints generation rids instances owners scales routes
  | .clearLenses => (s.clearLenses, true)
  | .clearFootprints => (s.clearFootprints, true)
  | .setMaterialsEnabled enabled => (s.setMaterialsEnabled enabled, true)
  | .setFootprintsEnabled enabled => (s.setFootprintsEnabled enabled, true)
  | .setFootprintVisible index visible => (s.setFootprintVisible index visible, true)
  | .setLensVisible batch slot visible => (s.setLensVisible batch slot visible, true)
  | .flushLenses => (s.flushLenses, true)
  | .setLensEmissionGain gain => (s.setLensEmissionGain p gain, true)
  | .replayPresentationGains shafts surfaces gain =>
    (s.replayPresentationGains p shafts surfaces gain, true)
  | .invalidateRenderer => (s.invalidateRenderer p, true)
  | .invalidateShutters => (s.invalidateShutters p, true)
  | .compose generation descriptors integers floats trace received =>
    s.compose p generation descriptors integers floats trace received
  | .consumeRuntime core now generation schemaGeneration trace received =>
    s.consumeRuntime p core now generation schemaGeneration trace received
  | .advanceShutters generation testNow clockNow =>
    (s.advanceShutters p generation testNow clockNow, true)

end Peraviz.Presentation
