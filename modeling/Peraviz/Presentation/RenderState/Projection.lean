import Peraviz.Presentation.RenderState.Dense
import Peraviz.Presentation.Setup.RenderGroups

/-!
This module contains the projection of the physical outputs onto the rows of the renderer: the
contributions of the members of a row, their sums, and the rows that have to be drawn again.
-/

namespace Peraviz.Presentation

open Peraviz.Runtime
open Setup (RenderPresentationClass)

structure PreparedOutput where
  index : Nat
  mask : UInt32
  values : RenderValues
  deriving DecidableEq

structure PreparedRenderRow where
  index : Nat
  mask : UInt32
  values : RenderValues
  deriving DecidableEq

structure MemberContribution where
  values : RenderValues := {}
  energy : ℚ := 0
  red : ℚ := 0
  green : ℚ := 0
  blue : ℚ := 0
  intensity : ℚ := 0
  valid : Bool := false
  deriving DecidableEq

structure RenderRowAccumulator where
  energy : ℚ := 0
  red : ℚ := 0
  green : ℚ := 0
  blue : ℚ := 0
  intensity : ℚ := 0
  representative : Nat := 0
  mask : UInt32 := 0
  presentation : RenderPresentationClass := .individual
  previous : RenderValues := {}
  committed : Bool := false
  deriving DecidableEq

structure RenderGroupProjection where
  physicalToRow : List Nat := []
  dirtyRows : List Nat := []
  members : List MemberContribution := []
  rows : List RenderRowAccumulator := []
  prepared : List PreparedRenderRow := []
  deriving DecidableEq

/-- The chromaticity of the boundary, decoded before energies are added up. -/
def linear (p : Platform) (c : ℚ) : ℚ :=
  let c := clamp c 0 1
  if c ≤ 4045 / 100000 then
    c / (1292 / 100)
  else
    p.pow ((c + 55 / 1000) / (1055 / 1000)) (24 / 10)

def encoded (p : Platform) (c : ℚ) : ℚ :=
  let c := clamp c 0 1
  p.toFloat (if c ≤ 31308 / 10000000 then
      1292 / 100 * c
    else
      1055 / 1000 * p.pow c (1 / (24 / 10)) - 55 / 1000)

def contribution (p : Platform) (v : RenderValues) : MemberContribution :=
  let energy := max 0 v.beamEnergy
  {
    values := v
    energy := energy
    red := linear p v.red * energy
    green := linear p v.green * energy
    blue := linear p v.blue * energy
    intensity := max 0 v.beamIntensity
    valid := true
  }

/-- A contribution in the place of an old one of the same member. -/
def RenderRowAccumulator.exchange (row : RenderRowAccumulator) (old next : MemberContribution)
    : RenderRowAccumulator :=
  { row with
    energy := row.energy + (next.energy - old.energy)
    red := row.red + (next.red - old.red)
    green := row.green + (next.green - old.green)
    blue := row.blue + (next.blue - old.blue)
    intensity := row.intensity + (next.intensity - old.intensity)
  }

/-- The values of an aggregated row, a row that is dark holds its chromaticity. -/
def RenderRowAccumulator.aggregate (p : Platform) (row : RenderRowAccumulator)
    (values : RenderValues) : RenderValues :=
  let energy := max row.energy 0
  let held := fun channel => if row.committed then channel else 1
  let lit := (1 : ℚ) / 10 ^ 12 < energy
  let intensity := p.toFloat (clamp row.intensity 0 50)
  let visible := if p.toFloat (1 / 1000000) < intensity then 1 else 0
  { values with
    red := if lit then encoded p (row.red / energy) else held row.previous.red
    green := if lit then encoded p (row.green / energy) else held row.previous.green
    blue := if lit then encoded p (row.blue / energy) else held row.previous.blue
    beamEnergy := p.toFloat energy
    spotEnergy := p.toFloat energy
    beamIntensity := intensity
    dimmer := visible
    visible := visible
    materialEnergy := 0
    colorGain := 1
  }

namespace RenderGroupProjection

variable (t : RenderGroupProjection)

/-- Every row has a member, and a row that stands for itself has one. -/
def validClasses (mapping : List Nat) (classes : List RenderPresentationClass) : Bool :=
  mapping.all (fun row => row < classes.length)
    && (List.range classes.length).all (fun row =>
      let members := mapping.countP (· == row)
      match classes.getD row .individual with
      | .individual => members == 1
      | .aggregated => members != 0
      | .instanced => false)

def install (mapping : List Nat) (classes : List RenderPresentationClass)
    : RenderGroupProjection × Bool :=
  if validClasses mapping classes then
    ({
        physicalToRow := mapping
        members := List.replicate mapping.length {}
        rows := (List.range classes.length).map (fun row => {
          representative := mapping.idxOf row
          presentation := classes.getD row .individual
        })
      }, true)
  else
    (t, false)

def invalidate : RenderGroupProjection :=
  { t with rows := t.rows.map (fun row => { row with committed := false }) }

def memberValues (index : Nat) : RenderValues := (t.members.getD index {}).values

def row (index : Nat) : RenderRowAccumulator := t.rows.getD index {}

/-- A dirty output whose values are those of its contribution is passed over. -/
def prepareMember (p : Platform) (physical : DensePresentationState) (t : RenderGroupProjection)
    (index : Nat) : RenderGroupProjection :=
  let old := t.members.getD index {}
  let rowIndex := t.physicalToRow.getD index 0
  let row := t.row rowIndex
  let values := physical.renderValues p index
  let pending := physical.pendingMask index
  if t.members.length ≤ index then
    t
  else if old.valid ∧ old.values = values ∧ row.committed
      ∧ pending &&& VisualChangeBeamTopology = 0 then
    t
  else
    let mask := row.mask ||| (pending ||| VisualChangeDimmer ||| VisualChangeColor
      ||| VisualChangeMaterial)
    let next := contribution p values
    let marked := { row with
      mask := if !old.valid || !row.committed then
          mask ||| (VisualChangeBeamTopology ||| VisualChangeZoom)
        else
          mask
    }
    { t with
      dirtyRows := if row.mask = 0 then t.dirtyRows ++ [rowIndex] else t.dirtyRows
      rows := t.rows.set rowIndex
        (if row.presentation = .aggregated then marked.exchange old next else marked)
      members := t.members.set index next
    }

/-- A dirty row is emitted where its values are not those that were emitted last. -/
def prepareRow (p : Platform) (physical : DensePresentationState) (t : RenderGroupProjection)
    (index : Nat) : RenderGroupProjection :=
  let row := t.row index
  let held := physical.renderValues p row.representative
  let values := if row.presentation = .aggregated then row.aggregate p held else held
  if !row.committed ∨ row.previous ≠ values ∨ row.mask &&& VisualChangeBeamTopology ≠ 0 then
    { t with
      prepared := t.prepared ++ [⟨index, row.mask, values⟩]
      rows := t.rows.set index { row with
        previous := values
        committed := true
        mask := 0
      }
    }
  else
    { t with rows := t.rows.set index { row with mask := 0 } }

def prepare (p : Platform) (physical : DensePresentationState) : RenderGroupProjection :=
  let t := physical.dirty.foldl (prepareMember p physical)
    { t with
      prepared := []
      dirtyRows := []
    }
  t.dirtyRows.foldl (prepareRow p physical) t

end RenderGroupProjection
end Peraviz.Presentation
