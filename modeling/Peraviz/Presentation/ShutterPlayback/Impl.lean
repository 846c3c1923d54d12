import Peraviz.Registry.Basic
import Peraviz.Runtime.Shutter.Envelope
import Peraviz.Transition.Machine

/-!
This module contains the playback of shutters: the parameters of the native authorities, the outputs
that each of them is routed to, and the sampling of those whose envelope can have changed.
-/

namespace Peraviz.Presentation

open Peraviz.Runtime

structure PlaybackAuthority where
  id : Int32 := 0
  index : Int32 := 1
  activeSlot : Option Nat := none
  p : ShutterParameters := {}
  owners : List Nat := []
  value : ℚ := 1
  dirty : Bool := false

/-- The buffers over the outputs and the authorities are functions of their positions. -/
structure ShutterPlayback where
  size : Nat := 0
  epoch : ℚ := 0
  clockSet : Bool := false
  ownerIds : List Int32 := []
  owners : Int32 → Option Nat := fun _ => none
  authoritySlots : Int32 → Option Nat := fun _ => none
  authorityCount : Nat := 0
  authorities : Nat → PlaybackAuthority := fun _ => {}
  byOwner : Nat → List Nat := fun _ => []
  active : List Nat := []
  dirtyAuthorities : List Nat := []
  dirty : List Nat := []
  changed : List Nat := []
  activeLayers : Nat → Nat := fun _ => 0
  nominated : Nat → Bool := fun _ => false
  force : Nat → Bool := fun _ => false
  envelopes : Nat → ℚ := fun _ => 1
  activeOutputs : Nat := 0
  associations : Nat := 0
  evaluations : Nat := 0
  changes : Nat := 0
  invalidations : Nat := 0

/-- One row of the shutter section, its scalars are finite. -/
structure PlaybackRow where
  target : Int32
  index : Int32
  authority : Int32
  p : ShutterParameters
  now : ℚ

namespace ShutterPlayback

def modifySlot (authorities : Nat → PlaybackAuthority) (slot : Nat)
    (f : PlaybackAuthority → PlaybackAuthority) : Nat → PlaybackAuthority :=
  Function.update authorities slot (f (authorities slot))

def activity (add : Bool) (s : ShutterPlayback) (owner : Nat) : ShutterPlayback :=
  if add then
    { s with
      activeLayers := Function.update s.activeLayers owner (s.activeLayers owner + 1)
      activeOutputs :=
        if s.activeLayers owner = 0 then s.activeOutputs + 1 else s.activeOutputs }
  else
    { s with
      activeLayers := Function.update s.activeLayers owner (s.activeLayers owner - 1)
      activeOutputs :=
        if s.activeLayers owner - 1 = 0 then s.activeOutputs - 1 else s.activeOutputs }

def evaluateLater (s : ShutterPlayback) (slot : Nat) : ShutterPlayback :=
  if (s.authorities slot).dirty then s
  else
    { s with
      authorities := modifySlot s.authorities slot (fun authority =>
        { authority with dirty := true })
      dirtyAuthorities := s.dirtyAuthorities ++ [slot] }

/-- The identifiers of the outputs in the order of the bindings, of equal ones the first counts. -/
def install (ids : List Int32) : ShutterPlayback :=
  { size := ids.length
    ownerIds := firstOccurrences ids
    owners := fun id => ids.findIdx? (fun other => other == id) }

def nominate (force : Bool) (s : ShutterPlayback) (owner : Nat) : ShutterPlayback :=
  if s.size ≤ owner ∨ s.byOwner owner = [] then s
  else
    let s := { s with force := Function.update s.force owner (s.force owner || force) }
    if s.nominated owner then s
    else
      { s with
        nominated := Function.update s.nominated owner true
        dirty := s.dirty ++ [owner] }

/-- The hash map of the outputs is traversed in the order of the platform. -/
def invalidate (platform : Platform) (s : ShutterPlayback) : ShutterPlayback :=
  let visited := (platform.hashOrder (s.ownerIds.map Int32.toInt)).filterMap (fun id =>
    s.owners (Int32.ofInt id))
  (visited.filter (fun owner => !(s.byOwner owner).isEmpty)).foldl (nominate true)
    { s with invalidations := s.invalidations + 1 }

/-! ### Rows -/

def sections (d : List Int32) : List SectionDescriptor :=
  ((List.range (d.length / 5)).map (fun index => {
    sectionType := d.getD (index * 5) 0
    rowCount := d.getD (index * 5 + 1) 0
    intOffset := d.getD (index * 5 + 2) 0
    floatOffset := d.getD (index * 5 + 3) 0
    flags := d.getD (index * 5 + 4) 0 })).filter (fun descriptor =>
      descriptor.sectionType = VisualSectionType.shutterState.toInt32)

abbrev Scalar := Option ℚ

/-- The cells of one row. -/
structure RowCells where
  i : List Int32
  f : List Scalar

def sectionRows (ints : List Int32) (v : List Scalar) (descriptor : SectionDescriptor)
    : List RowCells :=
  (List.range descriptor.rowCount.toInt.toNat).map (fun row => {
    i := (ints.drop (descriptor.intOffset.toInt.toNat + row * 10)).take 10
    f := (v.drop (descriptor.floatOffset.toInt.toNat + row * 7)).take 7 })

def sectionFits (ints : List Int32) (v : List Scalar) (descriptor : SectionDescriptor) : Bool :=
  !(descriptor.rowCount < 0 || descriptor.intOffset < 0 || descriptor.floatOffset < 0
    || descriptor.intOffset.toInt + descriptor.rowCount.toInt * 10 > ints.length
    || descriptor.floatOffset.toInt + descriptor.rowCount.toInt * 7 > v.length)

def RowCells.valid (cells : RowCells) : Bool :=
  let i := fun cell => cells.i.getD cell 0
  !(i 2 < 1 || i 8 < 1 || i 3 < -1 || (i 3 > 5 && (i 3 < 9 || i 3 > 12)) || i 4 < 1)
    && cells.f.all Option.isSome

def RowCells.row (cells : RowCells) : PlaybackRow :=
  let i := fun cell => cells.i.getD cell 0
  let f := fun cell => (cells.f.getD cell none).getD 0
  { target := i 1
    index := i 2
    authority := i 8
    p := {
      wave := .ofUnderlying (i 3)
      functionId := i 6
      revision := i 4
      status := i 5
      frequency := f 0
      duration := f 1
      duty := f 2
      offset := f 3
      phase := f 4
      reference := f 5
      activation := i 7
      seed := (i 9).toUInt32 }
    now := f 6 }

/-- The rows of a payload that passes the first loop. -/
def payloadRows (d ints : List Int32) (v : List Scalar) : Option (List PlaybackRow) :=
  let cells := (sections d).flatMap (sectionRows ints v)
  if d.length % 5 = 0 ∧ (sections d).all (sectionFits ints v) ∧ cells.all RowCells.valid then
    some (cells.map RowCells.row)
  else
    none

/-! ### Ingestion -/

/-- The steady clock counts nanoseconds, a conversion cuts off what is left over. -/
def durationCast (seconds : ℚ) : ℚ :=
  let ticks := seconds * 1000000000
  (if 0 ≤ ticks then ticks.floor else ticks.ceil) / 1000000000

/-- The slot of an authority, a new one is appended. -/
def admitRow (s : ShutterPlayback) (row : PlaybackRow) : ShutterPlayback × Nat :=
  match s.authoritySlots row.authority with
  | some slot => (s, slot)
  | none =>
    ({ s with
        authoritySlots := Function.update s.authoritySlots row.authority (some s.authorityCount)
        authorities := Function.update s.authorities s.authorityCount
          { id := row.authority, index := row.index }
        authorityCount := s.authorityCount + 1 },
      s.authorityCount)

def setClock (received : ℚ) (s : ShutterPlayback) (row : PlaybackRow) : ShutterPlayback :=
  if s.clockSet then s
  else { s with epoch := received - durationCast row.now, clockSet := true }

/-- Whether an envelope changes while the parameters stay. -/
def temporal (p : ShutterParameters) : Bool := shutterPeriodic p.wave && decide (0 < p.frequency)

def activate (s : ShutterPlayback) (slot : Nat) : ShutterPlayback :=
  let s := { s with
    authorities := modifySlot s.authorities slot (fun authority =>
      { authority with activeSlot := some s.active.length })
    active := s.active ++ [slot] }
  (s.authorities slot).owners.foldl (activity true) s

/-- The last active authority takes the place of the one that is removed. -/
def deactivate (s : ShutterPlayback) (slot position : Nat) : ShutterPlayback :=
  let last := s.active.getLast?.getD slot
  let moved := modifySlot s.authorities last (fun authority =>
    { authority with activeSlot := some position })
  let s := { s with
    authorities := modifySlot moved slot (fun authority => { authority with activeSlot := none })
    active := (s.active.set position last).dropLast }
  (s.authorities slot).owners.foldl (activity false) s

def accept (s : ShutterPlayback) (slot : Nat) (p : ShutterParameters) : ShutterPlayback :=
  if (s.authorities slot).p.revision < p.revision then
    let s := { s with
      authorities := modifySlot s.authorities slot (fun authority => { authority with p := p }) }
    let s := match (s.authorities slot).activeSlot with
      | none => if temporal p then s.activate slot else s
      | some position => if temporal p then s else s.deactivate slot position
    s.evaluateLater slot
  else
    s

def associate (s : ShutterPlayback) (slot owner : Nat) : ShutterPlayback :=
  if slot ∈ s.byOwner owner then s
  else
    let s := { s with
      authorities := modifySlot s.authorities slot (fun authority =>
        { authority with owners := authority.owners ++ [owner] })
      byOwner := Function.update s.byOwner owner (s.byOwner owner ++ [slot])
      associations := s.associations + 1 }
    let s := if (s.authorities slot).activeSlot.isSome then s.activity true owner else s
    s.nominate true owner

/-- One row, `false` if its index is not the one of the authority. -/
def ingestRow (received : ℚ) (s : ShutterPlayback) (row : PlaybackRow) : ShutterPlayback × Bool :=
  match s.owners row.target with
  | none => (s, true)
  | some owner =>
    let (s, slot) := s.admitRow row
    if (s.authorities slot).index ≠ row.index then (s, false)
    else (((s.setClock received row).accept slot row.p).associate slot owner, true)

def ingestRows (received : ℚ) (s : ShutterPlayback) : List PlaybackRow → ShutterPlayback × Bool
  | [] => (s, true)
  | row :: rows =>
    match s.ingestRow received row with
    | (s, true) => ingestRows received s rows
    | (s, false) => (s, false)

def ingest (s : ShutterPlayback) (d ints : List Int32) (v : List Scalar) (received : ℚ)
    : ShutterPlayback × Bool :=
  match payloadRows d ints v with
  | none => (s, false)
  | some rows => s.ingestRows received rows

/-! ### Sampling -/

def pending (s : ShutterPlayback) : Bool :=
  !s.active.isEmpty || !s.dirtyAuthorities.isEmpty || !s.dirty.isEmpty

/-- The time of a sample, a test can prescribe it. -/
def sampleTime (s : ShutterPlayback) (testNow clockNow : ℚ) : ℚ :=
  if 0 ≤ testNow then testNow else clockNow - s.epoch

def evaluate (platform : Platform) (now : ℚ) (s : ShutterPlayback) (slot : Nat)
    : ShutterPlayback :=
  let value := platform.toFloat (shutterEnvelope (s.authorities slot).p now)
  let s := { s with evaluations := s.evaluations + 1 }
  let s := if (s.authorities slot).value ≠ value then
      let s := { s with
        authorities := modifySlot s.authorities slot (fun authority =>
          { authority with value := value }) }
      (s.authorities slot).owners.foldl (nominate false) s
    else
      s
  { s with
    authorities := modifySlot s.authorities slot (fun authority =>
      { authority with dirty := false }) }

/-- The product of the held values of the authorities of an output. -/
def heldProduct (platform : Platform) (s : ShutterPlayback) (owner : Nat) : ℚ :=
  (s.byOwner owner).foldl (fun value slot =>
    platform.toFloat (value * (s.authorities slot).value)) 1

def commit (platform : Platform) (s : ShutterPlayback) (owner : Nat) : ShutterPlayback :=
  let value := s.heldProduct platform owner
  let s := if s.force owner ∨ value ≠ s.envelopes owner then
      { s with
        envelopes := Function.update s.envelopes owner value
        changed := s.changed ++ [owner]
        changes := s.changes + 1 }
    else
      s
  { s with
    nominated := Function.update s.nominated owner false
    force := Function.update s.force owner false }

def tick (platform : Platform) (s : ShutterPlayback) (testNow clockNow : ℚ) : ShutterPlayback :=
  let s := { s with changed := [] }
  if s.pending then
    let now := s.sampleTime testNow clockNow
    let s := s.active.foldl evaluateLater s
    let s := { s.dirtyAuthorities.foldl (evaluate platform now) s with dirtyAuthorities := [] }
    { s.dirty.foldl (commit platform) s with dirty := [] }
  else
    s

end ShutterPlayback

/-- The calls that playback is driven with once it is installed. -/
inductive PlaybackCall where
  | ingest (d ints : List Int32) (v : List ShutterPlayback.Scalar) (received : ℚ)
  | tick (testNow clockNow : ℚ)
  | nominate (owner : Nat) (force : Bool)
  | invalidate

def ShutterPlayback.call (platform : Platform) (s : ShutterPlayback) : PlaybackCall → ShutterPlayback
  | .ingest d ints v received => (s.ingest d ints v received).1
  | .tick testNow clockNow => s.tick platform testNow clockNow
  | .nominate owner force => s.nominate force owner
  | .invalidate => s.invalidate platform

def ShutterPlayback.calls (platform : Platform) (s : ShutterPlayback) (calls : List PlaybackCall)
    : ShutterPlayback :=
  calls.foldl (ShutterPlayback.call platform) s

end Peraviz.Presentation
