import Mathlib.Algebra.Group.Nat.Defs
import Peraviz.Chunked.Basic

/-!
This module contains the reads of a 3DS file. Every read belongs to the chunk that declares the
data, and is a fault where it leaves the payload of that chunk.
-/

namespace Peraviz.Mesh3ds

open Chunked (require)

/--
Why a run stops. `rejected` is a file that the validation turns down. The other faults stand for
what the code does not check at that place: a read out of bounds, a size that does not fit its
type, a walk that does not end.
-/
inductive Fault where
  | rejected
  | exhausted
  | outside
  | overflow
deriving DecidableEq

/-- A chunk by the range of its payload. -/
structure Chunk where
  id : Nat
  dataStart : Nat
  next : Nat
deriving DecidableEq

variable (bytes : List UInt8)

def Inside (chunk : Chunk) (pos size : Nat) : Prop :=
  chunk.dataStart ≤ pos ∧ pos + size ≤ chunk.next ∧ chunk.next ≤ bytes.length

instance (chunk : Chunk) (pos size : Nat) : Decidable (Inside bytes chunk pos size) :=
  inferInstanceAs (Decidable (_ ∧ _ ∧ _))

def byteAt (pos : Nat) : Nat := (bytes.getD pos 0).toNat

def uint16At (pos : Nat) : Nat := byteAt bytes pos + 256 * byteAt bytes (pos + 1)

def uint32At (pos : Nat) : Nat := uint16At bytes pos + 65536 * uint16At bytes (pos + 2)

def readByte (chunk : Chunk) (pos : Nat) : Except Fault Nat := do
  require (Inside bytes chunk pos 1) .outside
  return byteAt bytes pos

def readUint16 (chunk : Chunk) (pos : Nat) : Except Fault Nat := do
  require (Inside bytes chunk pos 2) .outside
  return uint16At bytes pos

def readUint32 (chunk : Chunk) (pos : Nat) : Except Fault Nat := do
  require (Inside bytes chunk pos 4) .outside
  return uint32At bytes pos

def fits (bits value : Nat) : Except Fault Unit :=
  require (value < 2 ^ bits) .overflow

/--
Reads a header in the payload of the chunk around it. The validation refuses what is a fault here,
the loader subtracts the six bytes of the header and reads on without a check.
-/
def readChunk (region : Chunk) (pos : Nat) : Except Fault Chunk := do
  let id ← readUint16 bytes region pos
  let length ← readUint32 bytes region (pos + 2)
  require (6 ≤ length) .overflow
  require (pos + length ≤ region.next) .outside
  return { id := id, dataStart := pos + 6, next := pos + length }

def eachChunk {σ : Type} (visit : σ → Chunk → Except Fault σ) (region : Chunk) (pos : Nat)
    (state : σ) : Except Fault σ :=
  Chunked.walk (readChunk bytes region) Chunk.next .exhausted visit region.next
    (region.next - pos) pos state

structure Name where
  text : List UInt8
  after : Nat
  terminated : Bool

-- One byte after the other, up to a zero byte or the end of the chunk.
def readName (chunk : Chunk) : Nat → List UInt8 → Nat → Except Fault Name
  | 0, text, pos => .ok { text := text, after := pos, terminated := false }
  | fuel + 1, text, pos => do
    let ch ← readByte bytes chunk pos
    if ch = 0 then
      return { text := text, after := pos + 1, terminated := true }
    else
      readName chunk fuel (text ++ [UInt8.ofNat ch]) (pos + 1)

def readCstring (chunk : Chunk) (pos : Nat) : Except Fault Name :=
  readName bytes chunk (chunk.next - pos) [] pos

structure Vertex where
  x : Nat
  y : Nat
  z : Nat
deriving DecidableEq

def vertexAt (pos : Nat) : Vertex :=
  { x := uint32At bytes pos, y := uint32At bytes (pos + 4), z := uint32At bytes (pos + 8) }

-- The vertices of a list are read as one block.
def readVertices (chunk : Chunk) (count pos : Nat) : Except Fault (List Vertex) := do
  require (Inside bytes chunk pos (12 * count)) .outside
  return (List.range count).map (fun i => vertexAt bytes (pos + 12 * i))

structure Face where
  a : Nat
  b : Nat
  c : Nat
deriving DecidableEq

def Face.largest (face : Face) : Nat := max face.a (max face.b face.c)

def readFaces (chunk : Chunk) : Nat → Nat → Except Fault (List Face)
  | 0, _ => .ok []
  | count + 1, pos => do
    let a ← readUint16 bytes chunk pos
    let b ← readUint16 bytes chunk (pos + 2)
    let c ← readUint16 bytes chunk (pos + 4)
    let _flag ← readUint16 bytes chunk (pos + 6)
    let faces ← readFaces chunk count (pos + 8)
    return { a := a, b := b, c := c } :: faces

section Lemmas

open Chunked (bind_eq_ok require_eq_ok require_of Ends)

variable {bytes} {chunk region : Chunk} {pos size value : Nat}

theorem Inside.part (h : Inside bytes chunk pos size) {offset part : Nat}
    (hpart : offset + part ≤ size) : Inside bytes chunk (pos + offset) part := by
  obtain ⟨hlow, hhigh, hfile⟩ := h
  exact ⟨by omega, by omega, hfile⟩

theorem Inside.front (h : Inside bytes chunk pos size) {part : Nat} (hpart : part ≤ size)
    : Inside bytes chunk pos part := by
  obtain ⟨hlow, hhigh, hfile⟩ := h
  exact ⟨hlow, by omega, hfile⟩

theorem readByte_of (h : Inside bytes chunk pos 1)
    : readByte bytes chunk pos = .ok (byteAt bytes pos) :=
  bind_eq_ok.mpr ⟨(), require_of h, rfl⟩

theorem readUint16_of (h : Inside bytes chunk pos 2)
    : readUint16 bytes chunk pos = .ok (uint16At bytes pos) :=
  bind_eq_ok.mpr ⟨(), require_of h, rfl⟩

theorem readUint32_of (h : Inside bytes chunk pos 4)
    : readUint32 bytes chunk pos = .ok (uint32At bytes pos) :=
  bind_eq_ok.mpr ⟨(), require_of h, rfl⟩

theorem inside_of_readUint16 (h : readUint16 bytes chunk pos = .ok value)
    : Inside bytes chunk pos 2 := by
  obtain ⟨_, hinside, _⟩ := bind_eq_ok.mp h
  exact require_eq_ok.mp hinside

theorem uint16At_lt (bytes : List UInt8) (pos : Nat) : uint16At bytes pos < 65536 := by
  have hlow := (bytes.getD pos 0).toNat_lt
  have hhigh := (bytes.getD (pos + 1) 0).toNat_lt
  rw [uint16At, byteAt, byteAt]
  omega

theorem uint32At_lt (pos : Nat) : uint32At bytes pos < 4294967296 := by
  have hlow := uint16At_lt bytes pos
  have hhigh := uint16At_lt bytes (pos + 2)
  rw [uint32At]
  omega

/-- What a chunk is that was read in another. -/
structure IsChunkAt (bytes : List UInt8) (region : Chunk) (pos : Nat) (chunk : Chunk) : Prop where
  low : region.dataStart ≤ pos
  start : chunk.dataStart = pos + 6
  data : chunk.dataStart ≤ chunk.next
  high : chunk.next ≤ region.next
  file : chunk.next ≤ bytes.length

theorem readChunk_spec (h : readChunk bytes region pos = .ok chunk)
    : IsChunkAt bytes region pos chunk := by
  obtain ⟨id, hid, h⟩ := bind_eq_ok.mp h
  obtain ⟨length, _, h⟩ := bind_eq_ok.mp h
  obtain ⟨_, hsix, h⟩ := bind_eq_ok.mp h
  obtain ⟨_, hnext, h⟩ := bind_eq_ok.mp h
  have hsix := require_eq_ok.mp hsix
  have hnext := require_eq_ok.mp hnext
  obtain ⟨hlow, hhigh, hfile⟩ := inside_of_readUint16 hid
  cases h
  constructor
  . exact hlow
  . rfl
  . dsimp only
    omega
  . exact hnext
  . dsimp only
    omega

theorem readUint32_value (h : readUint32 bytes chunk pos = .ok value) : value < 4294967296 := by
  obtain ⟨_, hinside, _⟩ := bind_eq_ok.mp h
  rw [readUint32_of (require_eq_ok.mp hinside)] at h
  cases h
  exact uint32At_lt pos

theorem next_lt_of_readChunk (h : readChunk bytes region pos = .ok chunk)
    : chunk.next < pos + 4294967296 := by
  obtain ⟨id, _, h⟩ := bind_eq_ok.mp h
  obtain ⟨length, hlength, h⟩ := bind_eq_ok.mp h
  obtain ⟨_, _, h⟩ := bind_eq_ok.mp h
  obtain ⟨_, _, h⟩ := bind_eq_ok.mp h
  have hshort := readUint32_value hlength
  cases h
  dsimp only
  omega

theorem lt_next_of_terminated {name : Name} (h : readCstring bytes chunk pos = .ok name)
    (hterminated : name.terminated = true) : pos < chunk.next := by
  apply Nat.lt_of_not_le
  intro hle
  rw [readCstring, Nat.sub_eq_zero_of_le hle] at h
  cases h
  cases hterminated

theorem readName_spec {fuel : Nat} {text : List UInt8}
    (hinside : Inside bytes chunk pos fuel)
    : Ends (readName bytes chunk fuel text pos)
        (fun name => pos ≤ name.after ∧ name.after ≤ pos + fuel) := by
  induction fuel generalizing text pos with
  | zero => exact Ends.ok ⟨Nat.le_refl pos, Nat.le_refl pos⟩
  | succ fuel ih =>
    apply Ends.step (readByte_of (hinside.front (Nat.le_add_left 1 fuel)))
    split
    . apply Ends.ok
      dsimp only
      omega
    . have hrest : Inside bytes chunk (pos + 1) fuel := hinside.part (by omega)
      apply (ih hrest).mono
      intro name hname
      omega

theorem readFaces_spec {count : Nat} (hinside : Inside bytes chunk pos (8 * count))
    : Ends (readFaces bytes chunk count pos)
        (fun faces => faces.length = count ∧ ∀ face ∈ faces, face.largest < 65536) := by
  induction count generalizing pos with
  | zero => exact Ends.ok ⟨rfl, by simp⟩
  | succ count ih =>
    have hfirst : Inside bytes chunk pos 8 := hinside.front (by omega)
    have hrest : Inside bytes chunk (pos + 8) (8 * count) := hinside.part (by omega)
    apply Ends.step (readUint16_of (hfirst.front (by decide)))
    apply Ends.step (readUint16_of (hfirst.part (by decide)))
    apply Ends.step (readUint16_of (hfirst.part (by decide)))
    apply Ends.step (readUint16_of (hfirst.part (by decide)))
    apply Ends.bind (ih hrest)
    intro faces hfaces
    apply Ends.ok
    rw [List.length_cons, hfaces.1, List.forall_mem_cons, Face.largest]
    have ha := uint16At_lt bytes pos
    have hb := uint16At_lt bytes (pos + 2)
    have hc := uint16At_lt bytes (pos + 4)
    refine ⟨rfl, ?_, hfaces.2⟩
    dsimp only
    omega

end Lemmas

end Peraviz.Mesh3ds
