import Peraviz.Mesh3ds.Reads

/-!
This module contains the two walks over a 3DS file: the validation of all its chunks, and the loader
that takes the geometry and the materials from the chunks it knows. The vertex lists and face lists
of every mesh chunk of every object, and the mesh that they add up to, are here as well.
-/

namespace Peraviz.Mesh3ds

open Chunked (require)

section Validation

variable (bytes : List UInt8)

/-- What the validation remembers of the chunks of one region. -/
structure Census where
  vertexCount : Nat
  maximumIndex : Nat
  hasFaces : Bool

def Census.empty : Census :=
  { vertexCount := 0, maximumIndex := 0, hasFaces := false }

def isNamed (id : Nat) : Bool := id = 0x4000 || id = 0xA000 || id = 0xA300 || id = 0x4130

def isCounted (id : Nat) : Bool := id = 0x4110 || id = 0x4120 || id = 0x4140 || id = 0x4130

def isContainer (id : Nat) : Bool :=
  id = 0x3D3D || id = 0x4000 || id = 0x4100 || id = 0xAFFF || id = 0xA020 || id = 0xA200

def strideOf (id : Nat) : Nat := if id = 0x4110 then 12 else if id = 0x4130 then 2 else 8

def largestIndex (start : Nat) (faces : List Face) : Nat :=
  faces.foldl (fun largest face => max largest face.largest) start

def skipTerminated (chunk : Chunk) : Except Fault Nat := do
  let name ← readCstring bytes chunk chunk.dataStart
  require (name.terminated = true) .rejected
  return name.after

-- Where the data of a chunk continues behind its name, if it has one.
def skipName (chunk : Chunk) : Except Fault Nat :=
  if isNamed chunk.id then skipTerminated bytes chunk else .ok chunk.dataStart

def validateCounted (inner : Chunk → Nat → Bool) (census : Census) (chunk : Chunk) (pos : Nat)
    : Except Fault Census := do
  let count ← readUint16 bytes chunk pos
  require (count * strideOf chunk.id ≤ chunk.next - (pos + 2)) .rejected
  if chunk.id = 0x4120 then do
    let faces ← readFaces bytes chunk count (pos + 2)
    require (inner chunk (pos + 2 + 8 * count) = true) .rejected
    return {
      census with
      maximumIndex := largestIndex census.maximumIndex faces
      hasFaces := decide (0 < count)
    }
  else if chunk.id = 0x4110 then
    return { census with vertexCount := count }
  else
    return census

def validateChunk (inner : Chunk → Nat → Bool) (census : Census) (chunk : Chunk)
    : Except Fault Census := do
  let pos ← skipName bytes chunk
  if isCounted chunk.id then
    validateCounted bytes inner census chunk pos
  else if isContainer chunk.id then do
    require (inner chunk pos = true) .rejected
    return census
  else do
    require (chunk.id = 0x0010 ∨ chunk.id = 0x0013 → 12 ≤ chunk.next - chunk.dataStart) .rejected
    require (chunk.id = 0x0011 ∨ chunk.id = 0x0012 → 3 ≤ chunk.next - chunk.dataStart) .rejected
    return census

/--
The first argument counts the levels that are left below the limit of 64. The walk ends at the end
of the region and not behind it, as no chunk leaves the region.
-/
def validateChunks : Nat → Chunk → Nat → Bool
  | 0, _, _ => false
  | levels + 1, region, pos =>
    match eachChunk bytes (validateChunk bytes (validateChunks levels)) region pos Census.empty with
    | .error _ => false
    | .ok census =>
      decide (pos ≤ region.next)
        && (!census.hasFaces || decide (census.maximumIndex < census.vertexCount))

def maximumLevels : Nat := 65

end Validation

section Loader

variable (bytes : List UInt8)

/-- The values of a color chunk: three floating point words, or three bytes of up to 255. -/
inductive Color where
  | floats (r g b : Nat)
  | bytes (r g b : Nat)
deriving DecidableEq

structure MaterialInfo where
  color : Color
  hasColor : Bool

-- The word is 1.0F.
def MaterialInfo.white : MaterialInfo :=
  { color := .floats 0x3F800000 0x3F800000 0x3F800000, hasColor := false }

/-- The second coordinate as it is in the file. The mesh holds its distance to one. -/
structure Texcoord where
  u : Nat
  v : Nat
deriving DecidableEq

structure Triangle where
  a : Nat
  b : Nat
  c : Nat
deriving DecidableEq

structure MeshData where
  vertices : List Vertex
  indices : List Triangle
  texcoords : List Texcoord
deriving DecidableEq

def MeshData.empty : MeshData :=
  { vertices := [], indices := [], texcoords := [] }

/--
What the loader carries along. The colors of the faces are kept with their weights, from which the
mean color follows.
-/
structure LoadState where
  mesh : MeshData
  materials : List (List UInt8 × MaterialInfo)
  textureFilename : List UInt8
  colorAccum : List (Color × Nat)

def LoadState.empty : LoadState :=
  { mesh := MeshData.empty, materials := [], textureFilename := [], colorAccum := [] }

def visitColor (info : MaterialInfo) (chunk : Chunk) : Except Fault MaterialInfo :=
  if chunk.id = 0x0010 ∨ chunk.id = 0x0013 then do
    let r ← readUint32 bytes chunk chunk.dataStart
    let g ← readUint32 bytes chunk (chunk.dataStart + 4)
    let b ← readUint32 bytes chunk (chunk.dataStart + 8)
    return { color := .floats r g b, hasColor := true }
  else if chunk.id = 0x0011 ∨ chunk.id = 0x0012 then do
    let r ← readByte bytes chunk chunk.dataStart
    let g ← readByte bytes chunk (chunk.dataStart + 1)
    let b ← readByte bytes chunk (chunk.dataStart + 2)
    return { color := .bytes r g b, hasColor := true }
  else
    return info

def visitTexture (textureFilename : List UInt8) (chunk : Chunk) : Except Fault (List UInt8) :=
  if chunk.id = 0xA300 then do
    let candidate ← readCstring bytes chunk chunk.dataStart
    return if candidate.text.isEmpty then textureFilename else candidate.text
  else
    return textureFilename

structure MaterialCursor where
  name : List UInt8
  info : MaterialInfo
  textureFilename : List UInt8

def visitMaterial (cursor : MaterialCursor) (chunk : Chunk) : Except Fault MaterialCursor :=
  if chunk.id = 0xA000 then do
    let name ← readCstring bytes chunk chunk.dataStart
    return { cursor with name := name.text }
  else if chunk.id = 0xA020 then do
    let info ← eachChunk bytes (visitColor bytes) chunk chunk.dataStart cursor.info
    return { cursor with info := info }
  else if chunk.id = 0xA200 then do
    let textureFilename ←
      eachChunk bytes (visitTexture bytes) chunk chunk.dataStart cursor.textureFilename
    return { cursor with textureFilename := textureFilename }
  else
    return cursor

def parseMaterialBlock (state : LoadState) (chunk : Chunk) : Except Fault LoadState := do
  let cursor ← eachChunk bytes (visitMaterial bytes) chunk chunk.dataStart
    { name := [], info := MaterialInfo.white, textureFilename := state.textureFilename }
  let materials :=
    if cursor.name.isEmpty then state.materials else (cursor.name, cursor.info) :: state.materials
  return { state with materials := materials, textureFilename := cursor.textureFilename }

def addFaceColor (state : LoadState) (name : List UInt8) (faceCount : Nat) : LoadState :=
  match state.materials.lookup name with
  | none => state
  | some info =>
    if info.hasColor then
      { state with colorAccum := state.colorAccum ++ [(info.color, faceCount)] }
    else
      state

def visitFaceMaterial (state : LoadState) (chunk : Chunk) : Except Fault LoadState :=
  if chunk.id = 0x4130 then do
    let name ← readCstring bytes chunk chunk.dataStart
    let faceCount ← readUint16 bytes chunk name.after
    return addFaceColor state name.text faceCount
  else
    return state

structure MeshCursor where
  state : LoadState
  objectVertexStart : Nat
  objectVertexCount : Nat

def parseVertexList (cursor : MeshCursor) (chunk : Chunk) : Except Fault MeshCursor := do
  let count ← readUint16 bytes chunk chunk.dataStart
  let start := cursor.state.mesh.vertices.length
  fits 64 (3 * start + 3 * count)
  let vertices ← readVertices bytes chunk count (chunk.dataStart + 2)
  let mesh := { cursor.state.mesh with vertices := cursor.state.mesh.vertices ++ vertices }
  return {
    state := { cursor.state with mesh := mesh }
    objectVertexStart := start
    objectVertexCount := count
  }

def rebase (vertexBase : Nat) (face : Face) : Triangle :=
  { a := face.a + vertexBase, b := face.b + vertexBase, c := face.c + vertexBase }

def parseFaceList (vertexBase : Nat) (cursor : MeshCursor) (chunk : Chunk)
    : Except Fault MeshCursor := do
  let count ← readUint16 bytes chunk chunk.dataStart
  fits 64 (3 * cursor.state.mesh.indices.length + 3 * count)
  let faces ← readFaces bytes chunk count (chunk.dataStart + 2)
  -- Every sum of an index and the base is taken at 32 bits.
  fits 32 (largestIndex 0 faces + vertexBase)
  let mesh := {
    cursor.state.mesh with
    indices := cursor.state.mesh.indices ++ faces.map (rebase vertexBase)
  }
  let state ← eachChunk bytes (visitFaceMaterial bytes) chunk (chunk.dataStart + 2 + 8 * count)
    { cursor.state with mesh := mesh }
  return { cursor with state := state }

def readTexcoords (chunk : Chunk) (count pos : Nat) : Except Fault (List Texcoord) := do
  require (Inside bytes chunk pos (8 * count)) .outside
  return (List.range count).map (fun i =>
    { u := uint32At bytes (pos + 8 * i), v := uint32At bytes (pos + 8 * i + 4) })

def resizeTexcoords (texcoords : List Texcoord) (size : Nat) : List Texcoord :=
  texcoords ++ List.replicate (size - texcoords.length) { u := 0, v := 0 }

def writeTexcoords (texcoords : List Texcoord) (start : Nat) (part : List Texcoord)
    : List Texcoord :=
  texcoords.take start ++ part ++ texcoords.drop (start + part.length)

def parseTextureVertices (cursor : MeshCursor) (chunk : Chunk) : Except Fault MeshCursor := do
  let count ← readUint16 bytes chunk chunk.dataStart
  if 0 < cursor.objectVertexCount ∧ count = cursor.objectVertexCount then do
    let required := cursor.objectVertexStart + cursor.objectVertexCount
    fits 64 (2 * required)
    let part ← readTexcoords bytes chunk count (chunk.dataStart + 2)
    let texcoords := writeTexcoords (resizeTexcoords cursor.state.mesh.texcoords required)
      cursor.objectVertexStart part
    let mesh := { cursor.state.mesh with texcoords := texcoords }
    return { cursor with state := { cursor.state with mesh := mesh } }
  else
    return cursor

def visitMeshChunk (vertexBase : Nat) (cursor : MeshCursor) (chunk : Chunk)
    : Except Fault MeshCursor :=
  if chunk.id = 0x4110 then
    parseVertexList bytes cursor chunk
  else if chunk.id = 0x4120 then
    parseFaceList bytes vertexBase cursor chunk
  else if chunk.id = 0x4140 then
    parseTextureVertices bytes cursor chunk
  else
    return cursor

def parseMeshChunk (state : LoadState) (chunk : Chunk) : Except Fault LoadState := do
  let vertexBase := state.mesh.vertices.length
  let cursor ← eachChunk bytes (visitMeshChunk bytes vertexBase) chunk chunk.dataStart
    { state := state, objectVertexStart := vertexBase, objectVertexCount := 0 }
  return cursor.state

def visitObjectChunk (state : LoadState) (chunk : Chunk) : Except Fault LoadState :=
  if chunk.id = 0x4100 then parseMeshChunk bytes state chunk else return state

-- The first byte of the name of an object is read whether or not the chunk has one.
def readObjectName (chunk : Chunk) : Except Fault Name := do
  require (Inside bytes chunk chunk.dataStart 1) .outside
  readCstring bytes chunk chunk.dataStart

def parseObject (state : LoadState) (chunk : Chunk) : Except Fault LoadState := do
  let name ← readObjectName bytes chunk
  eachChunk bytes (visitObjectChunk bytes) chunk name.after state

def visitEditorChunk (state : LoadState) (chunk : Chunk) : Except Fault LoadState :=
  if chunk.id = 0x4000 then
    parseObject bytes state chunk
  else if chunk.id = 0xAFFF then
    parseMaterialBlock bytes state chunk
  else
    return state

def visitRootChunk (state : LoadState) (chunk : Chunk) : Except Fault LoadState :=
  if chunk.id = 0x3D3D then
    eachChunk bytes (visitEditorChunk bytes) chunk chunk.dataStart state
  else
    return state

def loadChunks (root : Chunk) : Except Fault LoadState :=
  eachChunk bytes (visitRootChunk bytes) root root.dataStart LoadState.empty

end Loader

section Load

/-- The floating point questions about a mesh. -/
structure Floats where
  hasArea : MeshData → Bool
  isCounterClockwise : MeshData → Bool

inductive Failure where
  | refused (error : String)
  | fault (fault : Fault)

def wholeFile (bytes : List UInt8) : Chunk :=
  { id := 0, dataStart := 0, next := bytes.length }

/-- The root chunk of a file that passes the validation. -/
def validatedRoot (bytes : List UInt8) : Option Chunk :=
  match readChunk bytes (wholeFile bytes) 0 with
  | .error _ => none
  | .ok root =>
    if root.id = 0x4D4D ∧ validateChunks bytes maximumLevels root root.dataStart = true then
      some root
    else
      none

-- The exponent of a number is not the one of the infinities and the values that are no numbers.
def isFinite (word : Nat) : Bool := word / 2 ^ 23 % 256 != 255

def Vertex.isFinite (vertex : Vertex) : Bool :=
  Mesh3ds.isFinite vertex.x && Mesh3ds.isFinite vertex.y && Mesh3ds.isFinite vertex.z

def Triangle.isBelow (count : Nat) (triangle : Triangle) : Bool :=
  triangle.a < count && triangle.b < count && triangle.c < count

def Triangle.flip (triangle : Triangle) : Triangle :=
  { a := triangle.a, b := triangle.c, c := triangle.b }

def ensureGodotClockwiseWinding (floats : Floats) (mesh : MeshData) : MeshData :=
  if floats.isCounterClockwise mesh then
    { mesh with indices := mesh.indices.map Triangle.flip }
  else
    mesh

def completeTexcoords (mesh : MeshData) : MeshData :=
  if mesh.texcoords.isEmpty then
    mesh
  else
    {
      mesh with
      texcoords := (resizeTexcoords mesh.texcoords mesh.vertices.length).take mesh.vertices.length
    }

def finishMesh (floats : Floats) (mesh : MeshData) : Except Failure MeshData := do
  require (!mesh.vertices.isEmpty && !mesh.indices.isEmpty)
    (.refused "no_renderable_geometry")
  require (mesh.vertices.all Vertex.isFinite) (.refused "invalid_3ds")
  require (mesh.indices.all (Triangle.isBelow mesh.vertices.length)) (.refused "invalid_3ds")
  require (floats.hasArea mesh) (.refused "no_renderable_geometry")
  return ensureGodotClockwiseWinding floats (completeTexcoords mesh)

def load3ds (floats : Floats) (bytes : List UInt8) : Except Failure MeshData :=
  match validatedRoot bytes with
  | none => .error (.refused "invalid_3ds")
  | some root =>
    match loadChunks bytes root with
    | .error fault => .error (.fault fault)
    | .ok state => finishMesh floats state.mesh

end Load

end Peraviz.Mesh3ds

/-! ### The geometry apart from the mesh that is loaded -/

namespace Peraviz.Mesh3ds

inductive Piece where
  | vertices (list : List Vertex)
  | faces (list : List Face)
deriving DecidableEq

/-- The lists of one mesh chunk in their order. -/
abbrev MeshPieces := List Piece

/-- The mesh chunks of one object. -/
abbrev Object := List MeshPieces

section Collect

variable (bytes : List UInt8)

def collectPiece (pieces : MeshPieces) (chunk : Chunk) : Except Fault MeshPieces :=
  if chunk.id = 0x4110 then do
    let count ← readUint16 bytes chunk chunk.dataStart
    let list ← readVertices bytes chunk count (chunk.dataStart + 2)
    return pieces ++ [.vertices list]
  else if chunk.id = 0x4120 then do
    let count ← readUint16 bytes chunk chunk.dataStart
    let list ← readFaces bytes chunk count (chunk.dataStart + 2)
    return pieces ++ [.faces list]
  else
    return pieces

def collectMesh (object : Object) (chunk : Chunk) : Except Fault Object :=
  if chunk.id = 0x4100 then do
    let pieces ← eachChunk bytes (collectPiece bytes) chunk chunk.dataStart []
    return object ++ [pieces]
  else
    return object

def collectObject (objects : List Object) (chunk : Chunk) : Except Fault (List Object) :=
  if chunk.id = 0x4000 then do
    let name ← readObjectName bytes chunk
    let object ← eachChunk bytes (collectMesh bytes) chunk name.after []
    return objects ++ [object]
  else
    return objects

def collectEditor (objects : List Object) (chunk : Chunk) : Except Fault (List Object) :=
  if chunk.id = 0x3D3D then
    eachChunk bytes (collectObject bytes) chunk chunk.dataStart objects
  else
    return objects

def outline (root : Chunk) : Except Fault (List Object) :=
  eachChunk bytes (collectEditor bytes) root root.dataStart []

end Collect

section Contributions

structure Geometry where
  vertices : List Vertex
  indices : List Triangle
deriving DecidableEq

def Geometry.empty : Geometry :=
  { vertices := [], indices := [] }

def MeshData.geometry (mesh : MeshData) : Geometry :=
  { vertices := mesh.vertices, indices := mesh.indices }

def Geometry.addPiece (vertexBase : Nat) (geometry : Geometry) : Piece → Geometry
  | .vertices list => { geometry with vertices := geometry.vertices ++ list }
  | .faces list => { geometry with indices := geometry.indices ++ list.map (rebase vertexBase) }

-- All faces of a mesh chunk count from the first vertex of the chunk.
def Geometry.addMesh (geometry : Geometry) (pieces : MeshPieces) : Geometry :=
  pieces.foldl (Geometry.addPiece geometry.vertices.length) geometry

def Geometry.addObject (geometry : Geometry) (object : Object) : Geometry :=
  object.foldl Geometry.addMesh geometry

def Geometry.addObjects (geometry : Geometry) (objects : List Object) : Geometry :=
  objects.foldl Geometry.addObject geometry

def Census.addPiece (census : Census) : Piece → Census
  | .vertices list => { census with vertexCount := list.length }
  | .faces list =>
    {
      census with
      maximumIndex := largestIndex census.maximumIndex list
      hasFaces := decide (0 < list.length)
    }

/-- What the validation remembers of a mesh chunk. -/
def censusOf (pieces : MeshPieces) : Census :=
  pieces.foldl Census.addPiece Census.empty

end Contributions

end Peraviz.Mesh3ds
