import Mathlib.Algebra.BigOperators.Group.List.Basic
import Mathlib.Algebra.GroupWithZero.Nat
import Peraviz.Mesh3ds.Validated

/-!
This module contains the faces of a loaded mesh by the object that they come from. A face stays in
the vertices of its object unless an empty face list has hidden it from the validation.
-/

namespace Peraviz.Mesh3ds

open Chunked (bind_eq_ok require_eq_ok eq_ok_of_toOption)

section Contributions

def Piece.vertexList : Piece → List Vertex
  | .vertices list => list
  | .faces _ => []

def Piece.faceList : Piece → List Face
  | .vertices _ => []
  | .faces list => list

def verticesIn (pieces : MeshPieces) : List Vertex := pieces.flatMap Piece.vertexList

def facesIn (pieces : MeshPieces) : List Face := pieces.flatMap Piece.faceList

def vertexCount (object : Object) : Nat :=
  (object.map (fun pieces => (verticesIn pieces).length)).sum

def triangleCount (object : Object) : Nat :=
  (object.map (fun pieces => (facesIn pieces).length)).sum

def firstVertex (objects : List Object) (k : Nat) : Nat := ((objects.take k).map vertexCount).sum

def firstTriangle (objects : List Object) (k : Nat) : Nat :=
  ((objects.take k).map triangleCount).sum

def Triangle.isWithin (low count : Nat) (triangle : Triangle) : Prop :=
  (low ≤ triangle.a ∧ triangle.a < low + count) ∧ (low ≤ triangle.b ∧ triangle.b < low + count)
    ∧ (low ≤ triangle.c ∧ triangle.c < low + count)

instance (low count : Nat) (triangle : Triangle) : Decidable (triangle.isWithin low count) :=
  inferInstanceAs (Decidable ((_ ∧ _) ∧ (_ ∧ _) ∧ (_ ∧ _)))

/-- The triangles of each object only use the vertices of that object. -/
def StaysInObject (objects : List Object) (indices : List Triangle) : Prop :=
  ∀ k object, objects[k]? = some object
    → ∀ triangle ∈ (indices.drop (firstTriangle objects k)).take (triangleCount object),
        triangle.isWithin (firstVertex objects k) (vertexCount object)

def laterFaces (last : List Face) : Piece → List Face
  | .vertices _ => last
  | .faces list => list

/-- The face list that comes last in a mesh chunk. -/
def lastFaces (pieces : MeshPieces) : List Face := pieces.foldl laterFaces []

/-- For every mesh chunk of an object: its last face list is not empty, or its faces fit. -/
def IsCovered : Object → Prop
  | [] => True
  | pieces :: rest =>
    (lastFaces pieces ≠ []
      ∨ ∀ face ∈ facesIn pieces, face.largest < (verticesIn pieces).length + vertexCount rest)
    ∧ IsCovered rest

end Contributions

section Census

variable {pieces : MeshPieces} {census : Census}

theorem maximumIndex_lt_iff {bound : Nat}
    : (pieces.foldl Census.addPiece census).maximumIndex < bound
      ↔ census.maximumIndex < bound ∧ ∀ face ∈ facesIn pieces, face.largest < bound := by
  induction pieces generalizing census with
  | nil => simp [facesIn]
  | cons piece pieces ih =>
    rw [List.foldl_cons, ih, facesIn, facesIn, List.flatMap_cons, List.forall_mem_append]
    cases piece with
    | vertices list => simp [Census.addPiece, Piece.faceList]
    | faces list =>
      rw [Census.addPiece, Piece.faceList]
      dsimp only
      rw [largestIndex_lt_iff, and_assoc]

theorem vertexCount_le
    : (pieces.foldl Census.addPiece census).vertexCount
      ≤ max census.vertexCount (verticesIn pieces).length := by
  induction pieces generalizing census with
  | nil => exact Nat.le_max_left _ _
  | cons piece pieces ih =>
    apply Nat.le_trans ih
    rw [verticesIn, verticesIn, List.flatMap_cons, List.length_append]
    cases piece with
    | vertices list =>
      rw [Census.addPiece, Piece.vertexList]
      dsimp only
      omega
    | faces list =>
      rw [Census.addPiece, Piece.vertexList]
      dsimp only [List.length_nil]
      omega

theorem hasFaces_eq (pieces : MeshPieces) {census : Census} {last : List Face}
    (h : census.hasFaces = decide (0 < last.length))
    : (pieces.foldl Census.addPiece census).hasFaces
      = decide (0 < (pieces.foldl laterFaces last).length) := by
  induction pieces generalizing census last with
  | nil => exact h
  | cons piece pieces ih =>
    rw [List.foldl_cons, List.foldl_cons]
    cases piece with
    | vertices list => exact ih h
    | faces list => exact ih rfl

-- A face list that is not empty makes the validation look at all faces of the mesh chunk.
theorem largest_lt_of_lastFaces (h : (censusOf pieces).accepts) (hlast : lastFaces pieces ≠ [])
    : ∀ face ∈ facesIn pieces, face.largest < (verticesIn pieces).length := by
  have hfaces : (censusOf pieces).hasFaces = true := by
    have hempty : Census.empty.hasFaces = decide (0 < ([] : List Face).length) := rfl
    rw [censusOf, hasFaces_eq pieces hempty, decide_eq_true_eq]
    exact List.length_pos_iff.mpr hlast
  have hless := h hfaces
  intro face hmem
  have hbound := (maximumIndex_lt_iff.mp hless).2 face hmem
  have hcount : (censusOf pieces).vertexCount ≤ (verticesIn pieces).length := by
    apply Nat.le_trans vertexCount_le
    simp [Census.empty]
  omega

end Census

section Triangles

variable {geometry : Geometry}

def objectTriangles : Nat → Object → List Triangle
  | _, [] => []
  | base, pieces :: rest =>
    (facesIn pieces).map (rebase base)
      ++ objectTriangles (base + (verticesIn pieces).length) rest

def allTriangles : Nat → List Object → List Triangle
  | _, [] => []
  | base, object :: rest =>
    objectTriangles base object ++ allTriangles (base + vertexCount object) rest

theorem foldl_addPiece (base : Nat) (pieces : MeshPieces)
    : pieces.foldl (Geometry.addPiece base) geometry = {
        vertices := geometry.vertices ++ verticesIn pieces
        indices := geometry.indices ++ (facesIn pieces).map (rebase base)
      } := by
  induction pieces generalizing geometry with
  | nil => simp [verticesIn, facesIn]
  | cons piece pieces ih =>
    rw [List.foldl_cons, ih]
    cases piece with
    | vertices list =>
      simp [Geometry.addPiece, verticesIn, facesIn, Piece.vertexList, Piece.faceList]
    | faces list =>
      simp [Geometry.addPiece, verticesIn, facesIn, Piece.vertexList, Piece.faceList]

theorem vertexCount_cons (pieces : MeshPieces) (rest : Object)
    : vertexCount (pieces :: rest) = (verticesIn pieces).length + vertexCount rest := by
  rw [vertexCount, List.map_cons, List.sum_cons]
  rfl

theorem addObject_eq (geometry : Geometry) (object : Object)
    : (geometry.addObject object).vertices.length
        = geometry.vertices.length + vertexCount object
      ∧ (geometry.addObject object).indices
        = geometry.indices ++ objectTriangles geometry.vertices.length object := by
  induction object generalizing geometry with
  | nil => simp [Geometry.addObject, vertexCount, objectTriangles]
  | cons pieces rest ih =>
    have hfold : geometry.addObject (pieces :: rest)
        = (geometry.addMesh pieces).addObject rest := rfl
    rw [hfold, (ih _).1, (ih _).2, Geometry.addMesh, foldl_addPiece, vertexCount_cons,
      objectTriangles, List.length_append, List.append_assoc, Nat.add_assoc]
    exact ⟨rfl, rfl⟩

theorem addObjects_eq (geometry : Geometry) (objects : List Object)
    : (geometry.addObjects objects).vertices.length
        = geometry.vertices.length + (objects.map vertexCount).sum
      ∧ (geometry.addObjects objects).indices
        = geometry.indices ++ allTriangles geometry.vertices.length objects := by
  induction objects generalizing geometry with
  | nil => simp [Geometry.addObjects, allTriangles]
  | cons object rest ih =>
    have hfold : geometry.addObjects (object :: rest)
        = (geometry.addObject object).addObjects rest := rfl
    rw [hfold, (ih _).1, (ih _).2, (addObject_eq geometry object).1,
      (addObject_eq geometry object).2, List.map_cons, List.sum_cons, allTriangles,
      List.append_assoc, Nat.add_assoc]
    exact ⟨rfl, rfl⟩

theorem length_objectTriangles (base : Nat) (object : Object)
    : (objectTriangles base object).length = triangleCount object := by
  induction object generalizing base with
  | nil => rfl
  | cons pieces rest ih =>
    rw [objectTriangles, List.length_append, List.length_map, ih, triangleCount, triangleCount,
      List.map_cons, List.sum_cons]

theorem length_allTriangles (base : Nat) (objects : List Object)
    : (allTriangles base objects).length = (objects.map triangleCount).sum := by
  induction objects generalizing base with
  | nil => rfl
  | cons object rest ih =>
    rw [allTriangles, List.length_append, length_objectTriangles, ih, List.map_cons,
      List.sum_cons]

theorem allTriangles_append (base : Nat) (front back : List Object)
    : allTriangles base (front ++ back)
      = allTriangles base front ++ allTriangles (base + (front.map vertexCount).sum) back := by
  induction front generalizing base with
  | nil => rfl
  | cons object front ih =>
    rw [List.cons_append, allTriangles, ih, allTriangles, List.append_assoc, List.map_cons,
      List.sum_cons, Nat.add_assoc]

-- The triangles of one object among those of all.
theorem slice_allTriangles {objects : List Object} {k : Nat} {object : Object}
    (h : objects[k]? = some object)
    : ((allTriangles 0 objects).drop (firstTriangle objects k)).take (triangleCount object)
      = objectTriangles (firstVertex objects k) object := by
  obtain ⟨hlt, heq⟩ := List.getElem?_eq_some_iff.mp h
  have hsplit : objects = objects.take k ++ object :: objects.drop (k + 1) := by
    rw [← heq, List.cons_getElem_drop_succ, List.take_append_drop]
  have hall : allTriangles 0 objects
      = allTriangles 0 (objects.take k)
        ++ (objectTriangles (firstVertex objects k) object
          ++ allTriangles (firstVertex objects k + vertexCount object)
              (objects.drop (k + 1))) := by
    conv =>
      lhs
      rw [hsplit]
    rw [allTriangles_append, Nat.zero_add]
    rfl
  have hfront : (allTriangles 0 (objects.take k)).length = firstTriangle objects k :=
    length_allTriangles 0 _
  rw [hall, List.drop_left' hfront, List.take_left' (length_objectTriangles _ object)]

end Triangles

section Stays

theorem isWithin_rebase_iff {low high base : Nat} {face : Face} (hlow : low ≤ base)
    : (rebase base face).isWithin low (high - low) ↔ face.largest + base < high := by
  rw [Triangle.isWithin, rebase, Face.largest]
  dsimp only
  omega

-- The base only grows in an object, so a triangle can leave its block at the upper end alone.
theorem isCovered_iff {low high base : Nat} {object : Object}
    (haccepts : ∀ pieces ∈ object, (censusOf pieces).accepts) (hlow : low ≤ base)
    (hhigh : base + vertexCount object = high)
    : (∀ triangle ∈ objectTriangles base object, triangle.isWithin low (high - low))
      ↔ IsCovered object := by
  induction object generalizing base with
  | nil => simp [objectTriangles, IsCovered]
  | cons pieces rest ih =>
    rw [List.forall_mem_cons] at haccepts
    rw [vertexCount_cons] at hhigh
    rw [objectTriangles, List.forall_mem_append, IsCovered,
      ih haccepts.2 (by omega) (by omega), List.forall_mem_map]
    apply and_congr_left'
    constructor
    . intro hwithin
      right
      intro face hmem
      have := (isWithin_rebase_iff hlow).mp (hwithin face hmem)
      omega
    . intro hcovered face hmem
      apply (isWithin_rebase_iff hlow).mpr
      cases hcovered with
      | inl hlast =>
        have := largest_lt_of_lastFaces haccepts.1 hlast face hmem
        omega
      | inr hbound =>
        have := hbound face hmem
        omega

theorem stays_allTriangles_iff {objects : List Object}
    (haccepts : ∀ object ∈ objects, ∀ pieces ∈ object, (censusOf pieces).accepts)
    : StaysInObject objects (allTriangles 0 objects) ↔ ∀ object ∈ objects, IsCovered object := by
  have hobject {k : Nat} {object : Object} (h : objects[k]? = some object)
      : (∀ triangle ∈ ((allTriangles 0 objects).drop (firstTriangle objects k)).take
            (triangleCount object),
          triangle.isWithin (firstVertex objects k) (vertexCount object))
        ↔ IsCovered object := by
    rw [slice_allTriangles h]
    have hiff := isCovered_iff (haccepts object (List.mem_of_getElem? h))
      (Nat.le_refl (firstVertex objects k)) rfl
    rw [Nat.add_sub_cancel_left] at hiff
    exact hiff
  constructor
  . intro hstays object hmem
    obtain ⟨k, h⟩ := List.mem_iff_getElem?.mp hmem
    exact (hobject h).mp (hstays k object h)
  . intro hcovered k object h
    exact (hobject h).mpr (hcovered object (List.mem_of_getElem? h))

theorem isWithin_flip_iff {low count : Nat} {triangle : Triangle}
    : triangle.flip.isWithin low count ↔ triangle.isWithin low count := by
  rw [Triangle.isWithin, Triangle.isWithin, Triangle.flip]
  dsimp only
  constructor
  . intro h
    exact ⟨h.1, h.2.2, h.2.1⟩
  . intro h
    exact ⟨h.1, h.2.2, h.2.1⟩

-- The winding order exchanges two corners of every triangle.
theorem stays_map_flip_iff {objects : List Object} {indices : List Triangle}
    : StaysInObject objects (indices.map Triangle.flip) ↔ StaysInObject objects indices := by
  unfold StaysInObject
  simp only [← List.map_drop, ← List.map_take, List.forall_mem_map, isWithin_flip_iff]

theorem finishMesh_spec {floats : Floats} {loaded mesh : MeshData}
    (h : finishMesh floats loaded = .ok mesh)
    : mesh.vertices = loaded.vertices
      ∧ (mesh.indices = loaded.indices ∨ mesh.indices = loaded.indices.map Triangle.flip) := by
  obtain ⟨_, _, h⟩ := bind_eq_ok.mp h
  obtain ⟨_, _, h⟩ := bind_eq_ok.mp h
  obtain ⟨_, _, h⟩ := bind_eq_ok.mp h
  obtain ⟨_, _, h⟩ := bind_eq_ok.mp h
  have hcomplete : (completeTexcoords loaded).geometry = loaded.geometry := by
    unfold completeTexcoords
    split <;> rfl
  have hvertices : (completeTexcoords loaded).vertices = loaded.vertices :=
    congrArg Geometry.vertices hcomplete
  have hindices : (completeTexcoords loaded).indices = loaded.indices :=
    congrArg Geometry.indices hcomplete
  cases h
  unfold ensureGodotClockwiseWinding
  split
  . dsimp only
    rw [hvertices, hindices]
    exact ⟨rfl, Or.inr rfl⟩
  . exact ⟨hvertices, Or.inl hindices⟩

theorem load3ds_stays_iff (floats : Floats) (bytes : List UInt8) (mesh : MeshData)
    (h : load3ds floats bytes = .ok mesh)
    : ∃ root objects, validatedRoot bytes = some root ∧ outline bytes root = .ok objects
        ∧ mesh.vertices.length = firstVertex objects objects.length
        ∧ mesh.indices.length = firstTriangle objects objects.length
        ∧ (StaysInObject objects mesh.indices ↔ ∀ object ∈ objects, IsCovered object) := by
  unfold load3ds at h
  split at h
  . cases h
  . next root hroot =>
    obtain ⟨state, objects, hstate, hobjects, hrun⟩ := loadChunks_run hroot
    rw [hstate] at h
    obtain ⟨hvertices, hindices⟩ := finishMesh_spec h
    obtain ⟨hcount, htriangles⟩ := addObjects_eq Geometry.empty objects
    rw [← hrun.loaded] at hcount htriangles
    have hloaded : state.mesh.indices = allTriangles 0 objects := htriangles
    have hlength : mesh.indices.length = (allTriangles 0 objects).length := by
      cases hindices with
      | inl hsame => rw [hsame, hloaded]
      | inr hflip => rw [hflip, List.length_map, hloaded]
    refine ⟨root, objects, hroot, hobjects, ?_, ?_, ?_⟩
    . rw [hvertices, firstVertex, List.take_length]
      exact hcount.trans (Nat.zero_add _)
    . rw [hlength, length_allTriangles, firstTriangle, List.take_length]
    . rw [← stays_allTriangles_iff hrun.accepts, ← hloaded]
      cases hindices with
      | inl hsame => rw [hsame]
      | inr hflip => rw [hflip, stays_map_flip_iff]

/-- The answers about a mesh that lies in a plane and has an area. -/
def planar : Floats where
  hasArea := fun _ => true
  isCounterClockwise := fun _ => false

def corner (x y : Nat) : Vertex := { x := x, y := y, z := 0 }

def triangleMesh : MeshData := {
  vertices := [corner 0 0, corner 0x3F800000 0, corner 0 0x3F800000]
  indices := [{ a := 0, b := 1, c := 2 }]
  texcoords := []
}

def triangleObjects : List Object :=
  [[[.vertices triangleMesh.vertices, .faces [{ a := 0, b := 1, c := 2 }]]]]

theorem load3ds_stays_iff_triangle
    : load3ds planar triangleFile = .ok triangleMesh
      ∧ outline triangleFile triangleRoot = .ok triangleObjects
      ∧ StaysInObject triangleObjects triangleMesh.indices := by
  have hruns : (load3ds planar triangleFile).toOption = some triangleMesh
      ∧ validatedRoot triangleFile = some triangleRoot
      ∧ (outline triangleFile triangleRoot).toOption = some triangleObjects := by
    decide +kernel
  have hload := eq_ok_of_toOption hruns.1
  have houtline := eq_ok_of_toOption hruns.2.2
  obtain ⟨root, objects, hroot, hobjects, _, _, hiff⟩ :=
    load3ds_stays_iff planar triangleFile triangleMesh hload
  rw [hruns.2.1] at hroot
  cases hroot
  rw [houtline] at hobjects
  cases hobjects
  refine ⟨hload, houtline, hiff.mpr ?_⟩
  intro object hmem
  rw [List.mem_singleton.mp hmem]
  exact ⟨Or.inl (by decide), trivial⟩

/-- The first object names a vertex of the second and ends with an empty face list. -/
def strayFile : List UInt8 := [
  0x4D, 0x4D, 0x98, 0, 0, 0, 0x3D, 0x3D, 0x92, 0, 0, 0,
  0, 0x40, 0x52, 0, 0, 0, 0x41, 0, 0, 0x41, 0x4A, 0, 0, 0,
  0x10, 0x41, 0x2C, 0, 0, 0, 3, 0,
  0, 0, 0, 0, 0, 0, 0, 0, 0, 0, 0, 0,
  0, 0, 0x80, 0x3F, 0, 0, 0, 0, 0, 0, 0, 0,
  0, 0, 0, 0, 0, 0, 0x80, 0x3F, 0, 0, 0, 0,
  0x20, 0x41, 0x10, 0, 0, 0, 1, 0, 0, 0, 1, 0, 3, 0, 0, 0,
  0x20, 0x41, 8, 0, 0, 0, 0, 0,
  0, 0x40, 0x3A, 0, 0, 0, 0x42, 0, 0, 0x41, 0x32, 0, 0, 0,
  0x10, 0x41, 0x2C, 0, 0, 0, 3, 0,
  0, 0, 0, 0, 0, 0, 0x80, 0x3F, 0, 0, 0, 0,
  0, 0, 0, 0x40, 0, 0, 0, 0, 0, 0, 0, 0,
  0, 0, 0, 0, 0, 0, 0, 0x40, 0, 0, 0, 0]

def strayRoot : Chunk := { id := 0x4D4D, dataStart := 6, next := 152 }

def strayMesh : MeshData := {
  vertices := [corner 0 0, corner 0x3F800000 0, corner 0 0x3F800000, corner 0 0x3F800000,
    corner 0x40000000 0, corner 0 0x40000000]
  indices := [{ a := 0, b := 1, c := 3 }]
  texcoords := []
}

def strayObjects : List Object := [
  [[.vertices (strayMesh.vertices.take 3), .faces [{ a := 0, b := 1, c := 3 }], .faces []]],
  [[.vertices (strayMesh.vertices.drop 3)]]]

theorem stray_not_in_object
    : load3ds planar strayFile = .ok strayMesh ∧ validatedRoot strayFile = some strayRoot
      ∧ outline strayFile strayRoot = .ok strayObjects
      ∧ ¬StaysInObject strayObjects strayMesh.indices := by
  have hruns : (load3ds planar strayFile).toOption = some strayMesh
      ∧ validatedRoot strayFile = some strayRoot
      ∧ (outline strayFile strayRoot).toOption = some strayObjects := by
    decide +kernel
  refine ⟨eq_ok_of_toOption hruns.1, hruns.2.1, eq_ok_of_toOption hruns.2.2, ?_⟩
  intro hstays
  have hwithin := hstays 0 _ rfl { a := 0, b := 1, c := 3 } (by decide)
  revert hwithin
  decide

end Stays

end Peraviz.Mesh3ds
