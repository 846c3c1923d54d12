import Peraviz.Mesh3ds.Impl

/-!
This module contains what the validation of a region says about each chunk in it, how another walk
along the same chunks follows from the one that the validation made, and the loader on a file that
passes it. All of its walks end, no read leaves its chunk and no size leaves its type, and what is
loaded is what the outline adds up to.
-/

namespace Peraviz.Mesh3ds

open Chunked (bind_eq_ok require_eq_ok Ends)

variable {bytes : List UInt8} {region chunk : Chunk} {pos levels : Nat} {census census' : Census}
  {inner : Chunk → Nat → Bool} {τ υ : Type}

section Chunks

theorem skipTerminated_spec (h : skipTerminated bytes chunk = .ok pos)
    : ∃ name, readCstring bytes chunk chunk.dataStart = .ok name ∧ name.terminated = true
      ∧ name.after = pos := by
  obtain ⟨name, hname, h⟩ := bind_eq_ok.mp h
  obtain ⟨_, hterminated, h⟩ := bind_eq_ok.mp h
  cases h
  exact ⟨name, hname, require_eq_ok.mp hterminated, rfl⟩

/-- What a counted chunk holds. -/
structure Counted (bytes : List UInt8) (chunk : Chunk) (pos count : Nat) : Prop where
  read : readUint16 bytes chunk pos = .ok count
  items : Inside bytes chunk (pos + 2) (strideOf chunk.id * count)

theorem validateCounted_spec
    (h : validateCounted bytes inner census chunk pos = .ok census')
    : ∃ count, Counted bytes chunk pos count
      ∧ (chunk.id = 0x4110 → census' = { census with vertexCount := count })
      ∧ (chunk.id = 0x4120 → ∃ faces, readFaces bytes chunk count (pos + 2) = .ok faces
          ∧ inner chunk (pos + 2 + 8 * count) = true
          ∧ census' = {
              census with
              maximumIndex := largestIndex census.maximumIndex faces
              hasFaces := decide (0 < count)
            })
      ∧ (chunk.id ≠ 0x4110 → chunk.id ≠ 0x4120 → census' = census) := by
  obtain ⟨count, hcount, h⟩ := bind_eq_ok.mp h
  obtain ⟨_, hitems, h⟩ := bind_eq_ok.mp h
  have hitems := require_eq_ok.mp hitems
  obtain ⟨hlow, hhigh, hfile⟩ := inside_of_readUint16 hcount
  have hinside : Inside bytes chunk (pos + 2) (strideOf chunk.id * count) := by
    rw [Nat.mul_comm]
    exact ⟨by omega, by omega, hfile⟩
  refine ⟨count, { read := hcount, items := hinside }, ?_⟩
  split at h
  . next hid =>
    obtain ⟨faces, hfaces, h⟩ := bind_eq_ok.mp h
    obtain ⟨_, hinner, h⟩ := bind_eq_ok.mp h
    cases h
    refine ⟨fun hother => ?_, fun _ => ⟨faces, hfaces, require_eq_ok.mp hinner, rfl⟩,
      fun _ hother => absurd hid hother⟩
    rw [hid] at hother
    cases hother
  . next hnot =>
    split at h
    . next hid =>
      cases h
      exact ⟨fun _ => rfl, fun hother => absurd hother hnot, fun hother => absurd hid hother⟩
    . next hother =>
      cases h
      exact ⟨fun hid => absurd hid hother, fun hid => absurd hid hnot, fun _ _ => rfl⟩

theorem validateChunk_spec (h : validateChunk bytes inner census chunk = .ok census')
    : ∃ pos, skipName bytes chunk = .ok pos
        ∧ (isCounted chunk.id = true → validateCounted bytes inner census chunk pos = .ok census')
        ∧ (isCounted chunk.id = false → census' = census
          ∧ (isContainer chunk.id = true → inner chunk pos = true)
          ∧ (isContainer chunk.id = false →
            (chunk.id = 0x0010 ∨ chunk.id = 0x0013 → 12 ≤ chunk.next - chunk.dataStart)
            ∧ (chunk.id = 0x0011 ∨ chunk.id = 0x0012 → 3 ≤ chunk.next - chunk.dataStart))) := by
  obtain ⟨pos, hpos, h⟩ := bind_eq_ok.mp h
  refine ⟨pos, hpos, ?_⟩
  split at h
  . next hcounted =>
    refine ⟨fun _ => h, fun hnot => ?_⟩
    rw [hcounted] at hnot
    cases hnot
  . next hcounted =>
    refine ⟨fun hyes => absurd hyes hcounted, fun _ => ?_⟩
    split at h
    . next hcontainer =>
      obtain ⟨_, hinner, h⟩ := bind_eq_ok.mp h
      cases h
      refine ⟨rfl, fun _ => require_eq_ok.mp hinner, fun hnot => ?_⟩
      rw [hcontainer] at hnot
      cases hnot
    . next hcontainer =>
      obtain ⟨_, hfloats, h⟩ := bind_eq_ok.mp h
      obtain ⟨_, hbytes, h⟩ := bind_eq_ok.mp h
      cases h
      exact ⟨rfl, fun hyes => absurd hyes hcontainer,
        fun _ => ⟨require_eq_ok.mp hfloats, require_eq_ok.mp hbytes⟩⟩

theorem skipName_unnamed (h : isNamed chunk.id = false)
    : skipName bytes chunk = .ok chunk.dataStart :=
  if_neg (Bool.eq_false_iff.mp h)

theorem skipName_named (h : isNamed chunk.id = true) (hpos : skipName bytes chunk = .ok pos)
    : ∃ name, readCstring bytes chunk chunk.dataStart = .ok name ∧ name.terminated = true
      ∧ name.after = pos := by
  rw [skipName, if_pos h] at hpos
  exact skipTerminated_spec hpos

-- A container without a name is validated from the start of its payload on.
theorem inner_of_container (h : validateChunk bytes inner census chunk = .ok census')
    (hid : isNamed chunk.id = false ∧ isCounted chunk.id = false ∧ isContainer chunk.id = true)
    : inner chunk chunk.dataStart = true ∧ census' = census := by
  obtain ⟨pos, hpos, _, h⟩ := validateChunk_spec h
  rw [skipName_unnamed hid.1] at hpos
  cases hpos
  exact ⟨(h hid.2.1).2.1 hid.2.2, (h hid.2.1).1⟩

theorem inner_of_object (h : validateChunk bytes inner census chunk = .ok census')
    (hid : chunk.id = 0x4000)
    : ∃ name, readCstring bytes chunk chunk.dataStart = .ok name ∧ name.terminated = true
      ∧ inner chunk name.after = true := by
  obtain ⟨pos, hpos, _, h⟩ := validateChunk_spec h
  obtain ⟨name, hname, hterminated, rfl⟩ := skipName_named (by rw [hid]; rfl) hpos
  exact ⟨name, hname, hterminated, (h (by rw [hid]; rfl)).2.1 (by rw [hid]; rfl)⟩

theorem counted_of_unnamed (h : validateChunk bytes inner census chunk = .ok census')
    (hid : isNamed chunk.id = false ∧ isCounted chunk.id = true)
    : validateCounted bytes inner census chunk chunk.dataStart = .ok census' := by
  obtain ⟨pos, hpos, h, _⟩ := validateChunk_spec h
  rw [skipName_unnamed hid.1] at hpos
  cases hpos
  exact h hid.2

theorem census_unchanged (h : validateChunk bytes inner census chunk = .ok census')
    (hvertices : chunk.id ≠ 0x4110) (hfaces : chunk.id ≠ 0x4120) : census' = census := by
  obtain ⟨pos, _, hcounted, hother⟩ := validateChunk_spec h
  cases hkind : isCounted chunk.id with
  | false => exact (hother hkind).1
  | true =>
    obtain ⟨_, _, _, _, hsame⟩ := validateCounted_spec (hcounted hkind)
    exact hsame hvertices hfaces

theorem colors_of_color (h : validateChunk bytes inner census chunk = .ok census')
    (hid : isCounted chunk.id = false ∧ isContainer chunk.id = false)
    : (chunk.id = 0x0010 ∨ chunk.id = 0x0013 → 12 ≤ chunk.next - chunk.dataStart)
      ∧ (chunk.id = 0x0011 ∨ chunk.id = 0x0012 → 3 ≤ chunk.next - chunk.dataStart) := by
  obtain ⟨_, _, _, h⟩ := validateChunk_spec h
  exact (h hid.1).2.2 hid.2

end Chunks

section Regions

theorem eachChunk_simulates {σ : Type} {visit : σ → Chunk → Except Fault σ}
    {f : τ → Chunk → Except Fault τ} {g : υ → Chunk → Except Fault υ} {R : σ → τ → υ → Nat → Prop}
    {s s' : σ} {t : τ} {u : υ} (h : eachChunk bytes visit region pos s = .ok s')
    (hstep : ∀ start chunk s t u s', IsChunkAt bytes region start chunk
      → visit s chunk = .ok s' → R s t u start
      → ∃ t' u', f t chunk = .ok t' ∧ g u chunk = .ok u' ∧ R s' t' u' chunk.next)
    (hpos : pos ≤ region.next) (hR : R s t u pos)
    : ∃ t' u', eachChunk bytes f region pos t = .ok t' ∧ eachChunk bytes g region pos u = .ok u'
        ∧ R s' t' u' region.next := by
  apply Chunked.walk_simulates h _ _ hpos hR
  . intro pos chunk hchunk
    exact (readChunk_spec hchunk).high
  . intro start chunk s t u s' _ hchunk hvisit
    exact hstep start chunk s t u s' (readChunk_spec hchunk) hvisit

def Census.accepts (census : Census) : Prop :=
  census.hasFaces = true → census.maximumIndex < census.vertexCount

-- The validation fixes the walk, so what follows it along the same chunks ends as well.
theorem validated_simulates {f : τ → Chunk → Except Fault τ} {g : υ → Chunk → Except Fault υ}
    {R : Census → τ → υ → Nat → Prop} {t : τ} {u : υ}
    (h : validateChunks bytes levels region pos = true)
    (hstep : ∀ levels start chunk census t u census', IsChunkAt bytes region start chunk
      → validateChunk bytes (validateChunks bytes levels) census chunk = .ok census'
      → R census t u start
      → ∃ t' u', f t chunk = .ok t' ∧ g u chunk = .ok u' ∧ R census' t' u' chunk.next)
    (hR : R Census.empty t u pos)
    : ∃ census t' u', census.accepts ∧ eachChunk bytes f region pos t = .ok t'
        ∧ eachChunk bytes g region pos u = .ok u' ∧ R census t' u' region.next := by
  cases levels with
  | zero => cases h
  | succ levels =>
    rw [validateChunks] at h
    split at h
    . cases h
    . next census hwalk =>
      rw [Bool.and_eq_true, decide_eq_true_eq, Bool.or_eq_true, Bool.not_eq_true',
        decide_eq_true_eq] at h
      obtain ⟨t', u', hf, hg, hR'⟩ := eachChunk_simulates hwalk (hstep levels) h.1 hR
      refine ⟨census, t', u', ?_, hf, hg, hR'⟩
      intro hfaces
      cases h.2 with
      | inl hnone =>
        rw [hfaces] at hnone
        cases hnone
      | inr hless => exact hless

-- The case of one walk with an invariant of its own.
theorem validated_ends {f : τ → Chunk → Except Fault τ} {I : τ → Prop} {t : τ}
    (h : validateChunks bytes levels region pos = true)
    (hstep : ∀ levels start chunk census t census', IsChunkAt bytes region start chunk
      → validateChunk bytes (validateChunks bytes levels) census chunk = .ok census'
      → I t → Ends (f t chunk) I)
    (ht : I t) : Ends (eachChunk bytes f region pos t) I := by
  obtain ⟨_, t', _, _, hf, _, hI⟩ := validated_simulates (g := fun u _ => .ok u)
    (R := fun _ t _ _ => I t) (u := ()) h
    (fun levels start chunk census t u census' hchunk hvisit hI => by
      obtain ⟨t', ht', hI'⟩ := hstep levels start chunk census t census' hchunk hvisit hI
      exact ⟨t', u, ht', rfl, hI'⟩) ht
  exact ⟨t', hf, hI⟩

end Regions

end Peraviz.Mesh3ds

/-! ### A validated file -/

namespace Peraviz.Mesh3ds

open Chunked (bind_eq_ok require_eq_ok require_of Ends)

variable {bytes : List UInt8} {region chunk : Chunk} {pos levels start : Nat}
  {census census' : Census} {inner : Chunk → Nat → Bool}

section Reads

theorem IsChunkAt.inside (h : IsChunkAt bytes region start chunk) {size : Nat}
    (hsize : size ≤ chunk.next - chunk.dataStart) : Inside bytes chunk chunk.dataStart size := by
  have hdata := h.data
  exact ⟨Nat.le_refl _, by omega, h.file⟩

theorem IsChunkAt.readCstring (h : IsChunkAt bytes region start chunk)
    : Ends (Mesh3ds.readCstring bytes chunk chunk.dataStart)
        (fun name => chunk.dataStart ≤ name.after) := by
  apply (readName_spec (h.inside (Nat.le_refl _))).mono
  intro name hname
  exact hname.1

end Reads

section Materials

theorem visitColor_ends (hchunk : IsChunkAt bytes region start chunk)
    (h : validateChunk bytes inner census chunk = .ok census') (info : MaterialInfo)
    : Ends (visitColor bytes info chunk) (fun _ => True) := by
  unfold visitColor
  split
  . next hid =>
    have hkind : isCounted chunk.id = false ∧ isContainer chunk.id = false := by
      cases hid with
      | inl hid => rw [hid]; decide
      | inr hid => rw [hid]; decide
    have hinside := hchunk.inside ((colors_of_color h hkind).1 hid)
    apply Ends.step (readUint32_of (hinside.front (by decide)))
    apply Ends.step (readUint32_of (hinside.part (by decide)))
    apply Ends.step (readUint32_of (hinside.part (by decide)))
    exact Ends.ok trivial
  . split
    . next hid =>
      have hkind : isCounted chunk.id = false ∧ isContainer chunk.id = false := by
        cases hid with
        | inl hid => rw [hid]; decide
        | inr hid => rw [hid]; decide
      have hinside := hchunk.inside ((colors_of_color h hkind).2 hid)
      apply Ends.step (readByte_of (hinside.front (by decide)))
      apply Ends.step (readByte_of (hinside.part (by decide)))
      apply Ends.step (readByte_of (hinside.part (by decide)))
      exact Ends.ok trivial
    . exact Ends.ok trivial

theorem visitTexture_ends (hchunk : IsChunkAt bytes region start chunk)
    (textureFilename : List UInt8)
    : Ends (visitTexture bytes textureFilename chunk) (fun _ => True) := by
  unfold visitTexture
  split
  . apply Ends.bind hchunk.readCstring
    intro candidate _
    exact Ends.ok trivial
  . exact Ends.ok trivial

theorem visitMaterial_ends (hchunk : IsChunkAt bytes region start chunk)
    (h : validateChunk bytes (validateChunks bytes levels) census chunk = .ok census')
    (cursor : MaterialCursor) : Ends (visitMaterial bytes cursor chunk) (fun _ => True) := by
  unfold visitMaterial
  split
  . apply Ends.bind hchunk.readCstring
    intro name _
    exact Ends.ok trivial
  . split
    . next hid =>
      obtain ⟨hinner, _⟩ := inner_of_container h (by rw [hid]; decide)
      apply Ends.bind (validated_ends (I := fun _ => True) hinner _ trivial)
      . intro info _
        exact Ends.ok trivial
      . intro levels start color census info census' hcolor hvisit _
        exact visitColor_ends hcolor hvisit info
    . split
      . next hid =>
        obtain ⟨hinner, _⟩ := inner_of_container h (by rw [hid]; decide)
        apply Ends.bind (validated_ends (I := fun _ => True) hinner _ trivial)
        . intro textureFilename _
          exact Ends.ok trivial
        . intro levels start texture census textureFilename census' htexture _ _
          exact visitTexture_ends htexture textureFilename
      . exact Ends.ok trivial

theorem parseMaterialBlock_ends (h : validateChunks bytes levels chunk chunk.dataStart = true)
    (state : LoadState)
    : Ends (parseMaterialBlock bytes state chunk) (fun after => after.mesh = state.mesh) := by
  apply Ends.bind (validated_ends (I := fun _ => True) h _ trivial)
  . intro cursor _
    exact Ends.ok rfl
  . intro levels start part census cursor census' hpart hvisit _
    exact visitMaterial_ends hpart hvisit cursor

theorem addFaceColor_mesh (state : LoadState) (name : List UInt8) (faceCount : Nat)
    : (addFaceColor state name faceCount).mesh = state.mesh := by
  unfold addFaceColor
  split
  . rfl
  . split <;> rfl

theorem visitFaceMaterial_ends
    (h : validateChunk bytes inner census chunk = .ok census') (state : LoadState)
    : Ends (visitFaceMaterial bytes state chunk) (fun after => after.mesh = state.mesh) := by
  unfold visitFaceMaterial
  split
  . next hid =>
    obtain ⟨pos, hpos, hcounted, _⟩ := validateChunk_spec h
    obtain ⟨name, hname, _, rfl⟩ := skipName_named (by rw [hid]; rfl) hpos
    obtain ⟨count, hcount, _⟩ := validateCounted_spec (hcounted (by rw [hid]; rfl))
    apply Ends.step hname
    apply Ends.step hcount.read
    exact Ends.ok (addFaceColor_mesh _ _ _)
  . exact Ends.ok rfl

end Materials

section Mesh

/-- Vertices take twelve bytes of the file and faces eight. -/
structure Within (geometry : Geometry) (pos : Nat) : Prop where
  vertices : 12 * geometry.vertices.length ≤ pos
  indices : 8 * geometry.indices.length ≤ pos

theorem Within.mono {geometry : Geometry} (h : Within geometry pos) (hle : pos ≤ start)
    : Within geometry start :=
  ⟨Nat.le_trans h.vertices hle, Nat.le_trans h.indices hle⟩

/-- The three walks along the chunks of a mesh: the validation, the loader and the outline. -/
structure MeshRun (geometry : Geometry) (census : Census) (cursor : MeshCursor)
    (pieces : MeshPieces) (pos : Nat) : Prop where
  census : census = censusOf pieces
  loaded : cursor.state.mesh.geometry
    = pieces.foldl (Geometry.addPiece geometry.vertices.length) geometry
  within : Within cursor.state.mesh.geometry pos
  block : cursor.objectVertexStart + cursor.objectVertexCount ≤ cursor.state.mesh.vertices.length

variable {geometry : Geometry} {cursor : MeshCursor} {pieces : MeshPieces}

theorem MeshRun.mono (h : MeshRun geometry census cursor pieces pos) (hle : pos ≤ start)
    : MeshRun geometry census cursor pieces start :=
  { h with within := h.within.mono hle }

theorem IsChunkAt.start_le_next (h : IsChunkAt bytes region start chunk) : start ≤ chunk.next := by
  have hstart := h.start
  have hdata := h.data
  omega

theorem fits_of {bits value : Nat} (h : value < 2 ^ bits) : fits bits value = .ok () :=
  require_of h

theorem largestIndex_lt_iff {faces : List Face} {first bound : Nat}
    : largestIndex first faces < bound
      ↔ first < bound ∧ ∀ face ∈ faces, face.largest < bound := by
  unfold largestIndex
  induction faces generalizing first with
  | nil => simp
  | cons face faces ih =>
    rw [List.forall_mem_cons, List.foldl_cons, ih, Nat.max_lt, and_assoc]

theorem MeshRun.add (h : MeshRun geometry census cursor pieces start) {after : MeshCursor}
    {piece : Piece}
    (hloaded : after.state.mesh.geometry
      = cursor.state.mesh.geometry.addPiece geometry.vertices.length piece)
    (hblock : after.objectVertexStart + after.objectVertexCount
      ≤ after.state.mesh.vertices.length)
    (hwithin : Within (cursor.state.mesh.geometry.addPiece geometry.vertices.length piece) pos)
    : MeshRun geometry (census.addPiece piece) after (pieces ++ [piece]) pos := by
  constructor
  . rw [censusOf, List.foldl_append, h.census]
    rfl
  . rw [hloaded, List.foldl_append, ← h.loaded]
    rfl
  . rw [hloaded]
    exact hwithin
  . exact hblock

variable {count : Nat} {vertexBase : Nat}

theorem parseVertexList_ends (vertexBase : Nat) {list : List Vertex}
    (hcount : readUint16 bytes chunk chunk.dataStart = .ok count)
    (hlist : readVertices bytes chunk count (chunk.dataStart + 2) = .ok list)
    (hlength : list.length = count)
    (hfits : 3 * cursor.state.mesh.vertices.length + 3 * count < 2 ^ 64)
    : Ends (parseVertexList bytes cursor chunk) (fun after =>
        after.state.mesh.geometry
          = cursor.state.mesh.geometry.addPiece vertexBase (.vertices list)
        ∧ after.objectVertexStart + after.objectVertexCount
          ≤ after.state.mesh.vertices.length) := by
  apply Ends.step hcount
  apply Ends.step (fits_of hfits)
  apply Ends.step hlist
  apply Ends.ok
  constructor
  . rfl
  . apply Nat.le_of_eq
    rw [List.length_append, hlength]

theorem parseFaceList_ends {list : List Face}
    (hcount : readUint16 bytes chunk chunk.dataStart = .ok count)
    (hlist : readFaces bytes chunk count (chunk.dataStart + 2) = .ok list)
    (hfits : 3 * cursor.state.mesh.indices.length + 3 * count < 2 ^ 64)
    (hsums : largestIndex 0 list + vertexBase < 2 ^ 32)
    (hinner : validateChunks bytes levels chunk (chunk.dataStart + 2 + 8 * count) = true)
    (hblock : cursor.objectVertexStart + cursor.objectVertexCount
      ≤ cursor.state.mesh.vertices.length)
    : Ends (parseFaceList bytes vertexBase cursor chunk) (fun after =>
        after.state.mesh.geometry = cursor.state.mesh.geometry.addPiece vertexBase (.faces list)
        ∧ after.objectVertexStart + after.objectVertexCount
          ≤ after.state.mesh.vertices.length) := by
  apply Ends.step hcount
  apply Ends.step (fits_of hfits)
  apply Ends.step hlist
  apply Ends.step (fits_of hsums)
  generalize hmesh : ({ cursor.state.mesh with
    indices := cursor.state.mesh.indices ++ list.map (rebase vertexBase) } : MeshData) = mesh
  apply Ends.bind (validated_ends (I := fun state => state.mesh = mesh) hinner _ rfl)
  . intro state hstate
    apply Ends.ok
    dsimp only
    rw [hstate, ← hmesh]
    exact ⟨rfl, hblock⟩
  . intro levels start part census state census' _ hvisit hstate
    apply (visitFaceMaterial_ends hvisit state).mono
    intro after hafter
    rw [hafter, hstate]

theorem readTexcoords_ends (hitems : Inside bytes chunk pos (8 * count))
    : Ends (readTexcoords bytes chunk count pos) (fun _ => True) := by
  apply Ends.step (require_of hitems)
  exact Ends.ok trivial

theorem parseTextureVertices_ends
    (hcount : readUint16 bytes chunk chunk.dataStart = .ok count)
    (hitems : Inside bytes chunk (chunk.dataStart + 2) (8 * count))
    (hfits : 2 * cursor.state.mesh.vertices.length < 2 ^ 64)
    (hblock : cursor.objectVertexStart + cursor.objectVertexCount
      ≤ cursor.state.mesh.vertices.length)
    : Ends (parseTextureVertices bytes cursor chunk) (fun after =>
        after.state.mesh.geometry = cursor.state.mesh.geometry
        ∧ after.objectVertexStart + after.objectVertexCount
          ≤ after.state.mesh.vertices.length) := by
  apply Ends.step hcount
  split
  . have hsize : 2 * (cursor.objectVertexStart + cursor.objectVertexCount) < 2 ^ 64 := by omega
    apply Ends.step (fits_of hsize)
    apply Ends.bind (readTexcoords_ends hitems)
    intro part _
    exact Ends.ok ⟨rfl, hblock⟩
  . exact Ends.ok ⟨rfl, hblock⟩

theorem readVertices_ends (hitems : Inside bytes chunk pos (12 * count))
    : Ends (readVertices bytes chunk count pos) (fun list => list.length = count) := by
  apply Ends.step (require_of hitems)
  apply Ends.ok
  rw [List.length_map, List.length_range]

theorem vertexList_run (hchunk : IsChunkAt bytes region start chunk) (hid : chunk.id = 0x4110)
    (h : validateChunk bytes (validateChunks bytes levels) census chunk = .ok census')
    (hsmall : region.next < 4294967296) (hrun : MeshRun geometry census cursor pieces start)
    : ∃ list, Ends (parseVertexList bytes cursor chunk) (fun after =>
        collectPiece bytes pieces chunk = .ok (pieces ++ [.vertices list])
        ∧ MeshRun geometry census' after (pieces ++ [.vertices list]) chunk.next) := by
  obtain ⟨count, hcounted, hcensus, _⟩ :=
    validateCounted_spec (counted_of_unnamed h (by rw [hid]; decide))
  have hitems : Inside bytes chunk (chunk.dataStart + 2) (12 * count) := by
    have hinside := hcounted.items
    rw [hid] at hinside
    exact hinside
  have hvertices : 12 * cursor.state.mesh.vertices.length ≤ start := hrun.within.vertices
  have hhigh := hchunk.high
  have hstart := hchunk.start
  have hroom := hitems.2.1
  have hfits : 3 * cursor.state.mesh.vertices.length + 3 * count < 2 ^ 64 := by omega
  obtain ⟨list, hread, hlength⟩ := readVertices_ends hitems
  refine ⟨list, (parseVertexList_ends geometry.vertices.length hcounted.read hread hlength
    hfits).mono ?_⟩
  intro after hafter
  constructor
  . rw [collectPiece, if_pos hid]
    exact bind_eq_ok.mpr ⟨count, hcounted.read, bind_eq_ok.mpr ⟨list, hread, rfl⟩⟩
  . rw [hcensus hid, ← hlength]
    apply hrun.add hafter.1 hafter.2
    constructor
    . change 12 * (cursor.state.mesh.vertices ++ list).length ≤ chunk.next
      rw [List.length_append]
      omega
    . exact Nat.le_trans hrun.within.indices hchunk.start_le_next

theorem faceList_run (hchunk : IsChunkAt bytes region start chunk) (hid : chunk.id = 0x4120)
    (h : validateChunk bytes (validateChunks bytes levels) census chunk = .ok census')
    (hsmall : region.next < 4294967296) (hbase : 12 * geometry.vertices.length < 4294967296)
    (hrun : MeshRun geometry census cursor pieces start)
    : ∃ list, Ends (parseFaceList bytes geometry.vertices.length cursor chunk) (fun after =>
        collectPiece bytes pieces chunk = .ok (pieces ++ [.faces list])
        ∧ MeshRun geometry census' after (pieces ++ [.faces list]) chunk.next) := by
  obtain ⟨count, hcounted, _, hfaces, _⟩ :=
    validateCounted_spec (counted_of_unnamed h (by rw [hid]; decide))
  obtain ⟨list, hread, hinner, hcensus⟩ := hfaces hid
  have hitems : Inside bytes chunk (chunk.dataStart + 2) (8 * count) := by
    have hinside := hcounted.items
    rw [hid] at hinside
    exact hinside
  have hindices : 8 * cursor.state.mesh.indices.length ≤ start := hrun.within.indices
  have hhigh := hchunk.high
  have hstart := hchunk.start
  have hroom := hitems.2.1
  obtain ⟨same, hsame, hlength, hshort⟩ := readFaces_spec hitems
  rw [hread] at hsame
  cases hsame
  have hlargest : largestIndex 0 list < 65536 := largestIndex_lt_iff.mpr ⟨by decide, hshort⟩
  have hfits : 3 * cursor.state.mesh.indices.length + 3 * count < 2 ^ 64 := by omega
  have hsums : largestIndex 0 list + geometry.vertices.length < 2 ^ 32 := by omega
  refine ⟨list,
    (parseFaceList_ends hcounted.read hread hfits hsums hinner hrun.block).mono ?_⟩
  intro after hafter
  constructor
  . have hnot : ¬chunk.id = 0x4110 := by
      rw [hid]
      decide
    rw [collectPiece, if_neg hnot, if_pos hid]
    exact bind_eq_ok.mpr ⟨count, hcounted.read, bind_eq_ok.mpr ⟨list, hread, rfl⟩⟩
  . rw [hcensus, ← hlength]
    apply hrun.add hafter.1 hafter.2
    constructor
    . exact Nat.le_trans hrun.within.vertices hchunk.start_le_next
    . change 8 * (cursor.state.mesh.indices ++ list.map _).length ≤ chunk.next
      rw [List.length_append, List.length_map]
      omega

theorem textureVertices_run (hchunk : IsChunkAt bytes region start chunk)
    (hid : chunk.id = 0x4140)
    (h : validateChunk bytes (validateChunks bytes levels) census chunk = .ok census')
    (hsmall : region.next < 4294967296) (hrun : MeshRun geometry census cursor pieces start)
    : Ends (parseTextureVertices bytes cursor chunk) (fun after =>
        MeshRun geometry census after pieces chunk.next) := by
  obtain ⟨count, hcounted, _⟩ :=
    validateCounted_spec (counted_of_unnamed h (by rw [hid]; decide))
  have hitems : Inside bytes chunk (chunk.dataStart + 2) (8 * count) := by
    have hinside := hcounted.items
    rw [hid] at hinside
    exact hinside
  have hvertices : 12 * cursor.state.mesh.vertices.length ≤ start := hrun.within.vertices
  have hhigh := hchunk.high
  have hnext := hchunk.start_le_next
  have hfits : 2 * cursor.state.mesh.vertices.length < 2 ^ 64 := by omega
  apply (parseTextureVertices_ends hcounted.read hitems hfits hrun.block).mono
  intro after hafter
  constructor
  . exact hrun.census
  . rw [hafter.1]
    exact hrun.loaded
  . rw [hafter.1]
    exact hrun.within.mono hnext
  . exact hafter.2

theorem visitMeshChunk_run (hchunk : IsChunkAt bytes region start chunk)
    (h : validateChunk bytes (validateChunks bytes levels) census chunk = .ok census')
    (hsmall : region.next < 4294967296) (hbase : 12 * geometry.vertices.length < 4294967296)
    (hrun : MeshRun geometry census cursor pieces start)
    : ∃ cursor' pieces', visitMeshChunk bytes geometry.vertices.length cursor chunk = .ok cursor'
        ∧ collectPiece bytes pieces chunk = .ok pieces'
        ∧ MeshRun geometry census' cursor' pieces' chunk.next := by
  unfold visitMeshChunk
  split
  . next hvertices =>
    obtain ⟨list, after, hafter⟩ := vertexList_run hchunk hvertices h hsmall hrun
    exact ⟨after, _, hafter⟩
  . next hvertices =>
    split
    . next hfaces =>
      obtain ⟨list, after, hafter⟩ := faceList_run hchunk hfaces h hsmall hbase hrun
      exact ⟨after, _, hafter⟩
    . next hfaces =>
      have hcollect : collectPiece bytes pieces chunk = .ok pieces := by
        rw [collectPiece, if_neg hvertices, if_neg hfaces]
        rfl
      rw [census_unchanged h hvertices hfaces]
      split
      . next htexture =>
        obtain ⟨after, hafter, hrun'⟩ := textureVertices_run hchunk htexture h hsmall hrun
        exact ⟨after, pieces, hafter, hcollect, hrun'⟩
      . exact ⟨cursor, pieces, rfl, hcollect, hrun.mono hchunk.start_le_next⟩

end Mesh

section Objects

variable {geometry : Geometry} {state : LoadState} {object : Object} {objects : List Object}

theorem parseMeshChunk_run (hchunk : IsChunkAt bytes region start chunk)
    (h : validateChunks bytes levels chunk chunk.dataStart = true)
    (hsmall : region.next < 4294967296) (hwithin : Within state.mesh.geometry start)
    : ∃ after pieces, parseMeshChunk bytes state chunk = .ok after
        ∧ eachChunk bytes (collectPiece bytes) chunk chunk.dataStart [] = .ok pieces
        ∧ after.mesh.geometry = state.mesh.geometry.addMesh pieces
        ∧ Within after.mesh.geometry chunk.next ∧ (censusOf pieces).accepts := by
  have hhigh := hchunk.high
  have hstart := hchunk.start
  have hdata := hchunk.data
  have hbase : 12 * state.mesh.geometry.vertices.length < 4294967296 := by
    have hvertices := hwithin.vertices
    omega
  have hfirst : MeshRun state.mesh.geometry Census.empty
      { state := state, objectVertexStart := state.mesh.vertices.length, objectVertexCount := 0 } []
      chunk.dataStart := {
    census := rfl
    loaded := rfl
    within := hwithin.mono (by omega)
    block := Nat.le_refl _
  }
  obtain ⟨census, cursor, pieces, haccepts, hcursor, hpieces, hrun⟩ :=
    validated_simulates h
      (fun levels start part census cursor pieces census' hpart hvisit hrun =>
        visitMeshChunk_run hpart hvisit (by omega) hbase hrun) hfirst
  refine ⟨cursor.state, pieces, ?_, hpieces, hrun.loaded, hrun.within, ?_⟩
  . exact bind_eq_ok.mpr ⟨cursor, hcursor, rfl⟩
  . rw [← hrun.census]
    exact haccepts

/-- The loader and the outline along the chunks of an object. -/
structure ObjectRun (geometry : Geometry) (state : LoadState) (object : Object) (pos : Nat)
    : Prop where
  loaded : state.mesh.geometry = geometry.addObject object
  within : Within state.mesh.geometry pos
  accepts : ∀ pieces ∈ object, (censusOf pieces).accepts

theorem visitObjectChunk_run (hchunk : IsChunkAt bytes region start chunk)
    (h : validateChunk bytes (validateChunks bytes levels) census chunk = .ok census')
    (hsmall : region.next < 4294967296) (hrun : ObjectRun geometry state object start)
    : ∃ state' object', visitObjectChunk bytes state chunk = .ok state'
        ∧ collectMesh bytes object chunk = .ok object'
        ∧ ObjectRun geometry state' object' chunk.next := by
  unfold visitObjectChunk collectMesh
  by_cases hid : chunk.id = 0x4100
  . rw [if_pos hid, if_pos hid]
    obtain ⟨hinner, _⟩ := inner_of_container h (by rw [hid]; decide)
    obtain ⟨after, pieces, hafter, hpieces, hloaded, hwithin, haccepts⟩ :=
      parseMeshChunk_run hchunk hinner hsmall hrun.within
    refine ⟨after, object ++ [pieces], hafter, bind_eq_ok.mpr ⟨pieces, hpieces, rfl⟩, ?_⟩
    constructor
    . rw [hloaded, hrun.loaded, Geometry.addObject, Geometry.addObject, List.foldl_append]
      rfl
    . exact hwithin
    . intro other hmem
      cases List.mem_append.mp hmem with
      | inl hmem => exact hrun.accepts other hmem
      | inr hmem =>
        rw [List.mem_singleton.mp hmem]
        exact haccepts
  . rw [if_neg hid, if_neg hid]
    exact ⟨state, object, rfl, rfl,
      { hrun with within := hrun.within.mono hchunk.start_le_next }⟩

theorem parseObject_run (objects : List Object) (hchunk : IsChunkAt bytes region start chunk)
    (h : validateChunk bytes (validateChunks bytes levels) census chunk = .ok census')
    (hid : chunk.id = 0x4000) (hsmall : region.next < 4294967296)
    (hwithin : Within state.mesh.geometry start)
    : ∃ after object, parseObject bytes state chunk = .ok after
        ∧ collectObject bytes objects chunk = .ok (objects ++ [object])
        ∧ ObjectRun state.mesh.geometry after object chunk.next := by
  obtain ⟨name, hname, hterminated, hinner⟩ := inner_of_object h hid
  obtain ⟨same, hsame, hafter⟩ := hchunk.readCstring
  rw [hname] at hsame
  cases hsame
  have hhigh := hchunk.high
  have hstart := hchunk.start
  -- The name of an object is terminated, so its first byte lies in the chunk.
  have hread : readObjectName bytes chunk = .ok name := by
    have hfirst := lt_next_of_terminated hname hterminated
    exact bind_eq_ok.mpr ⟨(), require_of (hchunk.inside (by omega)), hname⟩
  have hfirst : ObjectRun state.mesh.geometry state [] name.after := {
    loaded := rfl
    within := hwithin.mono (by omega)
    accepts := by simp
  }
  obtain ⟨_, after, object, _, hloaded, hobject, hrun⟩ :=
    validated_simulates (R := fun _ state object pos =>
        ObjectRun _ state object pos) hinner
      (fun levels start part census state object census' hpart hvisit hrun =>
        visitObjectChunk_run hpart hvisit (by omega) hrun) hfirst
  refine ⟨after, object, bind_eq_ok.mpr ⟨name, hread, hloaded⟩, ?_, hrun⟩
  rw [collectObject, if_pos hid]
  exact bind_eq_ok.mpr ⟨name, hread, bind_eq_ok.mpr ⟨object, hobject, rfl⟩⟩

/-- The loader and the outline along the chunks of objects. -/
structure ObjectsRun (state : LoadState) (objects : List Object) (pos : Nat) : Prop where
  loaded : state.mesh.geometry = Geometry.empty.addObjects objects
  within : Within state.mesh.geometry pos
  accepts : ∀ object ∈ objects, ∀ pieces ∈ object, (censusOf pieces).accepts

theorem ObjectsRun.mono (h : ObjectsRun state objects pos) (hle : pos ≤ start)
    : ObjectsRun state objects start :=
  { h with within := h.within.mono hle }

theorem visitEditorChunk_run (hchunk : IsChunkAt bytes region start chunk)
    (h : validateChunk bytes (validateChunks bytes levels) census chunk = .ok census')
    (hsmall : region.next < 4294967296) (hrun : ObjectsRun state objects start)
    : ∃ state' objects', visitEditorChunk bytes state chunk = .ok state'
        ∧ collectObject bytes objects chunk = .ok objects'
        ∧ ObjectsRun state' objects' chunk.next := by
  have hnext := hchunk.start_le_next
  unfold visitEditorChunk
  split
  . next hid =>
    obtain ⟨after, object, hafter, hcollect, hobject⟩ :=
      parseObject_run objects hchunk h hid hsmall hrun.within
    refine ⟨after, objects ++ [object], hafter, hcollect, ?_⟩
    constructor
    . rw [hobject.loaded, hrun.loaded, Geometry.addObjects, Geometry.addObjects,
        List.foldl_append]
      rfl
    . exact hobject.within
    . intro other hmem
      cases List.mem_append.mp hmem with
      | inl hmem => exact hrun.accepts other hmem
      | inr hmem =>
        rw [List.mem_singleton.mp hmem]
        exact hobject.accepts
  . next hobject =>
    have hcollect : collectObject bytes objects chunk = .ok objects := by
      rw [collectObject, if_neg hobject]
      rfl
    split
    . next hid =>
      obtain ⟨hinner, _⟩ := inner_of_container h (by rw [hid]; decide)
      obtain ⟨after, hafter, hmesh⟩ := parseMaterialBlock_ends hinner state
      refine ⟨after, objects, hafter, hcollect, ?_⟩
      constructor
      . rw [hmesh]
        exact hrun.loaded
      . rw [hmesh]
        exact hrun.within.mono hnext
      . exact hrun.accepts
    . exact ⟨state, objects, rfl, hcollect, hrun.mono hnext⟩

theorem visitRootChunk_run (hchunk : IsChunkAt bytes region start chunk)
    (h : validateChunk bytes (validateChunks bytes levels) census chunk = .ok census')
    (hsmall : region.next < 4294967296) (hrun : ObjectsRun state objects start)
    : ∃ state' objects', visitRootChunk bytes state chunk = .ok state'
        ∧ collectEditor bytes objects chunk = .ok objects'
        ∧ ObjectsRun state' objects' chunk.next := by
  unfold visitRootChunk collectEditor
  by_cases hid : chunk.id = 0x3D3D
  . rw [if_pos hid, if_pos hid]
    obtain ⟨hinner, _⟩ := inner_of_container h (by rw [hid]; decide)
    have hhigh := hchunk.high
    have hstart := hchunk.start
    obtain ⟨_, state', objects', _, hstate, hobjects, hrun'⟩ :=
      validated_simulates (R := fun _ state objects pos => ObjectsRun state objects pos) hinner
        (fun levels start part census state objects census' hpart hvisit hrun =>
          visitEditorChunk_run hpart hvisit (by omega) hrun)
        (hrun.mono (by omega))
    exact ⟨state', objects', hstate, hobjects, hrun'⟩
  . rw [if_neg hid, if_neg hid]
    exact ⟨state, objects, rfl, rfl, hrun.mono hchunk.start_le_next⟩

theorem validatedRoot_spec {root : Chunk} (h : validatedRoot bytes = some root)
    : root.next < 4294967296
      ∧ validateChunks bytes maximumLevels root root.dataStart = true := by
  unfold validatedRoot at h
  split at h
  . cases h
  . next root hroot =>
    split at h
    . next hvalid =>
      cases h
      have hlength := next_lt_of_readChunk hroot
      exact ⟨by omega, hvalid.2⟩
    . cases h

-- The loader on a validated file, beside the outline of the file.
theorem loadChunks_run {root : Chunk} (h : validatedRoot bytes = some root)
    : ∃ state objects, loadChunks bytes root = .ok state ∧ outline bytes root = .ok objects
        ∧ ObjectsRun state objects root.next := by
  obtain ⟨hsmall, hvalid⟩ := validatedRoot_spec h
  have hfirst : ObjectsRun LoadState.empty [] root.dataStart := {
    loaded := rfl
    within := ⟨Nat.zero_le _, Nat.zero_le _⟩
    accepts := by simp
  }
  obtain ⟨_, state, objects, _, hstate, hobjects, hrun⟩ :=
    validated_simulates (R := fun _ state objects pos => ObjectsRun state objects pos) hvalid
      (fun levels start part census state objects census' hpart hvisit hrun =>
        visitRootChunk_run hpart hvisit hsmall hrun) hfirst
  exact ⟨state, objects, hstate, hobjects, hrun⟩

theorem loadChunks_bounded (bytes : List UInt8) (root : Chunk)
    (h : validatedRoot bytes = some root)
    : ∃ state, loadChunks bytes root = .ok state := by
  obtain ⟨state, _, hstate, _⟩ := loadChunks_run h
  exact ⟨state, hstate⟩

/-- One object with one triangle. -/
def triangleFile : List UInt8 := [
  0x4D, 0x4D, 0x56, 0, 0, 0, 0x3D, 0x3D, 0x50, 0, 0, 0,
  0, 0x40, 0x4A, 0, 0, 0, 0x41, 0, 0, 0x41, 0x42, 0, 0, 0,
  0x10, 0x41, 0x2C, 0, 0, 0, 3, 0,
  0, 0, 0, 0, 0, 0, 0, 0, 0, 0, 0, 0,
  0, 0, 0x80, 0x3F, 0, 0, 0, 0, 0, 0, 0, 0,
  0, 0, 0, 0, 0, 0, 0x80, 0x3F, 0, 0, 0, 0,
  0x20, 0x41, 0x10, 0, 0, 0, 1, 0, 0, 0, 1, 0, 2, 0, 0, 0]

def triangleRoot : Chunk := { id := 0x4D4D, dataStart := 6, next := 86 }

theorem loadChunks_bounded_triangle
    : validatedRoot triangleFile = some triangleRoot
      ∧ ∃ state, loadChunks triangleFile triangleRoot = .ok state := by
  have hroot : validatedRoot triangleFile = some triangleRoot := by
    decide +kernel
  exact ⟨hroot, loadChunks_bounded triangleFile triangleRoot hroot⟩

end Objects

end Peraviz.Mesh3ds
