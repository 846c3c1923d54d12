import Peraviz.Checked.OptionFold
import Peraviz.Presentation.RenderState.Coherence
import Peraviz.Presentation.RendererCaches.Impl

/-!
This module contains what the cache of the batched lenses keeps: a buffer that is not dirty is the
one that the server has, and an instance whose output is settled shows what the held values, the
gain and the shutters give.
-/

namespace Peraviz.Presentation

open Peraviz.Runtime
open Footprint (visitAt Tenant Domestic Separate)

/-- The values that the caches of the renderer read. -/
def RenderValues.lit (v : RenderValues) : RenderValues := { v with halfAngle := 0, fullAngle := 0 }

/-! ### Batched lenses -/

/-- What light does not change of an instance. -/
def LensSlot.unlit (slot : LensSlot) : LensSlot :=
  { slot with color := {}, baseEnergy := 0, energy := 0 }

theorem LensSlot.of_unlit {slot slot' : LensSlot} (h : slot'.unlit = slot.unlit)
    : slot'.owner = slot.owner ∧ slot'.visible = slot.visible
        ∧ slot'.transform = slot.transform ∧ slot'.placed = slot.placed := by
  simp only [LensSlot.unlit, LensSlot.mk.injEq] at h
  exact ⟨h.1, h.2.2.2.1, h.2.2.2.2.1, h.2.2.2.2.2.1⟩

/-- A batch that is not dirty afterwards was not dirty before and has the same buffer. -/
structure LensBatch.Kept (batch batch' : LensBatch) : Prop where
  rid : batch'.rid = batch.rid
  length : batch'.slots.length = batch.slots.length
  clean : batch'.dirty = false → batch.dirty = false ∧ batch'.buffer = batch.buffer

namespace LensBatch

theorem Kept.refl (batch : LensBatch) : batch.Kept batch := ⟨rfl, rfl, fun h => ⟨h, rfl⟩⟩

theorem Kept.trans {a b c : LensBatch} (h : a.Kept b) (h' : b.Kept c) : a.Kept c where
  rid := h'.rid.trans h.rid
  length := h'.length.trans h.length
  clean hclean := by
    have hb := h'.clean hclean
    have ha := h.clean hb.1
    exact ⟨ha.1, hb.2.trans ha.2⟩

variable (f : LensSlot → LensSlot) (batch : LensBatch)

theorem getElem?_rewrite (s j : Nat) : (batch.rewrite f s).slots[j]?
    = if s = j then batch.slots[j]?.map f else batch.slots[j]? := by
  unfold rewrite
  split
  next hnone =>
    split
    next heq => rw [← heq, hnone, Option.map_none]
    next => rfl
  next slot hslot =>
    rw [List.getElem?_set]
    split
    next heq =>
      obtain ⟨hlt, _⟩ := List.getElem?_eq_some_iff.mp hslot
      rw [if_pos hlt, ← heq, hslot, Option.map_some]
    next => rfl

theorem kept_rewrite (s : Nat) : batch.Kept (batch.rewrite f s) := by
  unfold rewrite
  split
  . exact Kept.refl batch
  next slot hslot =>
    refine ⟨rfl, List.length_set, ?_⟩
    intro hclean
    simp only [Bool.or_eq_false_iff, bne_eq_false_iff_eq] at hclean
    refine ⟨hclean.1, ?_⟩
    simp only [buffer, List.flatMap_def, List.map_set, hclean.2]
    congr 1
    apply List.ext_getElem?
    intro j
    rw [List.getElem?_set]
    split
    next heq =>
      cases heq
      obtain ⟨hlt, heq⟩ := List.getElem?_eq_some_iff.mp hslot
      simp [hlt, heq]
    next => rfl

theorem kept_rewriteAll (l : List Nat) : batch.Kept (l.foldl (rewrite f) batch) := by
  apply List.foldl_keeps (I := batch.Kept)
  . intro s _ batch' h
    exact h.trans (kept_rewrite f batch' s)
  . exact Kept.refl batch

/-- Every instance is rewritten once. -/
theorem getElem?_rewriteAll (j : Nat)
    : ((List.range batch.slots.length).foldl (rewrite f) batch).slots[j]?
        = batch.slots[j]?.map f := by
  have hupTo : ∀ n, ((List.range n).foldl (rewrite f) batch).slots[j]?
      = if j < n then batch.slots[j]?.map f else batch.slots[j]? := by
    intro n
    induction n with
    | zero => rfl
    | succ n ih =>
      rw [List.range_succ, List.foldl_concat, getElem?_rewrite, ih]
      by_cases heq : n = j
      . simp [heq]
      . have hlt : j < n + 1 ↔ j < n := by omega
        simp [heq, hlt]
  rw [hupTo]
  split
  . rfl
  next hge => rw [List.getElem?_eq_none (by omega), Option.map_none]

end LensBatch

namespace NativeLensBatches

variable {lenses lenses' : NativeLensBatches}

def slotAt (lenses : NativeLensBatches) (route : LensRoute) : Option LensSlot :=
  (lenses.batches[route.batch]?).bind (fun batch => batch.slots[route.slot]?)

/-- The batches are the same but for the contents of their instances. -/
structure Kept (lenses lenses' : NativeLensBatches) : Prop where
  length : lenses'.batches.length = lenses.batches.length
  batch : ∀ (b : Nat) batch', lenses'.batches[b]? = some batch'
    → ∃ batch, lenses.batches[b]? = some batch ∧ batch.Kept batch'
  routes : lenses'.routes = lenses.routes
  enabled : lenses'.enabled = lenses.enabled
  gain : lenses'.gain = lenses.gain

theorem Kept.refl (lenses : NativeLensBatches) : lenses.Kept lenses where
  length := rfl
  batch _ batch h := ⟨batch, h, LensBatch.Kept.refl batch⟩
  routes := rfl
  enabled := rfl
  gain := rfl

theorem Kept.trans {lenses'' : NativeLensBatches} (h : lenses.Kept lenses')
    (h' : lenses'.Kept lenses'') : lenses.Kept lenses'' where
  length := h'.length.trans h.length
  batch b batch'' hbatch'' := by
    obtain ⟨batch', hbatch', hkept'⟩ := h'.batch b batch'' hbatch''
    obtain ⟨batch, hbatch, hkept⟩ := h.batch b batch' hbatch'
    exact ⟨batch, hbatch, hkept.trans hkept'⟩
  routes := h'.routes.trans h.routes
  enabled := h'.enabled.trans h.enabled
  gain := h'.gain.trans h.gain

/-- Every instance was rewritten by `g`. -/
structure Rewritten (g : LensSlot → LensSlot) (lenses lenses' : NativeLensBatches) : Prop
    extends lenses.Kept lenses' where
  slot : ∀ route, lenses'.slotAt route = (lenses.slotAt route).map g

theorem Rewritten.trans {g g' : LensSlot → LensSlot} {lenses'' : NativeLensBatches}
    (h : lenses.Rewritten g lenses') (h' : lenses'.Rewritten g' lenses'')
    : lenses.Rewritten (g' ∘ g) lenses'' where
  toKept := h.toKept.trans h'.toKept
  slot route := by rw [h'.slot, h.slot, Option.map_map]

theorem Rewritten.refl (lenses : NativeLensBatches) : lenses.Rewritten id lenses where
  toKept := Kept.refl lenses
  slot route := by rw [Option.map_id, id]

theorem Rewritten.congr {g g' : LensSlot → LensSlot} (h : lenses.Rewritten g lenses')
    (hg : ∀ route slot, lenses.slotAt route = some slot → g slot = g' slot)
    : lenses.Rewritten g' lenses' where
  toKept := h.toKept
  slot route := by
    rw [h.slot]
    cases hslot : lenses.slotAt route with
    | none => rfl
    | some slot => rw [Option.map_some, Option.map_some, hg route slot hslot]

theorem slotAt_rewrite (f : LensSlot → LensSlot) (lenses : NativeLensBatches)
    (place route : LensRoute) : (lenses.rewrite f place).slotAt route
      = if place = route then (lenses.slotAt route).map f else lenses.slotAt route := by
  obtain ⟨b, s⟩ := place
  obtain ⟨b', s'⟩ := route
  simp only [slotAt, rewrite, List.getElem?_modify, LensRoute.mk.injEq]
  by_cases hb : b = b'
  . cases lenses.batches[b']? with
    | none => simp [hb]
    | some batch => simp [hb, LensBatch.getElem?_rewrite]
  . simp [hb]

theorem kept_modify {batches : List LensBatch} {f : LensBatch → LensBatch}
    (hf : ∀ batch, LensBatch.Kept batch (f batch)) (i b : Nat) {batch' : LensBatch}
    (h : (batches.modify i f)[b]? = some batch')
    : ∃ batch, batches[b]? = some batch ∧ LensBatch.Kept batch batch' := by
  rw [List.getElem?_modify] at h
  cases hbatch : batches[b]? with
  | none => simp [hbatch] at h
  | some batch =>
    refine ⟨batch, rfl, ?_⟩
    simp only [hbatch, Option.map_eq_map, Option.map_some, Option.some.injEq] at h
    rw [← h]
    split
    . exact hf batch
    . exact LensBatch.Kept.refl batch

/-- Doing it twice changes nothing more. -/
theorem slotAt_foldl_rewrite {f : LensSlot → LensSlot} (hidem : ∀ slot, f (f slot) = f slot)
    (places : List LensRoute) (lenses : NativeLensBatches) (route : LensRoute)
    : (places.foldl (rewrite f) lenses).slotAt route
        = if route ∈ places then (lenses.slotAt route).map f else lenses.slotAt route := by
  induction places using List.reverseRecOn with
  | nil => rfl
  | append_singleton places place ih =>
    rw [List.foldl_concat, slotAt_rewrite, ih]
    by_cases hmem : route ∈ places
    . cases lenses.slotAt route with
      | none => simp
      | some slot => simp [hmem, hidem]
    . by_cases heq : place = route
      . simp [heq, hmem]
      . simp [heq, Ne.symm heq, hmem]

theorem kept_rewrite (f : LensSlot → LensSlot) (lenses : NativeLensBatches) (place : LensRoute)
    : lenses.Kept (lenses.rewrite f place) where
  length := List.length_modify _ _ _
  batch b _ h :=
    kept_modify (fun batch => LensBatch.kept_rewrite f batch place.slot) place.batch b h
  routes := rfl
  enabled := rfl
  gain := rfl

/-- Instances that are rewritten at some places. -/
theorem rewritten_foldl {f g : LensSlot → LensSlot} (hidem : ∀ slot, f (f slot) = f slot)
    (places : List LensRoute) (lenses : NativeLensBatches)
    (hg : ∀ route slot, lenses.slotAt route = some slot
      → g slot = if route ∈ places then f slot else slot)
    : lenses.Rewritten g (places.foldl (rewrite f) lenses) where
  toKept := by
    apply List.foldl_keeps (I := lenses.Kept)
    . intro place _ _ h
      exact h.trans (kept_rewrite f _ place)
    . exact Kept.refl lenses
  slot route := by
    rw [slotAt_foldl_rewrite hidem]
    cases hslot : lenses.slotAt route with
    | none => simp
    | some slot =>
      rw [Option.map_some, Option.map_some, hg route slot hslot]
      split
      . rfl
      . rfl

theorem rewritten_rewriteAll (f : LensSlot → LensSlot) (lenses : NativeLensBatches)
    : lenses.Rewritten f (lenses.rewriteAll f) where
  length := List.length_map _
  batch b batch' h := by
    simp only [rewriteAll, List.getElem?_map] at h
    cases hbatch : lenses.batches[b]? with
    | none => simp [hbatch] at h
    | some batch =>
      rw [hbatch, Option.map_some, Option.some.injEq] at h
      rw [← h]
      exact ⟨batch, rfl, LensBatch.kept_rewriteAll f batch _⟩
  routes := rfl
  enabled := rfl
  gain := rfl
  slot route := by
    simp only [slotAt, rewriteAll, List.getElem?_map]
    cases lenses.batches[route.batch]? with
    | none => rfl
    | some batch => simp [LensBatch.getElem?_rewriteAll]

theorem Rewritten.exists_slot {g : LensSlot → LensSlot} (h : lenses.Rewritten g lenses')
    {route : LensRoute} {slot' : LensSlot} (hslot' : lenses'.slotAt route = some slot')
    : ∃ slot, lenses.slotAt route = some slot ∧ slot' = g slot := by
  rw [h.slot] at hslot'
  cases hslot : lenses.slotAt route with
  | none => simp [hslot] at hslot'
  | some slot =>
    rw [hslot, Option.map_some, Option.some.injEq] at hslot'
    exact ⟨slot, rfl, hslot'.symm⟩

/-- The routes of an output lead to its instances and to no others. -/
def Routed (lenses : NativeLensBatches) : Prop :=
  ∀ route slot, lenses.slotAt route = some slot
    → ∀ owner, route ∈ lenses.routes.getD owner [] ↔ owner = slot.owner

theorem Routed.rewritten {g : LensSlot → LensSlot} (h : lenses.Routed)
    (hrewritten : lenses.Rewritten g lenses') (howner : ∀ slot, (g slot).owner = slot.owner)
    : lenses'.Routed := by
  intro route slot' hslot' owner
  obtain ⟨slot, hslot, heq⟩ := hrewritten.exists_slot hslot'
  rw [hrewritten.routes, h route slot hslot owner, heq, howner]

theorem Routed.rewriteOwner {f : LensSlot → LensSlot} (h : lenses.Routed)
    (hidem : ∀ slot, f (f slot) = f slot) (owner : Nat)
    : lenses.Rewritten (fun slot => if slot.owner = owner then f slot else slot)
        (lenses.rewriteOwner f owner) := by
  apply rewritten_foldl hidem
  intro route slot hslot
  simp only [h route slot hslot owner, eq_comm]

/-- Instances that are rewritten for some outputs. -/
theorem Routed.rewriteOwners {f : NativeLensBatches → Nat → LensSlot → LensSlot}
    (h : lenses.Routed) (hkept : ∀ lenses', lenses.Kept lenses' → f lenses' = f lenses)
    (hidem : ∀ owner slot, f lenses owner (f lenses owner slot) = f lenses owner slot)
    (howner : ∀ owner slot, (f lenses owner slot).owner = slot.owner) (owners : List Nat)
    : lenses.Rewritten (fun slot =>
          if slot.owner ∈ owners then f lenses slot.owner slot else slot)
        (owners.foldl (fun lenses owner => lenses.rewriteOwner (f lenses owner) owner) lenses) := by
  induction owners using List.reverseRecOn with
  | nil => exact (Rewritten.refl lenses).congr (by simp)
  | append_singleton owners owner ih =>
    rw [List.foldl_concat]
    generalize owners.foldl _ lenses = lenses' at ih
    have hrouted : lenses'.Routed := by
      apply h.rewritten ih
      intro slot
      split
      . apply howner
      . rfl
    rw [hkept lenses' ih.toKept]
    apply (ih.trans (hrouted.rewriteOwner (hidem owner) owner)).congr
    intro route slot _
    simp only [Function.comp_apply]
    by_cases hmem : slot.owner ∈ owners
    . by_cases heq : slot.owner = owner
      . rw [← heq]
        simp [hmem, howner, hidem]
      . simp [hmem, heq, howner]
    . by_cases heq : slot.owner = owner
      . cases heq
        simp [hmem]
      . simp [hmem, heq]

theorem slotEnergy_kept (h : lenses.Kept lenses') (p : Platform) (envelope : Nat → ℚ)
    : lenses'.slotEnergy p envelope = lenses.slotEnergy p envelope := by
  funext slot
  simp only [slotEnergy, h.enabled, h.gain]

theorem dimSlot_kept (h : lenses.Kept lenses') (p : Platform) (envelope : Nat → ℚ)
    : lenses'.dimSlot p envelope = lenses.dimSlot p envelope := by
  funext slot
  simp only [dimSlot, slotEnergy_kept h]

theorem writeSlot_kept (h : lenses.Kept lenses') (p : Platform) (envelope : Nat → ℚ)
    : lenses'.writeSlot p envelope = lenses.writeSlot p envelope := by
  funext v slot
  simp only [writeSlot, dimSlot_kept h]

theorem Routed.write (h : lenses.Routed) (p : Platform) (envelope : Nat → ℚ)
    (held : Nat → RenderValues) (rows : List Nat)
    : lenses.Rewritten (fun slot => if slot.owner ∈ rows then
          lenses.writeSlot p envelope (held slot.owner) slot else slot)
        (rows.foldl (write p envelope held) lenses) := by
  apply h.rewriteOwners (f := fun lenses index => lenses.writeSlot p envelope (held index))
  . intro lenses' hkept
    funext index
    rw [writeSlot_kept hkept]
  . intro _ _
    rfl
  . intro _ _
    rfl

theorem Routed.shutters (h : lenses.Routed) (p : Platform) (envelope : Nat → ℚ)
    (owners : List Nat)
    : lenses.Rewritten (fun slot => if slot.owner ∈ owners then
          lenses.dimSlot p envelope slot else slot)
        (owners.foldl (fun lenses => lenses.rewriteOwner (lenses.dimSlot p envelope)) lenses) := by
  apply h.rewriteOwners (f := fun lenses _ => lenses.dimSlot p envelope)
  . intro lenses' hkept
    funext _
    exact dimSlot_kept hkept p envelope
  . intro _ _
    rfl
  . intro _ _
    rfl

end NativeLensBatches

/-! ### What the server has of a batch -/

namespace LensBatch

/-- What a batch that is not dirty was submitted with. -/
def Submitted (server : RenderingServer) (batch : LensBatch) : Prop :=
  batch.dirty = false → (server (.multimesh batch.rid)).buffer = some batch.buffer

def Owns (batch : LensBatch) (key : RenderingKey) : Prop := key = .multimesh batch.rid

def serverView (server : RenderingServer) (key : RenderingKey) : RenderingResource := server key

theorem tenant_flush : Tenant Owns serverView flush where
  keys server batch key := by
    unfold flush
    split
    . exact id
    . exact id
  frame server batch key hkey := by
    unfold flush
    split
    . exact Function.update_of_ne hkey _ _
    . rfl

theorem Kept.submitted {batch batch' : LensBatch} {server : RenderingServer}
    (h : batch.Kept batch') (hsubmitted : batch.Submitted server) : batch'.Submitted server := by
  intro hclean
  have hbefore := h.clean hclean
  rw [h.rid, hbefore.2]
  exact hsubmitted hbefore.1

end LensBatch

namespace NativeLensBatches

variable {lenses lenses' : NativeLensBatches}

/-- What a flush leaves: the same batches, of which none is dirty, each as the server has it. -/
structure Flushed (server : RenderingServer) (lenses : NativeLensBatches)
    (server' : RenderingServer) (lenses' : NativeLensBatches) : Prop where
  batch : ∀ (b : Nat) batch', lenses'.batches[b]? = some batch'
    → (∃ batch, lenses.batches[b]? = some batch ∧ batch' = { batch with dirty := false })
      ∧ (server' (.multimesh batch'.rid)).buffer = some batch'.buffer
  slot : ∀ route, lenses'.slotAt route = lenses.slotAt route
  routes : lenses'.routes = lenses.routes
  enabled : lenses'.enabled = lenses.enabled
  gain : lenses'.gain = lenses.gain
  frame : ∀ key, (∀ rid, key ≠ .multimesh rid) → server' key = server key

theorem slots_flush (server : RenderingServer) (batch : LensBatch)
    : (LensBatch.flush server batch).2.slots = batch.slots := by
  unfold LensBatch.flush
  split
  . rfl
  . rfl

theorem slotAt_visit (held : RenderingServer × List LensBatch) (i : Nat) (route : LensRoute)
    : ((visitAt LensBatch.flush held i).2[route.batch]?).bind (fun batch => batch.slots[route.slot]?)
        = (held.2[route.batch]?).bind (fun batch => batch.slots[route.slot]?) := by
  rw [Footprint.getElem?_visitAt]
  split
  . cases held.2[route.batch]? with
    | none => rfl
    | some batch => simp [slots_flush]
  . rfl

theorem flushed_flush {server : RenderingServer}
    (hseparate : Separate LensBatch.Owns lenses.batches)
    (hsubmitted : ∀ batch ∈ lenses.batches, batch.Submitted server)
    : Flushed server lenses (lenses.flush server).1 (lenses.flush server).2 where
  batch := by
    have hvisited := Footprint.foldl_visitAt (s := server) (l := lenses.batches)
      (P := fun b server batch => lenses.batches[b]? = some batch ∧ batch.Submitted server)
      (Q := fun b server batch =>
        (∃ old, lenses.batches[b]? = some old ∧ batch = { old with dirty := false })
          ∧ (server (.multimesh batch.rid)).buffer = some batch.buffer)
      LensBatch.tenant_flush ?_ ?_ ?_ ?_ hseparate ?_ (List.range lenses.batches.length)
    . intro b batch' hbatch'
      apply (hvisited.2 b batch' hbatch').1
      obtain ⟨hlt, _⟩ := List.getElem?_eq_some_iff.mp hbatch'
      rw [List.mem_range]
      exact Nat.lt_of_lt_of_eq hlt (Footprint.length_foldl_visitAt _ _ _)
    . intro b server server' batch hsame h
      refine ⟨h.1, fun hclean => ?_⟩
      rw [← h.2 hclean]
      exact congrArg RenderingResource.buffer (hsame _ rfl).symm
    . intro b server server' batch hsame h
      refine ⟨h.1, ?_⟩
      rw [← h.2]
      exact congrArg RenderingResource.buffer (hsame _ rfl).symm
    . intro b server batch h
      unfold LensBatch.flush
      split
      . exact ⟨⟨batch, h.1, rfl⟩, by simp [RenderingServer.multimeshSetBuffer, LensBatch.buffer]⟩
      next hclean =>
        rw [Bool.not_eq_true] at hclean
        refine ⟨⟨batch, h.1, ?_⟩, h.2 hclean⟩
        rw [← hclean]
    . intro b server batch h
      obtain ⟨⟨old, hold, heq⟩, hbuffer⟩ := h
      unfold LensBatch.flush
      rw [if_neg (by rw [heq]; exact Bool.false_ne_true)]
      exact ⟨⟨old, hold, heq⟩, hbuffer⟩
    . intro b batch hbatch
      exact ⟨hbatch, hsubmitted batch (List.mem_of_getElem? hbatch)⟩
  slot route := by
    apply List.foldl_keeps (I := fun held : RenderingServer × List LensBatch =>
      (held.2[route.batch]?).bind (fun batch => batch.slots[route.slot]?) = lenses.slotAt route)
    . intro i _ held h
      exact (slotAt_visit held i route).trans h
    . rfl
  routes := rfl
  enabled := rfl
  gain := rfl
  frame key hkey := by
    have hnone : ∀ batch ∈ lenses.batches, ¬ batch.Owns key := fun batch _ => hkey batch.rid
    exact Footprint.view_foldl_visitAt LensBatch.tenant_flush hnone _

/-! ### What is written of an instance -/

/-- What the instances of the outputs that are settled show. -/
structure Holds (p : Platform) (envelope : Nat → ℚ) (held : Nat → RenderValues)
    (settled : Nat → Prop) (count : Nat) (server : RenderingServer) (lenses : NativeLensBatches)
    : Prop where
  routed : lenses.Routed
  submitted : ∀ batch ∈ lenses.batches, batch.Submitted server
  placed : ∀ route slot, lenses.slotAt route = some slot
    → slot.placed = if slot.visible then slot.transform else List.replicate 12 0
  owned : ∀ route slot, lenses.slotAt route = some slot → slot.owner < count
  current : ∀ route slot, lenses.slotAt route = some slot → settled slot.owner
    → lenses.writeSlot p envelope (held slot.owner) slot = slot

variable {p : Platform} {envelope : Nat → ℚ} {held : Nat → RenderValues} {settled : Nat → Prop}
  {count : Nat} {server : RenderingServer}

theorem Rewritten.submitted {g : LensSlot → LensSlot} (h : lenses.Rewritten g lenses')
    (hsubmitted : ∀ batch ∈ lenses.batches, batch.Submitted server)
    : ∀ batch ∈ lenses'.batches, batch.Submitted server := by
  intro batch' hbatch'
  obtain ⟨b, hb⟩ := List.getElem?_of_mem hbatch'
  obtain ⟨batch, hbatch, hkept⟩ := h.batch b batch' hb
  exact hkept.submitted (hsubmitted batch (List.mem_of_getElem? hbatch))

/-- An instance that keeps what it is, and what it shows of an output that is settled. -/
theorem Holds.rewritten {g : LensSlot → LensSlot} {held' : Nat → RenderValues}
    {envelope' : Nat → ℚ} {settled' : Nat → Prop}
    (h : lenses.Holds p envelope held settled count server) (hrewritten : lenses.Rewritten g lenses')
    (hkeeps : ∀ slot, (g slot).unlit = slot.unlit)
    (hcurrent : ∀ route slot, lenses.slotAt route = some slot → settled' slot.owner
      → lenses'.writeSlot p envelope' (held' slot.owner) (g slot) = g slot)
    : lenses'.Holds p envelope' held' settled' count server := by
  have howner : ∀ slot, (g slot).owner = slot.owner := fun slot => (LensSlot.of_unlit (hkeeps slot)).1
  refine ⟨h.routed.rewritten hrewritten howner, hrewritten.submitted h.submitted, ?_, ?_, ?_⟩
  . intro route slot' hslot'
    obtain ⟨slot, hslot, heq⟩ := hrewritten.exists_slot hslot'
    obtain ⟨_, hvisible, htransform, hplaced⟩ := LensSlot.of_unlit (hkeeps slot)
    rw [heq, hplaced, hvisible, htransform]
    exact h.placed route slot hslot
  . intro route slot' hslot'
    obtain ⟨slot, hslot, heq⟩ := hrewritten.exists_slot hslot'
    rw [heq, howner]
    exact h.owned route slot hslot
  . intro route slot' hslot' hsettled
    obtain ⟨slot, hslot, heq⟩ := hrewritten.exists_slot hslot'
    rw [heq, howner] at hsettled ⊢
    exact hcurrent route slot hslot hsettled

theorem writeSlot_congr {v v' : RenderValues} (h : v'.lit = v.lit)
    : lenses.writeSlot p envelope v' = lenses.writeSlot p envelope v := by
  simp only [RenderValues.lit, RenderValues.mk.injEq] at h
  funext slot
  simp only [writeSlot, RenderValues.color, h]

theorem writeSlot_eq_iff {v : RenderValues} {slot : LensSlot}
    : lenses.writeSlot p envelope v slot = slot
        ↔ slot.color = v.color ∧ slot.baseEnergy = p.toFloat (v.materialEnergy * slot.scale)
          ∧ slot.energy = lenses.slotEnergy p envelope slot := by
  constructor
  . intro h
    have hcolor : v.color = slot.color := congrArg LensSlot.color h
    have hbase : p.toFloat (v.materialEnergy * slot.scale) = slot.baseEnergy :=
      congrArg LensSlot.baseEnergy h
    have henergy : (lenses.writeSlot p envelope v slot).energy = slot.energy :=
      congrArg LensSlot.energy h
    refine ⟨hcolor.symm, hbase.symm, ?_⟩
    rw [← henergy]
    simp only [writeSlot, dimSlot, slotEnergy, hbase]
  . intro h
    obtain ⟨hcolor, hbase, henergy⟩ := h
    simp only [slotEnergy] at henergy
    simp only [writeSlot, dimSlot, slotEnergy, ← hcolor, ← hbase, ← henergy]

theorem Holds.weaken {held' : Nat → RenderValues} {settled' : Nat → Prop}
    (h : lenses.Holds p envelope held settled count server)
    (hsettled : ∀ o, settled' o → settled o ∧ (held' o).lit = (held o).lit)
    : lenses.Holds p envelope held' settled' count server := by
  refine ⟨h.routed, h.submitted, h.placed, h.owned, ?_⟩
  intro route slot hslot howner
  rw [writeSlot_congr (hsettled slot.owner howner).2]
  exact h.current route slot hslot (hsettled slot.owner howner).1

theorem Holds.told {server' : RenderingServer}
    (h : lenses.Holds p envelope held settled count server)
    (hframe : ∀ rid, server' (.multimesh rid) = server (.multimesh rid))
    : lenses.Holds p envelope held settled count server' := by
  refine ⟨h.routed, ?_, h.placed, h.owned, h.current⟩
  intro batch hbatch hclean
  rw [hframe]
  exact h.submitted batch hbatch hclean

theorem Holds.of_slots {server' : RenderingServer}
    (h : lenses.Holds p envelope held settled count server)
    (hslots : ∀ route, lenses'.slotAt route = lenses.slotAt route)
    (hroutes : lenses'.routes = lenses.routes)
    (hwritten : lenses'.writeSlot p envelope = lenses.writeSlot p envelope)
    (hsubmitted : ∀ batch ∈ lenses'.batches, batch.Submitted server')
    : lenses'.Holds p envelope held settled count server' := by
  refine ⟨?_, hsubmitted, ?_, ?_, ?_⟩
  . intro route slot hslot
    rw [hslots] at hslot
    rw [hroutes]
    exact h.routed route slot hslot
  . intro route slot hslot
    rw [hslots] at hslot
    exact h.placed route slot hslot
  . intro route slot hslot
    rw [hslots] at hslot
    exact h.owned route slot hslot
  . intro route slot hslot
    rw [hslots] at hslot
    rw [hwritten]
    exact h.current route slot hslot

theorem Kept.separate (h : lenses.Kept lenses')
    (hseparate : Separate LensBatch.Owns lenses.batches)
    : Separate LensBatch.Owns lenses'.batches := by
  intro i j a b ha hb hne key hak hbk
  obtain ⟨a', ha', hkept⟩ := h.batch i a ha
  obtain ⟨b', hb', hkept'⟩ := h.batch j b hb
  apply hseparate i j a' b' ha' hb' hne key
  . rw [LensBatch.Owns, ← hkept.rid]
    exact hak
  . rw [LensBatch.Owns, ← hkept'.rid]
    exact hbk

theorem Holds.flush (h : lenses.Holds p envelope held settled count server)
    (hseparate : Separate LensBatch.Owns lenses.batches)
    : (lenses.flush server).2.Holds p envelope held settled count (lenses.flush server).1 := by
  have hflushed := flushed_flush hseparate h.submitted
  apply h.of_slots hflushed.slot rfl rfl
  intro batch hbatch _
  obtain ⟨b, hb⟩ := List.getElem?_of_mem hbatch
  exact (hflushed.batch b batch hb).2

theorem clean_flush (hseparate : Separate LensBatch.Owns lenses.batches)
    (hsubmitted : ∀ batch ∈ lenses.batches, batch.Submitted server)
    : ∀ batch ∈ (lenses.flush server).2.batches, batch.dirty = false := by
  intro batch hbatch
  obtain ⟨b, hb⟩ := List.getElem?_of_mem hbatch
  obtain ⟨⟨old, _, heq⟩, _⟩ := (flushed_flush hseparate hsubmitted).batch b batch hb
  rw [heq]

/-- The outputs of the rows are settled unless nothing was written of them. -/
theorem Holds.written {held' : Nat → RenderValues} {settled' : Nat → Prop} {rows : List Nat}
    (h : lenses.Holds p envelope held settled count server)
    (hsettled : ∀ o, settled' o → o ∈ rows ∨ (settled o ∧ (held' o).lit = (held o).lit))
    : (rows.foldl (write p envelope held') lenses).Holds p envelope held' settled' count server := by
  have hrewritten := h.routed.write p envelope held' rows
  apply h.rewritten hrewritten
  . intro slot
    split
    . rfl
    . rfl
  . intro route slot hslot howner
    rw [writeSlot_kept hrewritten.toKept]
    split
    . rfl
    next hrow =>
      obtain ⟨hold, hlit⟩ := (hsettled slot.owner howner).resolve_left hrow
      rw [writeSlot_congr hlit]
      exact h.current route slot hslot hold

theorem Holds.apply {held' : Nat → RenderValues} {settled' : Nat → Prop} {rows : List Nat}
    {suppress : Bool} (h : lenses.Holds p envelope held settled count server)
    (hseparate : Separate LensBatch.Owns lenses.batches)
    (hsettled : ∀ o, settled' o
      → (suppress = false ∧ o ∈ rows) ∨ (settled o ∧ (held' o).lit = (held o).lit))
    : (lenses.apply p envelope held' rows suppress server).2.Holds p envelope held' settled' count
        (lenses.apply p envelope held' rows suppress server).1 := by
  unfold NativeLensBatches.apply
  split
  next hempty =>
    refine ⟨h.routed, h.submitted, h.placed, h.owned, ?_⟩
    intro route slot hslot
    rw [List.isEmpty_iff] at hempty
    simp [slotAt, hempty] at hslot
  next =>
    cases suppress with
    | true =>
      apply Holds.flush _ hseparate
      apply h.weaken
      intro o ho
      exact (hsettled o ho).resolve_left (fun hwritten => Bool.noConfusion hwritten.1)
    | false =>
      apply Holds.flush
      . apply h.written
        intro o ho
        exact (hsettled o ho).imp_left And.right
      . exact (h.routed.write p envelope held' rows).toKept.separate hseparate

theorem clean_apply {rows : List Nat} {suppress : Bool}
    (h : lenses.Holds p envelope held settled count server)
    (hseparate : Separate LensBatch.Owns lenses.batches) (held' : Nat → RenderValues)
    : ∀ batch ∈ (lenses.apply p envelope held' rows suppress server).2.batches,
        batch.dirty = false := by
  unfold NativeLensBatches.apply
  split
  next hempty =>
    intro batch hbatch
    rw [List.isEmpty_iff] at hempty
    simp [hempty] at hbatch
  next =>
    have hrewritten := h.routed.write p envelope held' rows
    cases suppress with
    | true => exact clean_flush hseparate h.submitted
    | false =>
      exact clean_flush (hrewritten.toKept.separate hseparate) (hrewritten.submitted h.submitted)

theorem Holds.setGain {gain : CallerFloat}
    (h : lenses.Holds p envelope held settled count server)
    (hseparate : Separate LensBatch.Owns lenses.batches)
    : (lenses.setGain p envelope gain server).2.Holds p envelope held settled count
        (lenses.setGain p envelope gain server).1 := by
  unfold NativeLensBatches.setGain
  split
  . exact h
  next gain =>
    -- the gain changes first, what was written before is the same but for the energy
    have hunset : ({ lenses with gain := p.toFloat (max gain 0) } : NativeLensBatches).Holds p
        envelope held (fun _ => False) count server :=
      ⟨h.routed, h.submitted, h.placed, h.owned, fun _ _ _ => False.elim⟩
    have hrewritten := rewritten_rewriteAll
      (dimSlot p envelope { lenses with gain := p.toFloat (max gain 0) })
      { lenses with gain := p.toFloat (max gain 0) }
    apply Holds.flush
    . apply hunset.rewritten hrewritten
      . intro _
        rfl
      . intro route slot hslot howner
        obtain ⟨hcolor, hbase, _⟩ := writeSlot_eq_iff.mp (h.current route slot hslot howner)
        rw [writeSlot_kept hrewritten.toKept]
        exact writeSlot_eq_iff.mpr ⟨hcolor, hbase, rfl⟩
    . exact hrewritten.toKept.separate hseparate

theorem slotAt_invalidate (lenses : NativeLensBatches) (route : LensRoute)
    : lenses.invalidate.slotAt route = lenses.slotAt route := by
  simp only [slotAt, invalidate, List.getElem?_map]
  cases lenses.batches[route.batch]? with
  | none => rfl
  | some batch => rfl

theorem Holds.invalidate (h : lenses.Holds p envelope held settled count server)
    : lenses.invalidate.Holds p envelope held settled count server := by
  apply h.of_slots (slotAt_invalidate lenses) rfl rfl
  intro batch hbatch hclean
  simp only [NativeLensBatches.invalidate, List.mem_map] at hbatch
  obtain ⟨_, _, heq⟩ := hbatch
  rw [← heq] at hclean
  cases hclean

theorem Holds.setEnabled {enabled : Bool} {settled' : Nat → Prop}
    (h : lenses.Holds p envelope held settled count server)
    (hsettled : ∀ o, settled' o → settled o ∧ (enabled = true → lenses.enabled = true))
    : (lenses.setEnabled enabled).Holds p envelope held settled' count server := by
  cases enabled with
  | true =>
    apply Holds.invalidate
    refine ⟨h.routed, h.submitted, h.placed, h.owned, ?_⟩
    intro route slot hslot howner
    obtain ⟨hold, henabled⟩ := hsettled slot.owner howner
    have hcurrent := h.current route slot hslot hold
    have hsame : ({ lenses with enabled := true } : NativeLensBatches) = lenses := by
      rw [← henabled rfl]
    exact hsame ▸ hcurrent
  | false =>
    apply Holds.invalidate
    have hrewritten := rewritten_rewriteAll (fun slot => { slot with energy := 0 })
      { lenses with enabled := false }
    have hunset : ({ lenses with enabled := false } : NativeLensBatches).Holds p envelope held
        (fun _ => False) count server :=
      ⟨h.routed, h.submitted, h.placed, h.owned, fun _ _ _ => False.elim⟩
    apply hunset.rewritten hrewritten
    . intro _
      rfl
    . intro route slot hslot howner
      have hcurrent := h.current route slot hslot (hsettled slot.owner howner).1
      obtain ⟨hcolor, hbase, _⟩ := writeSlot_eq_iff.mp hcurrent
      rw [writeSlot_kept hrewritten.toKept]
      exact writeSlot_eq_iff.mpr ⟨hcolor, hbase, rfl⟩

theorem Holds.applyShutters {envelope' : Nat → ℚ} {settled' : Nat → Prop} {changed : List Nat}
    (h : lenses.Holds p envelope held settled count server)
    (hseparate : Separate LensBatch.Owns lenses.batches)
    (hsettled : ∀ o, settled' o → settled o ∧ (o ∉ changed → envelope' o = envelope o))
    : (lenses.applyShutters p envelope' changed server).2.Holds p envelope' held settled' count
        (lenses.applyShutters p envelope' changed server).1 := by
  have hlit : ∀ route slot, lenses.slotAt route = some slot → settled' slot.owner
      → slot.color = (held slot.owner).color
        ∧ slot.baseEnergy = p.toFloat ((held slot.owner).materialEnergy * slot.scale)
        ∧ slot.energy = lenses.slotEnergy p envelope slot := by
    intro route slot hslot howner
    exact writeSlot_eq_iff.mp (h.current route slot hslot (hsettled slot.owner howner).1)
  unfold NativeLensBatches.applyShutters
  split
  next =>
    have hrewritten := h.routed.shutters p envelope' changed
    apply Holds.flush
    . apply h.rewritten hrewritten
      . intro slot
        split
        . rfl
        . rfl
      . intro route slot hslot howner
        obtain ⟨hcolor, hbase, henergy⟩ := hlit route slot hslot howner
        rw [writeSlot_kept hrewritten.toKept]
        split
        . exact writeSlot_eq_iff.mpr ⟨hcolor, hbase, rfl⟩
        next hnot =>
          refine writeSlot_eq_iff.mpr ⟨hcolor, hbase, ?_⟩
          rw [henergy, slotEnergy, slotEnergy, (hsettled slot.owner howner).2 hnot]
    . exact hrewritten.toKept.separate hseparate
  next hdisabled =>
    refine ⟨h.routed, h.submitted, h.placed, h.owned, ?_⟩
    intro route slot hslot howner
    obtain ⟨hcolor, hbase, henergy⟩ := hlit route slot hslot howner
    refine writeSlot_eq_iff.mpr ⟨hcolor, hbase, ?_⟩
    rw [henergy, slotEnergy, slotEnergy, if_neg hdisabled, if_neg hdisabled]

theorem holds_clear (lenses : NativeLensBatches)
    : lenses.clear.Holds p envelope held settled count server := by
  have hnone : ∀ route, lenses.clear.slotAt route = none := fun _ => rfl
  refine ⟨?_, ?_, ?_, ?_, ?_⟩
  . intro route slot hslot
    cases (hnone route).symm.trans hslot
  . intro batch hbatch
    cases hbatch
  . intro route slot hslot
    cases (hnone route).symm.trans hslot
  . intro route slot hslot
    cases (hnone route).symm.trans hslot
  . intro route slot hslot
    cases (hnone route).symm.trans hslot

/-! ### Visibility -/

theorem setVisible_cases (s : Nat) (visible : Bool) (batch : LensBatch)
    : batch.setVisible s visible = batch
        ∨ (batch.setVisible s visible).dirty = true
          ∧ (batch.setVisible s visible).rid = batch.rid
          ∧ ∃ slot, batch.slots[s]? = some slot
            ∧ (batch.setVisible s visible).slots = batch.slots.set s { slot with
              visible := visible
              placed := if visible then slot.transform else List.replicate 12 0
            } := by
  unfold LensBatch.setVisible
  split
  . exact Or.inl rfl
  next slot hslot =>
    split
    . exact Or.inl rfl
    . exact Or.inr ⟨rfl, rfl, slot, hslot, rfl⟩

/-- An instance after a change of visibility, with the one that it was. -/
structure Seen (slot slot' : LensSlot) : Prop where
  owner : slot'.owner = slot.owner
  written : ∀ (p : Platform) (envelope : Nat → ℚ) (lenses : NativeLensBatches) (v : RenderValues),
    lenses.writeSlot p envelope v slot = slot → lenses.writeSlot p envelope v slot' = slot'
  placed : slot' = slot
    ∨ slot'.placed = if slot'.visible then slot'.transform else List.replicate 12 0

theorem exists_seen {b s : Int32} {visible : Bool} {route : LensRoute} {slot' : LensSlot}
    (h : (lenses.setVisible b s visible).slotAt route = some slot')
    : ∃ slot, lenses.slotAt route = some slot ∧ Seen slot slot' := by
  have hsame : lenses.slotAt route = some slot'
      → ∃ slot, lenses.slotAt route = some slot ∧ Seen slot slot' :=
    fun hslot => ⟨slot', hslot, rfl, fun _ _ _ _ => id, Or.inl rfl⟩
  unfold NativeLensBatches.setVisible at h
  split at h
  . exact hsame h
  simp only [slotAt, List.getElem?_modify] at h hsame ⊢
  cases hbatch : lenses.batches[route.batch]? with
  | none => simp [hbatch] at h
  | some batch =>
    simp only [hbatch, Option.map_eq_map, Option.map_some, Option.bind_some] at h hsame ⊢
    split at h
    . cases setVisible_cases s.toInt.toNat visible batch with
      | inl heq =>
        rw [heq] at h
        exact hsame h
      | inr hset =>
        obtain ⟨_, _, slot, hslot, hslots⟩ := hset
        rw [hslots, List.getElem?_set] at h
        split at h
        next hplace =>
          split at h
          . rw [Option.some.injEq] at h
            refine ⟨slot, hplace ▸ hslot, ?_⟩
            rw [← h]
            refine ⟨rfl, ?_, Or.inr rfl⟩
            intro p envelope lenses v hwritten
            obtain ⟨hcolor, hbase, henergy⟩ := writeSlot_eq_iff.mp hwritten
            exact writeSlot_eq_iff.mpr ⟨hcolor, hbase, henergy⟩
          . cases h
        . exact hsame h
    . exact hsame h

theorem Holds.setVisible {b s : Int32} {visible : Bool}
    (h : lenses.Holds p envelope held settled count server)
    : (lenses.setVisible b s visible).Holds p envelope held settled count server := by
  have hframe : (lenses.setVisible b s visible).routes = lenses.routes
      ∧ (lenses.setVisible b s visible).enabled = lenses.enabled
      ∧ (lenses.setVisible b s visible).gain = lenses.gain := by
    unfold NativeLensBatches.setVisible
    split
    . exact ⟨rfl, rfl, rfl⟩
    . exact ⟨rfl, rfl, rfl⟩
  obtain ⟨hroutes, henabled, hgain⟩ := hframe
  constructor
  . intro route slot' hslot' owner
    obtain ⟨slot, hslot, hseen⟩ := exists_seen hslot'
    rw [hroutes, hseen.owner]
    exact h.routed route slot hslot owner
  . intro batch' hbatch' hclean
    unfold NativeLensBatches.setVisible at hbatch'
    split at hbatch'
    . exact h.submitted batch' hbatch' hclean
    . obtain ⟨i, hi⟩ := List.getElem?_of_mem hbatch'
      rw [List.getElem?_modify] at hi
      cases hbatch : lenses.batches[i]? with
      | none => simp [hbatch] at hi
      | some batch =>
        simp only [hbatch, Option.map_eq_map, Option.map_some, Option.some.injEq] at hi
        have hsubmitted := h.submitted batch (List.mem_of_getElem? hbatch)
        split at hi
        . cases setVisible_cases s.toInt.toNat visible batch with
          | inl heq =>
            rw [heq] at hi
            exact (hi ▸ hsubmitted) hclean
          | inr hset =>
            rw [← hi, hset.1] at hclean
            cases hclean
        . exact (hi ▸ hsubmitted) hclean
  . intro route slot' hslot'
    obtain ⟨slot, hslot, hseen⟩ := exists_seen hslot'
    cases hseen.placed with
    | inl heq =>
      rw [heq]
      exact h.placed route slot hslot
    | inr hplaced => exact hplaced
  . intro route slot' hslot'
    obtain ⟨slot, hslot, hseen⟩ := exists_seen hslot'
    rw [hseen.owner]
    exact h.owned route slot hslot
  . intro route slot' hslot' howner
    obtain ⟨slot, hslot, hseen⟩ := exists_seen hslot'
    rw [hseen.owner] at howner ⊢
    have hsame : (lenses.setVisible b s visible).writeSlot p envelope
        = lenses.writeSlot p envelope := by
      funext v slot
      simp only [writeSlot, dimSlot, slotEnergy, henabled, hgain]
    rw [hsame]
    exact hseen.written p envelope lenses _ (h.current route slot hslot howner)

/-! ### Installation -/

theorem mem_routes_foldl (entries : List (Nat × LensRoute)) (routes : List (List LensRoute))
    (owner : Nat) (route : LensRoute)
    : route ∈ (entries.foldl (fun routes entry => routes.modify entry.1 (· ++ [entry.2]))
          routes).getD owner []
        ↔ route ∈ routes.getD owner [] ∨ (owner < routes.length ∧ (owner, route) ∈ entries) := by
  induction entries generalizing routes with
  | nil => simp
  | cons entry entries ih =>
    rw [List.foldl_cons, ih, List.length_modify]
    obtain ⟨entryOwner, entryRoute⟩ := entry
    by_cases howner : entryOwner = owner
    . cases howner
      by_cases hlt : owner < routes.length
      . simp [List.getD_eq_getElem?_getD, hlt, or_assoc]
      . simp [List.getD_eq_getElem?_getD, hlt]
    . simp [List.getD_eq_getElem?_getD, howner, Ne.symm howner]

theorem mem_instances (batches : List LensBatch) (owner : Nat) (route : LensRoute)
    : (owner, route) ∈ instances batches
        ↔ ∃ slot, (batches[route.batch]?).bind (fun batch => batch.slots[route.slot]?) = some slot
          ∧ slot.owner = owner := by
  obtain ⟨b, s⟩ := route
  simp only [instances, List.mem_flatMap, List.mem_map, Prod.mk.injEq, LensRoute.mk.injEq,
    Prod.exists, List.mem_zipIdx_iff_getElem?]
  constructor
  . intro h
    obtain ⟨batch, b', hbatch, slot, s', hslot, howner, hb, hs⟩ := h
    cases hb
    cases hs
    exact ⟨slot, by simp [hbatch, hslot], howner⟩
  . intro h
    obtain ⟨slot, hslot, howner⟩ := h
    obtain ⟨batch, hbatch, hslot⟩ := Option.bind_eq_some_iff.mp hslot
    exact ⟨batch, b, hbatch, slot, s, hslot, howner, rfl, rfl⟩

theorem routed_routesOf {batches : List LensBatch} (howned : ∀ batch ∈ batches,
    ∀ slot ∈ batch.slots, slot.owner < count) (lenses : NativeLensBatches)
    : Routed { lenses with batches := batches, routes := routesOf count batches } := by
  intro route slot hslot owner
  obtain ⟨batch, hbatch, hin⟩ := Option.bind_eq_some_iff.mp hslot
  have hlt := howned batch (List.mem_of_getElem? hbatch) slot (List.mem_of_getElem? hin)
  have hempty : (List.replicate count ([] : List LensRoute)).getD owner [] = [] := by
    rw [List.getD_eq_getElem?_getD, List.getElem?_replicate]
    split
    . rfl
    . rfl
  rw [routesOf, mem_routes_foldl, hempty, List.length_replicate, mem_instances]
  constructor
  . intro h
    obtain ⟨_, slot', hslot', howner⟩ := h.resolve_left List.not_mem_nil
    cases hslot.symm.trans hslot'
    exact howner.symm
  . intro h
    rw [h]
    exact Or.inr ⟨hlt, slot, hslot, rfl⟩

theorem lensSlot_eq_some {owner : Int32} {scale : CallerFloat} {cells : List CallerFloat}
    {slot : LensSlot} (h : lensSlot count owner scale cells = some slot)
    : slot.owner < count ∧ slot.visible = true ∧ slot.placed = slot.transform := by
  simp only [lensSlot, Option.bind_eq_bind, Option.bind_eq_some_iff] at h
  obtain ⟨_, _, _, _, h⟩ := h
  split at h
  . cases h
  next hvalid =>
    cases h
    refine ⟨?_, rfl, rfl⟩
    dsimp only
    by_contra hge
    exact hvalid (Or.inr (Or.inl (Nat.not_lt.mp hge)))

theorem lensBatch_eq_some {rid : Option RID} {ids : Option (List Int32)}
    {data gain : Option (List CallerFloat)} {batch : LensBatch}
    (h : lensBatch count rid ids data gain = some batch) : batch.dirty = true
      ∧ ∀ slot ∈ batch.slots,
        slot.owner < count ∧ slot.visible = true ∧ slot.placed = slot.transform := by
  simp only [lensBatch, Option.bind_eq_bind, Option.bind_eq_some_iff] at h
  obtain ⟨_, _, _, _, _, _, _, _, h⟩ := h
  split at h
  . cases h
  . obtain ⟨slots, hslots, h⟩ := Option.bind_eq_some_iff.mp h
    cases h
    refine ⟨rfl, ?_⟩
    intro slot hslot
    obtain ⟨_, _, hlens⟩ := OptionFold.exists_of_mapM hslots hslot
    exact lensSlot_eq_some hlens

/-- Nothing is settled of a new binding. -/
theorem Holds.install {rids : List (Option RID)} {owners : List (Option (List Int32))}
    {buffers scales : List (Option (List CallerFloat))} {settled' : Nat → Prop}
    (h : lenses.Holds p envelope held settled count server)
    (hsettled : ∀ o < count, settled' o → settled o
      ∧ (lenses.install count rids owners buffers scales).2 = false)
    : (lenses.install count rids owners buffers scales).1.Holds p envelope held settled' count
        server := by
  revert hsettled
  have hrejected : (∀ o < count, settled' o → settled o ∧ false = false)
      → lenses.Holds p envelope held settled' count server := by
    intro hsettled
    refine ⟨h.routed, h.submitted, h.placed, h.owned, ?_⟩
    intro route slot hslot howner
    exact h.current route slot hslot (hsettled slot.owner (h.owned route slot hslot) howner).1
  unfold NativeLensBatches.install
  split
  . exact hrejected
  . split
    . intro _
      exact holds_clear lenses
    . dsimp only
      split
      . exact hrejected
      next next hnext =>
        intro hsettled
        have hbatches : ∀ batch ∈ next, batch.dirty = true ∧ ∀ slot ∈ batch.slots,
            slot.owner < count ∧ slot.visible = true ∧ slot.placed = slot.transform := by
          intro batch hbatch
          obtain ⟨_, _, hlens⟩ := OptionFold.exists_of_mapM hnext hbatch
          exact lensBatch_eq_some hlens
        have hslots : ∀ (route : LensRoute) (slot : LensSlot), (next[route.batch]?).bind
            (fun batch => batch.slots[route.slot]?) = some slot
            → slot.owner < count ∧ slot.visible = true ∧ slot.placed = slot.transform := by
          intro route slot hslot
          obtain ⟨batch, hbatch, hin⟩ := Option.bind_eq_some_iff.mp hslot
          exact (hbatches batch (List.mem_of_getElem? hbatch)).2 slot (List.mem_of_getElem? hin)
        constructor
        . apply routed_routesOf
          intro batch hbatch slot hslot
          exact ((hbatches batch hbatch).2 slot hslot).1
        . intro batch hbatch hclean
          rw [(hbatches batch hbatch).1] at hclean
          cases hclean
        . intro route slot hslot
          rw [(hslots route slot hslot).2.1, if_pos rfl]
          exact (hslots route slot hslot).2.2
        . intro route slot hslot
          exact (hslots route slot hslot).1
        . intro route slot hslot howner
          cases (hsettled slot.owner (hslots route slot hslot).1 howner).2

end NativeLensBatches
end Peraviz.Presentation
