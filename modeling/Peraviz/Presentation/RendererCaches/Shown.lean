import Peraviz.Presentation.RenderState.Coherence
import Peraviz.Presentation.RendererCaches.Lenses
import Peraviz.Transition.Machine

/-!
This module contains what the batched lenses show in the runs of a session: whatever is asked of the
session in whatever order, a batch that is not dirty and of whose outputs nothing is pending has the
buffer on the server that a packing from scratch would give it.
-/

namespace Peraviz.Presentation

open Peraviz.Runtime
open Footprint (visitAt Separate)

/-! ### Shutters between two samples -/

namespace ShutterPlayback

/-- The shutters of the outputs are as they were sampled last. -/
structure Still (s s' : ShutterPlayback) : Prop where
  size : s'.size = s.size
  envelopes : s'.envelopes = s.envelopes
  changed : s'.changed = s.changed

theorem Still.refl (s : ShutterPlayback) : s.Still s := ⟨rfl, rfl, rfl⟩

theorem Still.trans {s s' s'' : ShutterPlayback} (h : s.Still s') (h' : s'.Still s'')
    : s.Still s'' :=
  ⟨h'.size.trans h.size, h'.envelopes.trans h.envelopes, h'.changed.trans h.changed⟩

theorem Still.foldl {α : Type} {f : ShutterPlayback → α → ShutterPlayback}
    (h : ∀ (s : ShutterPlayback) a, s.Still (f s a)) (s : ShutterPlayback) (l : List α)
    : s.Still (l.foldl f s) := by
  apply List.foldl_keeps (I := s.Still)
  . intro a _ s' hs'
    exact hs'.trans (h s' a)
  . exact Still.refl s

theorem still_activity (add : Bool) (s : ShutterPlayback) (owner : Nat)
    : s.Still (activity add s owner) := by
  unfold activity
  split
  . exact ⟨rfl, rfl, rfl⟩
  . exact ⟨rfl, rfl, rfl⟩

theorem still_evaluateLater (s : ShutterPlayback) (slot : Nat)
    : s.Still (evaluateLater s slot) := by
  unfold evaluateLater
  split
  . exact Still.refl s
  . exact ⟨rfl, rfl, rfl⟩

theorem still_nominate (force : Bool) (s : ShutterPlayback) (owner : Nat)
    : s.Still (nominate force s owner) := by
  unfold nominate
  split
  . exact Still.refl s
  . dsimp only
    split
    . exact ⟨rfl, rfl, rfl⟩
    . exact ⟨rfl, rfl, rfl⟩

theorem still_invalidate (platform : Platform) (s : ShutterPlayback)
    : s.Still (s.invalidate platform) := by
  have hcounted : s.Still { s with invalidations := s.invalidations + 1 } := ⟨rfl, rfl, rfl⟩
  exact hcounted.trans (Still.foldl (still_nominate true) _ _)

theorem still_activate (s : ShutterPlayback) (slot : Nat) : s.Still (s.activate slot) := by
  unfold activate
  apply Still.trans _ (Still.foldl (still_activity true) _ _)
  exact ⟨rfl, rfl, rfl⟩

theorem still_deactivate (s : ShutterPlayback) (slot position : Nat)
    : s.Still (s.deactivate slot position) := by
  unfold deactivate
  apply Still.trans _ (Still.foldl (still_activity false) _ _)
  exact ⟨rfl, rfl, rfl⟩

theorem still_accept (s : ShutterPlayback) (slot : Nat) (p : ShutterParameters)
    : s.Still (s.accept slot p) := by
  unfold accept
  split
  . dsimp only
    apply Still.trans _ (still_evaluateLater _ slot)
    split
    . split
      . apply Still.trans _ (still_activate _ slot)
        exact ⟨rfl, rfl, rfl⟩
      . exact ⟨rfl, rfl, rfl⟩
    . split
      . exact ⟨rfl, rfl, rfl⟩
      . apply Still.trans _ (still_deactivate _ slot _)
        exact ⟨rfl, rfl, rfl⟩
  . exact Still.refl s

theorem still_associate (s : ShutterPlayback) (slot owner : Nat)
    : s.Still (s.associate slot owner) := by
  unfold associate
  split
  . exact Still.refl s
  . dsimp only
    apply Still.trans _ (still_nominate true _ owner)
    split
    . apply Still.trans _ (still_activity true _ owner)
      exact ⟨rfl, rfl, rfl⟩
    . exact ⟨rfl, rfl, rfl⟩

theorem still_ingestRow (received : ℚ) (s : ShutterPlayback) (row : PlaybackRow)
    : s.Still (s.ingestRow received row).1 := by
  have hadmitted : s.Still (s.admitRow row).1 := by
    unfold admitRow
    split
    . exact Still.refl s
    . exact ⟨rfl, rfl, rfl⟩
  have hclock : ∀ s : ShutterPlayback, s.Still (s.setClock received row) := by
    intro s
    unfold setClock
    split
    . exact Still.refl s
    . exact ⟨rfl, rfl, rfl⟩
  unfold ingestRow
  split
  . exact Still.refl s
  next owner _ =>
    dsimp only
    split
    . exact hadmitted
    . apply hadmitted.trans
      apply (hclock _).trans
      exact (still_accept _ _ _).trans (still_associate _ _ _)

theorem still_ingest (s : ShutterPlayback) (d ints : List Int32) (v : List Scalar) (received : ℚ)
    : s.Still (s.ingest d ints v received).1 := by
  unfold ingest
  split
  . exact Still.refl s
  next rows hrows =>
    clear hrows
    induction rows generalizing s with
    | nil => exact Still.refl s
    | cons row rows ih =>
      have hrow := still_ingestRow received s row
      unfold ingestRows
      split
      next s' hs' =>
        rw [hs'] at hrow
        exact hrow.trans (ih s')
      next s' hs' =>
        rw [hs'] at hrow
        exact hrow

theorem still_evaluate (platform : Platform) (now : ℚ) (s : ShutterPlayback) (slot : Nat)
    : s.Still (evaluate platform now s slot) := by
  unfold evaluate
  dsimp only
  split
  . have hnominated := Still.foldl (still_nominate false)
      { s with
        evaluations := s.evaluations + 1
        authorities := modifySlot s.authorities slot (fun authority => { authority with
          value := platform.toFloat (shutterEnvelope (s.authorities slot).p now) }) }
      (modifySlot s.authorities slot (fun authority => { authority with
          value := platform.toFloat (shutterEnvelope (s.authorities slot).p now) }) slot).owners
    exact ⟨hnominated.size, hnominated.envelopes, hnominated.changed⟩
  . exact ⟨rfl, rfl, rfl⟩

/-- The shutters that a sample does not report are what they were. -/
structure Resampled (s s' : ShutterPlayback) : Prop where
  size : s'.size = s.size
  others : ∀ owner, owner ∉ s'.changed → s'.envelopes owner = s.envelopes owner

theorem resampled_commit (platform : Platform) {s s' : ShutterPlayback} (h : s.Resampled s')
    (owner : Nat) : s.Resampled (commit platform s' owner) := by
  unfold commit
  dsimp only
  split
  . refine ⟨h.size, ?_⟩
    intro other hother
    dsimp only at hother ⊢
    rw [List.mem_append, List.mem_singleton, not_or] at hother
    rw [Function.update_of_ne hother.2]
    exact h.others other hother.1
  . exact ⟨h.size, h.others⟩

theorem Resampled.commits (platform : Platform) {s s' : ShutterPlayback} (h : s.Resampled s')
    (owners : List Nat) : s.Resampled (owners.foldl (commit platform) s') := by
  apply List.foldl_keeps (I := s.Resampled)
  . intro owner _ s'' hs''
    exact resampled_commit platform hs'' owner
  . exact h

theorem resampled_tick (platform : Platform) (s : ShutterPlayback) (testNow clockNow : ℚ)
    : s.Resampled (s.tick platform testNow clockNow) := by
  have hcommitted : ∀ s' : ShutterPlayback, Still { s with changed := [] } s'
      → s.Resampled { s'.dirty.foldl (commit platform) { s' with dirtyAuthorities := [] } with
        dirty := [] } := by
    intro s' hs'
    have hstart : s.Resampled { s' with dirtyAuthorities := [] } :=
      ⟨hs'.size, fun owner _ => congrFun hs'.envelopes owner⟩
    have hend := hstart.commits platform s'.dirty
    exact ⟨hend.size, hend.others⟩
  unfold tick
  dsimp only
  split
  . apply hcommitted
    apply Still.trans (Still.foldl still_evaluateLater _ _)
    exact Still.foldl (still_evaluate platform _) _ _
  . exact ⟨rfl, fun _ _ => rfl⟩

end ShutterPlayback

/-! ### What the materials leave alone -/

section Multimeshes

variable {server : RenderingServer} {rid : RID}

theorem MaterialBinding.multimesh_setEnergy (energy : ℚ) (b : MaterialBinding)
    : (b.setEnergy energy server).1 (.multimesh rid) = server (.multimesh rid) := by
  unfold setEnergy
  split
  . rfl
  . have hne : RenderingKey.multimesh rid ≠ .material b.rid := by simp
    simp only [RenderingServer.materialSetEnergy, Function.update_of_ne hne]

theorem MaterialBinding.multimesh_setColor (color : MaterialColor) (b : MaterialBinding)
    : (b.setColor color server).1 (.multimesh rid) = server (.multimesh rid) := by
  unfold setColor
  split
  . rfl
  . have hne : RenderingKey.multimesh rid ≠ .material b.rid := by simp
    simp only [RenderingServer.materialSetEmission, Function.update_of_ne hne]

theorem MaterialBinding.multimesh_updateSurfaceVisible (enabled force : Bool) (b : MaterialBinding)
    : (b.updateSurfaceVisible enabled force server).1 (.multimesh rid)
        = server (.multimesh rid) := by
  unfold updateSurfaceVisible
  split
  . rfl
  next drawn _ =>
    dsimp only
    split
    . have hne : RenderingKey.multimesh rid ≠ .surfaceInstance drawn.rid := by simp
      simp only [RenderingServer.instanceSetVisible, Function.update_of_ne hne]
    . rfl

namespace PresentationMaterialBindings

variable {m : PresentationMaterialBindings} {p : Platform} {envelope : Nat → ℚ}

theorem multimesh_visit
    {step : RenderingServer → MaterialBinding → RenderingServer × MaterialBinding}
    (hstep : ∀ server b, (step server b).1 (.multimesh rid) = server (.multimesh rid))
    (visited : List Nat)
    : (m.visit step visited server).1 (.multimesh rid) = server (.multimesh rid) := by
  unfold visit
  apply List.foldl_keeps (I := fun held : RenderingServer × List MaterialBinding =>
    held.1 (.multimesh rid) = server (.multimesh rid))
  . intro i _ held hheld
    unfold visitAt
    split
    . exact hheld
    . exact (hstep _ _).trans hheld
  . rfl

theorem multimesh_installSurfaceInstances (rids : List (Option RID))
    : (m.installSurfaceInstances rids server).1 (.multimesh rid) = server (.multimesh rid) := by
  unfold installSurfaceInstances
  split
  . rfl
  . split
    . rfl
    . apply multimesh_visit
      intro server b
      apply MaterialBinding.multimesh_updateSurfaceVisible

theorem multimesh_setSurfaceVisible (index : Int32) (allowed : Bool)
    : (m.setSurfaceVisible index allowed server).1 (.multimesh rid)
        = server (.multimesh rid) := by
  unfold setSurfaceVisible
  split
  . rfl
  . apply multimesh_visit
    intro server b
    split
    . rfl
    . apply MaterialBinding.multimesh_updateSurfaceVisible

theorem multimesh_setEnabled (enabled : Bool)
    : (m.setEnabled enabled server).1 (.multimesh rid) = server (.multimesh rid) := by
  have hupdate : ∀ (m : PresentationMaterialBindings) (server : RenderingServer),
      (m.visit (MaterialBinding.updateSurfaceVisible enabled false) m.all server).1
        (.multimesh rid) = server (.multimesh rid) := by
    intro m server
    apply multimesh_visit
    intro server b
    apply MaterialBinding.multimesh_updateSurfaceVisible
  cases enabled with
  | true => exact hupdate _ _
  | false =>
    refine (hupdate _ _).trans ?_
    apply multimesh_visit
    intro server b
    apply MaterialBinding.multimesh_setEnergy

theorem multimesh_setSurfaceGain (gain : CallerFloat)
    : (m.setSurfaceGain p envelope gain server).1 (.multimesh rid)
        = server (.multimesh rid) := by
  unfold setSurfaceGain
  split
  . rfl
  . split
    . apply multimesh_visit
      intro server b
      refine (MaterialBinding.multimesh_updateSurfaceVisible _ _ _).trans ?_
      apply MaterialBinding.multimesh_setEnergy
    . rfl

theorem multimesh_setLensGain (gain : CallerFloat)
    : (m.setLensGain p envelope gain server).1 (.multimesh rid) = server (.multimesh rid) := by
  unfold setLensGain
  split
  . rfl
  . split
    . rfl
    . apply multimesh_visit
      intro server b
      apply MaterialBinding.multimesh_setEnergy

theorem multimesh_write (held : Nat → RenderValues) (server : RenderingServer)
    (b : MaterialBinding)
    : (m.write p envelope held server b).1 (.multimesh rid) = server (.multimesh rid) := by
  have hcolored : ((m.rebase p (held b.owner) b).setColor (held b.owner).color server).1
      (.multimesh rid) = server (.multimesh rid) := MaterialBinding.multimesh_setColor _ _
  unfold write
  dsimp only
  cases hcolor : (m.rebase p (held b.owner) b).setColor (held b.owner).color server with
  | mk server' b' =>
    rw [hcolor] at hcolored
    have henergy : (b'.setEnergy (m.bindingEnergy p envelope (m.rebase p (held b.owner) b))
        server').1 (.multimesh rid) = server' (.multimesh rid) :=
      MaterialBinding.multimesh_setEnergy _ _
    dsimp only
    split
    . refine (MaterialBinding.multimesh_updateSurfaceVisible _ _ _).trans ?_
      split
      . exact hcolored
      . exact henergy.trans hcolored
    . split
      . exact hcolored
      . exact henergy.trans hcolored

theorem multimesh_apply (held : Nat → RenderValues) (rows : List (Nat × UInt32)) (suppress : Bool)
    : (m.apply p envelope held rows suppress server).1 (.multimesh rid)
        = server (.multimesh rid) := by
  unfold PresentationMaterialBindings.apply
  dsimp only
  split
  . split
    . rfl
    . apply multimesh_visit
      apply multimesh_write
  . rfl

theorem multimesh_applyShutters (owners : List Nat)
    : (m.applyShutters p envelope owners server).1 (.multimesh rid)
        = server (.multimesh rid) := by
  unfold applyShutters
  split
  . apply multimesh_visit
    intro server b
    have henergy : (b.setEnergy (m.bindingEnergy p envelope b) server).1 (.multimesh rid)
        = server (.multimesh rid) := MaterialBinding.multimesh_setEnergy _ _
    dsimp only
    split
    . exact (MaterialBinding.multimesh_updateSurfaceVisible _ _ _).trans henergy
    . exact henergy
  . rfl

end PresentationMaterialBindings

end Multimeshes

/-! ### Distinct multimeshes -/

namespace NativeLensBatches

variable {lenses lenses' : NativeLensBatches} {p : Platform} {envelope : Nat → ℚ}
  {server : RenderingServer}

def rids (lenses : NativeLensBatches) : List RID := lenses.batches.map LensBatch.rid

theorem separate_of_nodup (h : lenses.rids.Nodup)
    : Separate LensBatch.Owns lenses.batches := by
  intro i j a b ha hb hne key hak hbk
  have hrid : a.rid = b.rid := by
    have hkey := hak.symm.trans hbk
    simpa using hkey
  have hi : lenses.rids[i]? = some a.rid := by simp [rids, ha]
  have hj : lenses.rids[j]? = some b.rid := by simp [rids, hb]
  apply hne
  apply (List.getElem?_inj (List.getElem?_eq_some_iff.mp hi).1 h).mp
  rw [hi, hj, hrid]

theorem Kept.rids (h : lenses.Kept lenses') : lenses'.rids = lenses.rids := by
  apply List.ext_getElem?
  intro b
  simp only [NativeLensBatches.rids, List.getElem?_map]
  cases hb : lenses'.batches[b]? with
  | none =>
    rw [List.getElem?_eq_none_iff, h.length, ← List.getElem?_eq_none_iff] at hb
    rw [hb]
  | some batch' =>
    obtain ⟨batch, hbatch, hkept⟩ := h.batch b batch' hb
    rw [hbatch, Option.map_some, Option.map_some, hkept.rid]

theorem rids_flush (lenses : NativeLensBatches) (server : RenderingServer)
    : (lenses.flush server).2.rids = lenses.rids := by
  unfold NativeLensBatches.flush
  simp only [rids]
  apply List.foldl_keeps (I := fun held : RenderingServer × List LensBatch =>
    held.2.map LensBatch.rid = lenses.batches.map LensBatch.rid)
  . intro i _ held hheld
    rw [← hheld]
    apply List.ext_getElem?
    intro j
    rw [List.getElem?_map, List.getElem?_map, Footprint.getElem?_visitAt]
    split
    . cases held.2[j]? with
      | none => rfl
      | some batch =>
        simp only [Option.map_some, Option.some.injEq, LensBatch.flush]
        split
        . rfl
        . rfl
    . rfl
  . rfl

theorem rids_setVisible (b s : Int32) (visible : Bool)
    : (lenses.setVisible b s visible).rids = lenses.rids := by
  unfold NativeLensBatches.setVisible
  split
  . rfl
  . apply List.ext_getElem?
    intro j
    simp only [rids, List.getElem?_map, List.getElem?_modify]
    cases lenses.batches[j]? with
    | none => rfl
    | some batch =>
      simp only [Option.map_eq_map, Option.map_some, Option.some.injEq]
      split
      . cases setVisible_cases s.toInt.toNat visible batch with
        | inl heq => rw [heq]
        | inr hset => exact hset.2.1
      . rfl

theorem rids_invalidate (lenses : NativeLensBatches) : lenses.invalidate.rids = lenses.rids := by
  simp only [rids, invalidate, List.map_map]
  rfl

theorem rids_apply (held : Nat → RenderValues) (rows : List Nat) (suppress : Bool)
    (hrouted : lenses.Routed)
    : (lenses.apply p envelope held rows suppress server).2.rids = lenses.rids := by
  unfold NativeLensBatches.apply
  split
  . rfl
  . rw [rids_flush]
    split
    . rfl
    . exact (hrouted.write p envelope held rows).toKept.rids

theorem rids_setGain (gain : CallerFloat)
    : (lenses.setGain p envelope gain server).2.rids = lenses.rids := by
  unfold NativeLensBatches.setGain
  split
  . rfl
  . rw [rids_flush]
    exact (rewritten_rewriteAll _ _).toKept.rids

theorem rids_setEnabled (enabled : Bool) : (lenses.setEnabled enabled).rids = lenses.rids := by
  unfold NativeLensBatches.setEnabled
  dsimp only
  rw [rids_invalidate]
  split
  . rfl
  . exact (rewritten_rewriteAll _ _).toKept.rids

theorem rids_applyShutters (owners : List Nat) (hrouted : lenses.Routed)
    : (lenses.applyShutters p envelope owners server).2.rids = lenses.rids := by
  unfold NativeLensBatches.applyShutters
  split
  . rw [rids_flush]
    exact (hrouted.shutters p envelope owners).toKept.rids
  . rfl

theorem rid_lensBatch {count : Nat} {rid : Option RID} {ids : Option (List Int32)}
    {data gain : Option (List CallerFloat)} {batch : LensBatch}
    (h : lensBatch count rid ids data gain = some batch) : rid = some batch.rid := by
  simp only [lensBatch, Option.bind_eq_bind, Option.bind_eq_some_iff] at h
  obtain ⟨r, hr, _, _, _, _, _, _, h⟩ := h
  split at h
  . cases h
  . obtain ⟨slots, _, h⟩ := Option.bind_eq_some_iff.mp h
    cases h
    exact hr

theorem nodup_install {count : Nat} {rids : List (Option RID)} {owners : List (Option (List Int32))}
    {buffers scales : List (Option (List CallerFloat))} (hrids : (rids.filterMap id).Nodup)
    (h : lenses.rids.Nodup)
    : (lenses.install count rids owners buffers scales).1.rids.Nodup := by
  unfold NativeLensBatches.install
  split
  . exact h
  . split
    . exact List.nodup_nil
    . dsimp only
      split
      . exact h
      next next hnext =>
        -- the batch at a place has the resource at this place
        have hplaced : next.map (fun batch => some batch.rid) = rids := by
          apply List.ext_getElem?
          intro b
          have hlength := (OptionFold.forall₂_of_mapM hnext).length_eq
          rw [List.length_range] at hlength
          rw [List.getElem?_map]
          cases hb : next[b]? with
          | none =>
            rw [List.getElem?_eq_none_iff, ← hlength] at hb
            rw [List.getElem?_eq_none_iff.mpr hb, Option.map_none]
          | some batch =>
            have hlt : b < rids.length := by
              rw [hlength]
              exact (List.getElem?_eq_some_iff.mp hb).1
            rw [OptionFold.getElem?_mapM hnext, List.getElem?_range hlt, Option.bind_some] at hb
            have hrid := rid_lensBatch hb
            rw [List.getD_eq_getElem?_getD, List.getElem?_eq_getElem hlt, Option.getD_some] at hrid
            rw [List.getElem?_eq_getElem hlt, hrid, Option.map_some]
        have hsome : rids.filterMap id = next.map LensBatch.rid := by
          rw [← hplaced, List.filterMap_map]
          exact List.filterMap_eq_map (f := LensBatch.rid) ▸ rfl
        rw [hsome] at hrids
        exact hrids

end NativeLensBatches

/-! ### The invariant -/

/-- The lenses of one installation are distinct multimeshes. -/
def PresentationCall.Distinct : PresentationCall → Prop
  | .installLenses _ rids _ _ _ => (rids.filterMap id).Nodup
  | _ => True

/-- The calls that show a snapshot. -/
def PresentationCall.Shows : PresentationCall → Prop
  | .compose .. | .consumeRuntime .. => True
  | _ => False

namespace PeravizPresentationState

variable {p : Platform} {s s' : PeravizPresentationState} {awaiting awaiting' : Bool}

/-- Whether lenses that were installed or enabled wait for the renderer to be invalidated. -/
def awaits (s : PeravizPresentationState) (awaiting answer : Bool) : PresentationCall → Bool
  | .installLenses .. => awaiting || answer
  | .setMaterialsEnabled enabled => awaiting || (enabled && !s.lenses.enabled)
  | .invalidateRenderer => false
  | _ => awaiting

/-- An output of which nothing is pending, where nothing is awaited and lenses are written. -/
def Settled (awaiting : Bool) (s : PeravizPresentationState) (owner : Nat) : Prop :=
  awaiting = false ∧ s.lensWritesSuppressed = false ∧ owner < s.state.bindings.length
    ∧ owner ∉ s.state.dirty

structure Sound (p : Platform) (awaiting : Bool) (s : PeravizPresentationState) : Prop where
  holds : s.lenses.Holds p s.envelope (s.state.renderValues p) (s.Settled awaiting)
    s.state.bindings.length s.server
  distinct : s.lenses.rids.Nodup

theorem Sound.separate (h : s.Sound p awaiting)
    : Separate LensBatch.Owns s.lenses.batches := NativeLensBatches.separate_of_nodup h.distinct

theorem Sound.of_clear (lenses : NativeLensBatches) (h : s.lenses = lenses.clear)
    : s.Sound p awaiting := by
  constructor
  . rw [h]
    apply NativeLensBatches.holds_clear
  . rw [h]
    exact List.nodup_nil

/-- The lenses are the same, and so is what they show of the outputs that are settled. -/
theorem Sound.same (h : s.Sound p awaiting) (hlenses : s'.lenses = s.lenses)
    (hserver : ∀ rid, s'.server (.multimesh rid) = s.server (.multimesh rid))
    (henvelope : s'.envelope = s.envelope)
    (hcount : s'.state.bindings.length = s.state.bindings.length)
    (hsettled : ∀ o, s'.Settled awaiting' o → s.Settled awaiting o
      ∧ s'.state.renderValues p o = s.state.renderValues p o)
    : s'.Sound p awaiting' := by
  constructor
  . rw [hlenses, henvelope, hcount]
    apply NativeLensBatches.Holds.told _ hserver
    apply h.holds.weaken
    intro o ho
    exact ⟨(hsettled o ho).1, congrArg RenderValues.lit (hsettled o ho).2⟩
  . rw [hlenses]
    exact h.distinct

/-- What becomes pending in the meantime is no longer settled. -/
theorem Sound.advance (h : s.Sound p awaiting) (hadvances : s.state.Advances s'.state)
    (hlenses : s'.lenses = s.lenses)
    (hserver : ∀ rid, s'.server (.multimesh rid) = s.server (.multimesh rid))
    (henvelope : s'.envelope = s.envelope)
    (hsuppressed : s'.lensWritesSuppressed = s.lensWritesSuppressed) : s'.Sound p awaiting := by
  apply h.same hlenses hserver henvelope (by rw [hadvances.bindings])
  intro o ho
  obtain ⟨hawaiting, hwritten, hlt, hclean⟩ := ho
  refine ⟨⟨hawaiting, hsuppressed ▸ hwritten, ?_, ?_⟩, hadvances.renderValues p hclean⟩
  . rw [← hadvances.bindings]
    exact hlt
  . exact fun hdirty => hclean (hadvances.dirty o hdirty)

theorem Sound.keep (h : s.Sound p awaiting) (hstate : s'.state = s.state)
    (hlenses : s'.lenses = s.lenses)
    (hserver : ∀ rid, s'.server (.multimesh rid) = s.server (.multimesh rid))
    (henvelope : s'.envelope = s.envelope)
    (hsuppressed : s'.lensWritesSuppressed = s.lensWritesSuppressed) : s'.Sound p awaiting := by
  apply h.advance _ hlenses hserver henvelope hsuppressed
  rw [hstate]
  exact DensePresentationState.Advances.refl s.state

theorem not_settled_invalidated (hstate : s'.state = s.state.invalidateRenderer) {o : Nat}
    (h : s'.Settled awaiting' o) : False := by
  obtain ⟨_, _, hlt, hclean⟩ := h
  rw [hstate] at hlt hclean
  apply hclean
  apply DensePresentationState.mem_dirty_invalidateRenderer
  rw [s.state.sized, ← (DensePresentationState.advances_invalidateRenderer s.state).bindings]
  exact hlt

theorem Sound.invalidated (h : s.Sound p awaiting)
    (hstate : s'.state = s.state.invalidateRenderer) (hlenses : s'.lenses = s.lenses)
    (hserver : ∀ rid, s'.server (.multimesh rid) = s.server (.multimesh rid))
    (henvelope : s'.envelope = s.envelope) : s'.Sound p awaiting' := by
  apply h.same hlenses hserver henvelope
  . rw [hstate, (DensePresentationState.advances_invalidateRenderer s.state).bindings]
  . intro o ho
    exact False.elim (not_settled_invalidated hstate ho)

theorem envelope_eq (h : s.shutters.Still s'.shutters) : s'.envelope = s.envelope := by
  funext o
  simp only [envelope, h.size, h.envelopes]

/-! ### The calls -/

theorem Sound.install (fresh : UInt64) (ids : List Int32) (scales : List CallerFloat)
    (routes : List Int32) : (s.install fresh ids scales routes).1.Sound p awaiting := by
  apply Sound.of_clear s.lenses
  unfold PeravizPresentationState.install
  dsimp only
  split
  . rfl
  . split
    . rfl
    . rfl

theorem Sound.installGroups (h : s.Sound p awaiting) (representatives : List Int32)
    : (s.installGroups representatives).1.Sound p awaiting := by
  have hadvances : s.state.Advances (s.state.installGroups representatives).1 := by
    unfold DensePresentationState.installGroups
    split
    . apply DensePresentationState.Advances.trans _
        (DensePresentationState.advances_invalidateRenderer _)
      exact ⟨rfl, rfl, fun _ h => h, fun _ _ => rfl⟩
    . exact DensePresentationState.Advances.refl s.state
  exact h.advance hadvances rfl (fun _ => rfl) rfl rfl

theorem Sound.installRenderRows (h : s.Sound p awaiting) (membership : List Int32)
    (classes : List Setup.RenderPresentationClass)
    : (s.installRenderRows membership classes).1.Sound p awaiting := by
  unfold PeravizPresentationState.installRenderRows
  dsimp only
  split
  . have hadvances := DensePresentationState.advances_invalidateRenderer s.state
    exact h.advance hadvances rfl (fun _ => rfl) rfl rfl
  . exact h

theorem Sound.installLenses (h : s.Sound p awaiting) {generation : UInt64}
    {rids : List (Option RID)} (hrids : (rids.filterMap id).Nodup)
    (owners : List (Option (List Int32))) (buffers scales : List (Option (List CallerFloat)))
    : (s.installLenses generation rids owners buffers scales).1.Sound p
        (awaiting || (s.installLenses generation rids owners buffers scales).2) := by
  unfold PeravizPresentationState.installLenses
  split
  . rw [Bool.or_false]
    exact h
  . constructor
    . apply h.holds.install
      intro o _ ho
      obtain ⟨hawaiting, hothers⟩ := ho
      rw [Bool.or_eq_false_iff] at hawaiting
      exact ⟨⟨hawaiting.1, hothers⟩, hawaiting.2⟩
    . exact NativeLensBatches.nodup_install hrids h.distinct

theorem Sound.installFootprints (h : s.Sound p awaiting) (generation : UInt64)
    (rids instances : List (Option RID)) (owners : List Int32) (scales : List CallerFloat)
    (routes : List Int32)
    : (s.installFootprints generation rids instances owners scales routes).1.Sound p awaiting := by
  unfold PeravizPresentationState.installFootprints
  split
  . exact h
  . dsimp only
    split
    . refine h.keep rfl rfl ?_ rfl rfl
      intro rid
      exact PresentationMaterialBindings.multimesh_installSurfaceInstances instances
    . exact h.keep rfl rfl (fun _ => rfl) rfl rfl

theorem Sound.setMaterialsEnabled (h : s.Sound p awaiting) (enabled : Bool)
    : (s.setMaterialsEnabled enabled).Sound p
        (awaiting || (enabled && !s.lenses.enabled)) := by
  constructor
  . apply NativeLensBatches.Holds.told (h.holds.setEnabled _)
    . intro rid
      exact PresentationMaterialBindings.multimesh_setEnabled enabled
    . intro o ho
      obtain ⟨hawaiting, hothers⟩ := ho
      rw [Bool.or_eq_false_iff] at hawaiting
      refine ⟨⟨hawaiting.1, hothers⟩, ?_⟩
      intro henabled
      simpa [henabled] using hawaiting.2
  . exact (NativeLensBatches.rids_setEnabled enabled).symm ▸ h.distinct

theorem Sound.flushLenses (h : s.Sound p awaiting) : s.flushLenses.Sound p awaiting where
  holds := h.holds.flush h.separate
  distinct := (NativeLensBatches.rids_flush s.lenses s.server).symm ▸ h.distinct

theorem Sound.setLensVisible (h : s.Sound p awaiting) (b slot : Int32) (visible : Bool)
    : (s.setLensVisible b slot visible).Sound p awaiting where
  holds := h.holds.setVisible
  distinct := (NativeLensBatches.rids_setVisible b slot visible).symm ▸ h.distinct

theorem Sound.setLensEmissionGain (h : s.Sound p awaiting) (gain : CallerFloat)
    : (s.setLensEmissionGain p gain).Sound p awaiting where
  holds := by
    apply (h.holds.setGain h.separate).told
    intro rid
    exact PresentationMaterialBindings.multimesh_setLensGain gain
  distinct := (NativeLensBatches.rids_setGain gain).symm ▸ h.distinct

/-- What the rows that are drawn leave alone. -/
structure Aside (s s' : PeravizPresentationState) : Prop where
  state : s'.state = s.state
  lenses : s'.lenses = s.lenses
  server : s'.server = s.server
  materials : s'.materials = s.materials
  footprints : s'.footprints = s.footprints
  suppressed : s'.lensWritesSuppressed = s.lensWritesSuppressed
  shutters : s.shutters.Still s'.shutters

theorem Aside.refl (s : PeravizPresentationState) : s.Aside s :=
  ⟨rfl, rfl, rfl, rfl, rfl, rfl, ShutterPlayback.Still.refl _⟩

theorem aside_applyBeam (s : PeravizPresentationState) (row : PreparedRenderRow)
    : s.Aside (s.applyBeam row) := by
  unfold applyBeam
  split
  . refine ⟨rfl, rfl, rfl, rfl, rfl, rfl, ?_⟩
    dsimp only
    split
    . exact ShutterPlayback.Still.foldl (ShutterPlayback.still_nominate true) _ _
    . exact ShutterPlayback.Still.refl _
  . exact Aside.refl s

theorem aside_applyBeams (s : PeravizPresentationState) (rows : List PreparedRenderRow)
    : s.Aside (rows.foldl applyBeam s) := by
  apply List.foldl_keeps (I := s.Aside)
  . intro row _ s' h
    have hbeam := aside_applyBeam s' row
    exact ⟨hbeam.state.trans h.state, hbeam.lenses.trans h.lenses, hbeam.server.trans h.server,
      hbeam.materials.trans h.materials, hbeam.footprints.trans h.footprints,
      hbeam.suppressed.trans h.suppressed, h.shutters.trans hbeam.shutters⟩
  . exact Aside.refl s

theorem Sound.aside (h : s.Sound p awaiting) (haside : s.Aside s') : s'.Sound p awaiting :=
  h.keep haside.state haside.lenses (fun _ => congrFun haside.server _)
    (envelope_eq haside.shutters) haside.suppressed

theorem Sound.replayPresentationGains (h : s.Sound p awaiting) (shafts surfaces : Bool)
    (gain : CallerFloat)
    : (s.replayPresentationGains p shafts surfaces gain).Sound p awaiting := by
  have hsurfaces : ∀ s : PeravizPresentationState, s.Sound p awaiting
      → ({ s with
          footprints := (s.footprints.setSurfaceGain p s.envelope gain s.server).2
          server := (s.footprints.setSurfaceGain p s.envelope gain s.server).1
        } : PeravizPresentationState).Sound p awaiting := by
    intro s h
    refine h.keep rfl rfl ?_ rfl rfl
    intro rid
    exact PresentationMaterialBindings.multimesh_setSurfaceGain gain
  unfold PeravizPresentationState.replayPresentationGains
  dsimp only
  split
  . split
    . exact (hsurfaces s h).aside (aside_applyBeams _ _)
    . exact h.aside (aside_applyBeams _ _)
  . split
    . exact hsurfaces s h
    . exact h

theorem Sound.invalidateRenderer (h : s.Sound p awaiting)
    : (s.invalidateRenderer p).Sound p awaiting' := by
  have hlenses : ({ s with lenses := s.lenses.invalidate } : PeravizPresentationState).Sound p
      awaiting :=
    ⟨h.holds.invalidate, (NativeLensBatches.rids_invalidate s.lenses).symm ▸ h.distinct⟩
  have hstill := ShutterPlayback.still_invalidate p s.shutters
  exact hlenses.invalidated rfl rfl (fun _ => rfl) (envelope_eq hstill)

theorem Sound.beginSnapshot (h : s.Sound p awaiting) (trace : Bool)
    : (s.beginSnapshot trace).Sound p awaiting := by
  have htraced : ({ s with state := { s.state with traceEnabled := trace } }
      : PeravizPresentationState).Sound p awaiting := by
    have hadvances : s.state.Advances { s.state with traceEnabled := trace } :=
      ⟨rfl, rfl, fun _ h => h, fun _ _ => rfl⟩
    exact h.advance hadvances rfl (fun _ => rfl) rfl rfl
  unfold PeravizPresentationState.beginSnapshot
  dsimp only
  split
  next hsame =>
    rw [← hsame]
    exact htraced
  next =>
    -- what is held is replayed where the diagnostic begins or ends
    exact htraced.invalidated rfl rfl (fun _ => rfl) rfl

/-- The session after a snapshot, from the one in which its rows were drawn. -/
structure Published (p : Platform) (generation : UInt64) (drawn : PeravizPresentationState)
    (server : RenderingServer) (s' : PeravizPresentationState) : Prop where
  multimesh : ∀ rid, server (.multimesh rid) = drawn.server (.multimesh rid)
  lenses : (s'.server, s'.lenses) = drawn.lenses.apply p drawn.envelope
    (drawn.state.renderValues p) drawn.state.dirty drawn.lensWritesSuppressed server
  state : s'.state = drawn.state.finishSnapshot generation
  shutters : s'.shutters = drawn.shutters
  suppressed : s'.lensWritesSuppressed = drawn.lensWritesSuppressed

theorem exists_published (p : Platform) (s : PeravizPresentationState) (generation : UInt64)
    : ∃ drawn server, s.Aside drawn ∧ Published p generation drawn server
        (s.publish p generation) := by
  generalize hdrawn : s.projection.prepared.foldl applyBeam s = drawn
  refine ⟨drawn, (drawn.footprints.apply p drawn.envelope (drawn.state.renderValues p)
    (drawn.state.dirty.map (fun index => (index, drawn.state.pendingMask index))) false
    (drawn.materials.apply p drawn.envelope (drawn.state.renderValues p)
      (drawn.state.dirty.map (fun index => (index, drawn.state.pendingMask index)))
      drawn.lensWritesSuppressed drawn.server).1).1, ?_, ?_⟩
  . rw [← hdrawn]
    exact aside_applyBeams s s.projection.prepared
  . unfold PeravizPresentationState.publish
    rw [hdrawn]
    refine ⟨?_, rfl, rfl, rfl, rfl⟩
    intro rid
    refine (PresentationMaterialBindings.multimesh_apply _ _ _).trans ?_
    exact PresentationMaterialBindings.multimesh_apply _ _ _

theorem finishSnapshot_cases (state : DensePresentationState) (generation : UInt64)
    : (state.finishSnapshot generation).bindings = state.bindings
        ∧ (generation = state.generation → (state.finishSnapshot generation).dirty = []) := by
  unfold DensePresentationState.finishSnapshot
  split
  next hother => exact ⟨rfl, fun heq => absurd heq hother⟩
  . exact ⟨rfl, fun _ => rfl⟩

/-- A snapshot that is published leaves nothing pending. -/
theorem Sound.publish (h : s.Sound p awaiting) (generation : UInt64)
    : (s.publish p generation).Sound p awaiting
        ∧ (∀ batch ∈ (s.publish p generation).lenses.batches, batch.dirty = false)
        ∧ (generation = s.state.generation → (s.publish p generation).state.dirty = []) := by
  obtain ⟨drawn, server, haside, hpublished⟩ := exists_published p s generation
  generalize s.publish p generation = s' at hpublished ⊢
  have hsound := h.aside haside
  have hholds := hsound.holds.told hpublished.multimesh
  obtain ⟨hbindings, hdirty⟩ := finishSnapshot_cases drawn.state generation
  have hserver : s'.server = (drawn.lenses.apply p drawn.envelope (drawn.state.renderValues p)
      drawn.state.dirty drawn.lensWritesSuppressed server).1 :=
    congrArg Prod.fst hpublished.lenses
  have hlenses : s'.lenses = (drawn.lenses.apply p drawn.envelope (drawn.state.renderValues p)
      drawn.state.dirty drawn.lensWritesSuppressed server).2 :=
    congrArg Prod.snd hpublished.lenses
  have hvalues : s'.state.renderValues p = drawn.state.renderValues p := by
    funext o
    rw [hpublished.state]
    apply DensePresentationState.renderValues_congr hbindings
    apply DensePresentationState.settled_finishSnapshot
  have henvelope : s'.envelope = drawn.envelope := by
    apply envelope_eq
    rw [hpublished.shutters]
    exact ShutterPlayback.Still.refl _
  refine ⟨⟨?_, ?_⟩, ?_, ?_⟩
  . rw [hserver, hlenses, hvalues, henvelope, hpublished.state, hbindings]
    apply hholds.apply hsound.separate
    intro o ho
    obtain ⟨hawaiting, hwritten, hlt, _⟩ := ho
    rw [hpublished.suppressed] at hwritten
    rw [hpublished.state, hbindings] at hlt
    by_cases hpending : o ∈ drawn.state.dirty
    . exact Or.inl ⟨hwritten, hpending⟩
    . exact Or.inr ⟨⟨hawaiting, hwritten, hlt, hpending⟩, rfl⟩
  . rw [hlenses, NativeLensBatches.rids_apply _ _ _ hholds.routed]
    exact hsound.distinct
  . rw [hlenses]
    exact NativeLensBatches.clean_apply hholds hsound.separate _
  . rw [hpublished.state, ← haside.state]
    exact hdirty

/-- What a call that shows a snapshot leaves where it is accepted. -/
structure Snapshot (p : Platform) (awaiting : Bool) (result : PeravizPresentationState × Bool)
    : Prop where
  sound : result.1.Sound p awaiting
  clean : result.2 = true → ∀ batch ∈ result.1.lenses.batches, batch.dirty = false
  dirty : result.2 = true → result.1.state.dirty = []

theorem Sound.refused (h : s.Sound p awaiting) : Snapshot p awaiting (s, false) where
  sound := h
  clean haccepted := Bool.noConfusion haccepted
  dirty haccepted := Bool.noConfusion haccepted

theorem Sound.accepted (h : s.Sound p awaiting) {generation : UInt64}
    (hgeneration : generation = s.state.generation)
    : Snapshot p awaiting (s.publish p generation, true) := by
  obtain ⟨hsound, hclean, hdirty⟩ := h.publish generation
  exact ⟨hsound, fun _ => hclean, fun _ => hdirty hgeneration⟩

theorem Sound.compose (h : s.Sound p awaiting) (generation : UInt64)
    (descriptors integers : List Int32) (floats : List CallerFloat) (trace : Bool) (received : ℚ)
    : Snapshot p awaiting (s.compose p generation descriptors integers floats trace received) := by
  have hbegun := h.beginSnapshot trace
  unfold PeravizPresentationState.compose
  dsimp only
  generalize s.beginSnapshot trace = begun at hbegun
  have hadvances := DensePresentationState.advances_composeBuffers begun.state generation
    (.filled descriptors) (.filled integers) (.filled floats)
  split
  . exact hbegun.refused
  next hcomposed =>
    have hgeneration : generation = begun.state.generation := by
      by_contra hother
      apply hcomposed
      right
      simp [DensePresentationState.composeBuffers, hother]
    have hstill := ShutterPlayback.still_ingest begun.shutters descriptors integers floats received
    have hcurrent : ({ begun with
        state := (begun.state.composeBuffers generation (.filled descriptors) (.filled integers)
          (.filled floats)).1
        projection := begun.projection.prepare p (begun.state.composeBuffers generation
          (.filled descriptors) (.filled integers) (.filled floats)).1
        shutters := (begun.shutters.ingest descriptors integers floats received).1
      } : PeravizPresentationState).Sound p awaiting :=
      hbegun.advance hadvances rfl (fun _ => rfl) (envelope_eq hstill) rfl
    split
    . exact hcurrent.accepted (hgeneration.trans hadvances.generation.symm)
    . exact hcurrent.refused

theorem Sound.consumeRuntime (h : s.Sound p awaiting) (core : Runtime.Core) (now : ℚ)
    (generation : UInt64) (schemaGeneration : Int32) (trace : Bool) (received : ℚ)
    : Snapshot p awaiting
        (s.consumeRuntime p core now generation schemaGeneration trace received) := by
  have hbegun := h.beginSnapshot trace
  unfold PeravizPresentationState.consumeRuntime
  dsimp only
  generalize s.beginSnapshot trace = begun at hbegun
  split
  . exact h.refused
  . split
    . exact hbegun.refused
    next result hresult =>
      obtain ⟨_, hstate, _⟩ := consumeDirect_eq_some hresult
      have hadvances := DensePresentationState.advances_composeSections begun.state generation
        result.frame
      rw [← hstate] at hadvances
      have hgeneration : generation = begun.state.generation := by
        by_contra hother
        simp [consumeDirect, hother] at hresult
      have hstill := ShutterPlayback.still_ingest begun.shutters result.frame.descriptors
        result.frame.integers (result.frame.floats.map some) received
      have hcurrent : ({ begun with
          state := result.state
          projection := result.projection
          shutters := (begun.shutters.ingest result.frame.descriptors result.frame.integers
            (result.frame.floats.map some) received).1
        } : PeravizPresentationState).Sound p awaiting :=
        hbegun.advance hadvances rfl (fun _ => rfl) (envelope_eq hstill) rfl
      exact hcurrent.accepted (hgeneration.trans hadvances.generation.symm)

theorem envelope_resampled {owner : Nat} (h : s.shutters.Resampled s'.shutters)
    (howner : owner ∉ s'.shutters.changed) : s'.envelope owner = s.envelope owner := by
  simp only [envelope, h.size, h.others owner howner]

/-- Where lenses are written, those of the outputs whose shutter has changed are dimmed anew. -/
theorem Sound.dim (h : s.Sound p awaiting) (server : RenderingServer) (hstate : s'.state = s.state)
    (hresampled : s.shutters.Resampled s'.shutters)
    (hsuppressed : s'.lensWritesSuppressed = s.lensWritesSuppressed)
    (hserver : ∀ rid, server (.multimesh rid) = s.server (.multimesh rid))
    (hlenses : s'.lenses = if s.lensWritesSuppressed then s.lenses else
      (s.lenses.applyShutters p s'.envelope s'.shutters.changed server).2)
    (hserver' : ∀ rid, s'.server (.multimesh rid) = (if s.lensWritesSuppressed then server else
      (s.lenses.applyShutters p s'.envelope s'.shutters.changed server).1) (.multimesh rid))
    : s'.Sound p awaiting := by
  cases hwritten : s.lensWritesSuppressed with
  | true =>
    simp only [hwritten, if_true] at hlenses hserver'
    constructor
    . rw [hlenses, hstate]
      apply NativeLensBatches.Holds.told _ (fun rid => (hserver' rid).trans (hserver rid))
      refine ⟨h.holds.routed, h.holds.submitted, h.holds.placed, h.holds.owned, ?_⟩
      intro route slot _ howner
      exact Bool.noConfusion ((hsuppressed.trans hwritten).symm.trans howner.2.1)
    . rw [hlenses]
      exact h.distinct
  | false =>
    simp only [hwritten, Bool.false_eq_true, if_false] at hlenses hserver'
    have htold := h.holds.told hserver
    constructor
    . rw [hlenses, hstate]
      apply NativeLensBatches.Holds.told _ hserver'
      apply htold.applyShutters h.separate
      intro o ho
      obtain ⟨hawaiting, _, hlt, hclean⟩ := ho
      rw [hstate] at hlt hclean
      exact ⟨⟨hawaiting, hwritten, hlt, hclean⟩, envelope_resampled hresampled⟩
    . rw [hlenses, NativeLensBatches.rids_applyShutters _ h.holds.routed]
      exact h.distinct

theorem Sound.advanceShutters (h : s.Sound p awaiting) (generation : UInt64)
    (testNow clockNow : ℚ)
    : (s.advanceShutters p generation testNow clockNow).Sound p awaiting := by
  unfold PeravizPresentationState.advanceShutters
  split
  . exact h
  . have hresampled := ShutterPlayback.resampled_tick p s.shutters testNow clockNow
    generalize s.shutters.tick p testNow clockNow = sampled at hresampled
    dsimp only
    split
    next hnone =>
      rw [List.isEmpty_iff] at hnone
      refine h.keep rfl rfl (fun _ => rfl) ?_ rfl
      funext owner
      exact envelope_resampled hresampled (hnone ▸ List.not_mem_nil)
    next =>
      by_cases hsuppressed : s.lensWritesSuppressed = true
      . simp only [if_pos hsuppressed]
        refine h.dim s.server rfl hresampled rfl (fun _ => rfl) (if_pos hsuppressed).symm ?_
        intro rid
        rw [if_pos hsuppressed]
        exact PresentationMaterialBindings.multimesh_applyShutters _
      . simp only [if_neg hsuppressed]
        refine h.dim _ rfl hresampled rfl ?_ (if_neg hsuppressed).symm ?_
        . intro rid
          exact PresentationMaterialBindings.multimesh_applyShutters _
        . intro rid
          rw [if_neg hsuppressed]
          exact PresentationMaterialBindings.multimesh_applyShutters _

/-! ### The runs -/

theorem Sound.call (h : s.Sound p awaiting) {call : PresentationCall} (hcall : call.Distinct)
    : (s.call p call).1.Sound p (s.awaits awaiting (s.call p call).2 call) := by
  cases call with
  | install fresh ids scales routes => exact Sound.install fresh ids scales routes
  | clear fresh => exact Sound.of_clear s.lenses rfl
  | installGroups representatives => exact h.installGroups representatives
  | installRenderRows membership classes => exact h.installRenderRows membership classes
  | installMaterials => exact h.keep rfl rfl (fun _ => rfl) rfl rfl
  | installLenses generation rids owners buffers scales =>
    exact h.installLenses hcall owners buffers scales
  | installFootprints generation rids instances owners scales routes =>
    exact h.installFootprints generation rids instances owners scales routes
  | clearLenses => exact Sound.of_clear s.lenses rfl
  | clearFootprints => exact h.keep rfl rfl (fun _ => rfl) rfl rfl
  | setMaterialsEnabled enabled => exact h.setMaterialsEnabled enabled
  | setFootprintsEnabled enabled =>
    refine h.keep rfl rfl ?_ rfl rfl
    exact fun _ => PresentationMaterialBindings.multimesh_setEnabled enabled
  | setFootprintVisible index visible =>
    refine h.keep rfl rfl ?_ rfl rfl
    exact fun _ => PresentationMaterialBindings.multimesh_setSurfaceVisible index visible
  | setLensVisible b slot visible => exact h.setLensVisible b slot visible
  | flushLenses => exact h.flushLenses
  | setLensEmissionGain gain => exact h.setLensEmissionGain gain
  | replayPresentationGains shafts surfaces gain =>
    exact h.replayPresentationGains shafts surfaces gain
  | invalidateRenderer => exact h.invalidateRenderer
  | invalidateShutters =>
    have hstill := ShutterPlayback.still_invalidate p s.shutters
    exact h.keep rfl rfl (fun _ => rfl) (envelope_eq hstill) rfl
  | compose generation descriptors integers floats trace received =>
    exact (h.compose generation descriptors integers floats trace received).sound
  | consumeRuntime core now generation schemaGeneration trace received =>
    exact (h.consumeRuntime core now generation schemaGeneration trace received).sound
  | advanceShutters generation testNow clockNow =>
    exact h.advanceShutters generation testNow clockNow

/-- The floats of an instance that is packed from scratch. -/
def repackedSlot (p : Platform) (s : PeravizPresentationState) (slot : LensSlot) : List ℚ :=
  let v := s.state.renderValues p slot.owner
  let placed := if slot.visible then slot.transform else List.replicate 12 0
  let emitted := p.toFloat (p.toFloat (v.materialEnergy * slot.scale) * s.lenses.gain)
  let energy := if s.lenses.enabled then p.toFloat (emitted * s.envelope slot.owner) else 0
  placed ++ [v.red, v.green, v.blue, energy]

def repacked (p : Platform) (s : PeravizPresentationState) (batch : LensBatch) : List ℚ :=
  batch.slots.flatMap (s.repackedSlot p)

theorem Sound.buffer (h : s.Sound p false) (hwritten : s.lensWritesSuppressed = false)
    {batch : LensBatch} (hbatch : batch ∈ s.lenses.batches) (hclean : batch.dirty = false)
    (hsettled : ∀ slot ∈ batch.slots, slot.owner ∉ s.state.dirty)
    : (s.server (.multimesh batch.rid)).buffer = some (s.repacked p batch) := by
  rw [h.holds.submitted batch hbatch hclean, LensBatch.buffer, repacked]
  congr 1
  apply List.flatMap_congr
  intro slot hslot
  obtain ⟨b, hb⟩ := List.getElem?_of_mem hbatch
  obtain ⟨i, hi⟩ := List.getElem?_of_mem hslot
  have hroute : s.lenses.slotAt ⟨b, i⟩ = some slot := by
    simp [NativeLensBatches.slotAt, hb, hi]
  have howned := h.holds.owned _ slot hroute
  have hcurrent := h.holds.current _ slot hroute ⟨rfl, hwritten, howned, hsettled slot hslot⟩
  obtain ⟨hcolor, hbase, henergy⟩ := NativeLensBatches.writeSlot_eq_iff.mp hcurrent
  rw [LensSlot.cells, h.holds.placed _ slot hroute, hcolor, henergy,
    NativeLensBatches.slotEnergy, hbase]
  rfl

/-- The session, with whether its lenses wait for the renderer to be invalidated. -/
def watchedSession (p : Platform)
    : Machine (PeravizPresentationState × Bool) PresentationCall Bool where
  init := ({}, false)
  step watched call :=
    let result := watched.1.call p call
    ((result.1, watched.1.awaits watched.2 result.2 call), result.2)

/-- The session after some calls. -/
def sessionAfter (p : Platform) (calls : List PresentationCall)
    : PeravizPresentationState × Bool :=
  (watchedSession p).run (watchedSession p).init calls

theorem sound_run (p : Platform) {calls : List PresentationCall}
    (hdistinct : ∀ call ∈ calls, call.Distinct)
    : (sessionAfter p calls).1.Sound p (sessionAfter p calls).2 := by
  unfold sessionAfter
  induction calls using List.reverseRecOn with
  | nil => exact Sound.of_clear {} rfl
  | append_singleton calls call ih =>
    rw [Machine.run_concat]
    apply Sound.call
    . apply ih
      intro call hcall
      exact hdistinct call (List.mem_append_left _ hcall)
    . exact hdistinct call (List.mem_append_right _ (List.mem_singleton_self call))

/--
In every run, a batch that is not dirty and of whose outputs nothing is pending is on the server as
it would be packed from scratch, unless lenses wait for the renderer or are not written at all.
-/
theorem run_lenses_shown (p : Platform) (calls : List PresentationCall)
    (hdistinct : ∀ call ∈ calls, call.Distinct) (hawaiting : (sessionAfter p calls).2 = false)
    (hwritten : (sessionAfter p calls).1.lensWritesSuppressed = false) (batch : LensBatch)
    (hbatch : batch ∈ (sessionAfter p calls).1.lenses.batches) (hclean : batch.dirty = false)
    (hsettled : ∀ slot ∈ batch.slots, slot.owner ∉ (sessionAfter p calls).1.state.dirty)
    : ((sessionAfter p calls).1.server (.multimesh batch.rid)).buffer
        = some ((sessionAfter p calls).1.repacked p batch) := by
  have hsound := sound_run p hdistinct
  rw [hawaiting] at hsound
  exact hsound.buffer hwritten hbatch hclean hsettled

/-- An output and a batch of eight lenses of it. -/
def oneBatch : List PresentationCall := [
  .install 1 [7] [some 1] [2, 100, 0],
  .installRenderRows [0] [.individual],
  .installLenses 1 [some 5] [some (List.replicate 8 0)] [some (List.replicate 128 (some 0))]
    [some (List.replicate 8 (some 2))],
  .invalidateRenderer]

/-- A row of the dimmer that lights up the output. -/
def dimmerRow : PresentationCall :=
  .compose 1 [2, 1, 0, 0, 0] [0, 100, 2] [some 1, some 1, some 1, some 1, some 3] false 0

theorem distinct_oneBatch : ∀ call ∈ oneBatch, call.Distinct := by
  simp [oneBatch, PresentationCall.Distinct]

theorem distinct_litUp : ∀ call ∈ oneBatch ++ [dimmerRow], call.Distinct := by
  intro call hcall
  rw [List.mem_append, List.mem_singleton] at hcall
  cases hcall with
  | inl hmem => exact distinct_oneBatch call hmem
  | inr heq =>
    rw [heq]
    trivial

/-- The batch of the example after the row, with the energy that it emits. -/
def litBatch : LensBatch where
  rid := 5
  slots := List.replicate 8 {
    scale := 2
    baseEnergy := 6
    transform := List.replicate 12 0
    placed := List.replicate 12 0
    color := ⟨1, 1, 1⟩
    energy := 6
  }
  dirty := false

theorem run_lenses_shown_oneBatch
    : ((sessionAfter exactPlatform (oneBatch ++ [dimmerRow])).1.server
          (.multimesh litBatch.rid)).buffer
        = some ((sessionAfter exactPlatform (oneBatch ++ [dimmerRow])).1.repacked exactPlatform
          litBatch) := by
  have hbatches : (sessionAfter exactPlatform (oneBatch ++ [dimmerRow])).1.lenses.batches
      = [litBatch] := by decide +kernel
  have hdirty : (sessionAfter exactPlatform (oneBatch ++ [dimmerRow])).1.state.dirty = [] := by
    decide +kernel
  have hbatch : litBatch ∈ (sessionAfter exactPlatform (oneBatch ++ [dimmerRow])).1.lenses.batches
      := by rw [hbatches]; exact List.mem_singleton_self litBatch
  refine run_lenses_shown exactPlatform _ distinct_litUp ?_ ?_ litBatch hbatch rfl ?_
  . decide +kernel
  . decide +kernel
  . intro slot _
    rw [hdirty]
    exact List.not_mem_nil

end PeravizPresentationState

end Peraviz.Presentation
