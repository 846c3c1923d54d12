import Peraviz.Presentation.ShutterPlayback.Lemmas

/-!
This module contains the bookkeeping of nominations, of new authorities and of new routes: a row
that is ingested leaves playback consistent, whether it is refused or not.
-/

namespace Peraviz.Presentation.ShutterPlayback

open Peraviz.Runtime

/-! ### Nominations -/

/-- What a nomination can do: it marks outputs and queues them. -/
structure Nominates (s s' : ShutterPlayback) : Prop where
  frame : ∃ nominated force dirty,
    s' = { s with nominated := nominated, force := force, dirty := dirty }
  nominations : Registry.Marked s.dirty s.nominated → Registry.Marked s'.dirty s'.nominated
  forced : (∀ owner, s.force owner = true → s.nominated owner = true)
    → ∀ owner, s'.force owner = true → s'.nominated owner = true
  kept : ∀ owner, s.nominated owner = true → s'.nominated owner = true

section

variable {s s' s'' : ShutterPlayback} {slot owner : Nat} {force : Bool}

theorem Nominates.refl : Nominates s s where
  frame := ⟨_, _, _, rfl⟩
  nominations h := h
  forced h := h
  kept _ h := h

theorem Nominates.trans (h : Nominates s s') (h' : Nominates s' s'') : Nominates s s'' where
  frame := by
    cases h.frame with
    | intro nominated h =>
      cases h with
      | intro force h =>
        cases h with
        | intro dirty h =>
          have hframe := h'.frame
          rw [h] at hframe
          exact hframe
  nominations hmarked := h'.nominations (h.nominations hmarked)
  forced hforced := h'.forced (h.forced hforced)
  kept owner howner := h'.kept owner (h.kept owner howner)

theorem nominates_nominate : Nominates s (s.nominate force owner) := by
  rw [nominate]
  split
  . exact Nominates.refl
  . dsimp only
    split
    next hmarked =>
      constructor
      . exact ⟨_, _, _, rfl⟩
      . intro h
        exact h
      . intro h other hother
        by_cases heq : other = owner
        . rw [heq]
          exact hmarked
        . dsimp only at hother
          rw [Function.update_of_ne heq] at hother
          exact h other hother
      . intro other hother
        exact hother
    next hunmarked =>
      constructor
      . exact ⟨_, _, _, rfl⟩
      . intro h
        exact h.push (by simpa using hunmarked)
      . intro h other hother
        dsimp only at hother ⊢
        by_cases heq : other = owner
        . rw [heq, Function.update_self]
        . rw [Function.update_of_ne heq] at hother ⊢
          exact h other hother
      . intro other hother
        dsimp only
        by_cases heq : other = owner
        . rw [heq, Function.update_self]
        . rw [Function.update_of_ne heq]
          exact hother

theorem nominated_nominate (howner : owner < s.size) (hroutes : s.byOwner owner ≠ [])
    : (s.nominate force owner).nominated owner = true := by
  rw [nominate, if_neg]
  . dsimp only
    split
    next hmarked => exact hmarked
    next => exact Function.update_self _ _ _
  . intro h
    cases h with
    | inl hle => omega
    | inr hnil => exact hroutes hnil

theorem nominates_foldl (owners : List Nat) (s : ShutterPlayback)
    : Nominates s (owners.foldl (nominate force) s) := by
  induction owners generalizing s with
  | nil => exact Nominates.refl
  | cons owner owners ih =>
    rw [List.foldl_cons]
    exact nominates_nominate.trans (ih _)

theorem nominated_foldl {owners : List Nat} (hmem : owner ∈ owners) (howner : owner < s.size)
    (hroutes : s.byOwner owner ≠ [])
    : (owners.foldl (nominate force) s).nominated owner = true := by
  induction owners generalizing s with
  | nil => contradiction
  | cons other owners ih =>
    rw [List.foldl_cons]
    cases List.mem_cons.mp hmem with
    | inl heq =>
      rw [← heq]
      apply (nominates_foldl owners _).kept
      exact nominated_nominate howner hroutes
    | inr hmem =>
      have hframe := @nominates_nominate s other force
      cases hframe.frame with
      | intro nominated h =>
        cases h with
        | intro force h =>
          cases h with
          | intro dirty h =>
            apply ih hmem
            . rw [h]
              exact howner
            . rw [h]
              exact hroutes

theorem Consistent.nominates (h : Consistent s) (hnominates : Nominates s s')
    : Consistent s' := by
  have hnominations := hnominates.nominations h.nominations
  have hforced := hnominates.forced h.forced
  cases hnominates.frame with
  | intro nominated hframe =>
    cases hframe with
    | intro force hframe =>
      cases hframe with
      | intro dirty hframe =>
        subst hframe
        constructor
        . exact h.toRouted.agree rfl rfl rfl rfl rfl rfl (fun _ => rfl) (fun _ => rfl)
            (fun _ _ => rfl)
        . exact h.toCounted.agree rfl (fun _ => rfl) rfl rfl rfl rfl
        . exact ⟨h.dirtied, hnominations, hforced⟩

/-! ### Admission and routes -/

theorem Consistent.admitRow (h : Consistent s) (row : PlaybackRow)
    : Consistent (s.admitRow row).1 ∧ (s.admitRow row).2 < (s.admitRow row).1.authorityCount := by
  rw [ShutterPlayback.admitRow]
  split
  next slot hslot => exact ⟨h, ((h.slots _ _).mp hslot).1⟩
  next hnone =>
    have hfield : ∀ {β : Type} (g : PlaybackAuthority → β),
        g { id := row.authority, index := row.index } = g {} → ∀ a,
          g (Function.update s.authorities s.authorityCount
            { id := row.authority, index := row.index } a) = g (s.authorities a) := by
      intro β g hg a
      by_cases ha : a = s.authorityCount
      . rw [ha, Function.update_self, h.fresh _ (le_refl _), hg]
      . rw [Function.update_of_ne ha]
    refine ⟨?_, Nat.lt_succ_self _⟩
    constructor
    . constructor
      . intro id slot
        dsimp only
        have hslots := h.slots id slot
        by_cases hslot : slot = s.authorityCount
        . rw [hslot, Function.update_self]
          by_cases hid : id = row.authority
          . rw [hid, Function.update_self]
            simp
          . rw [Function.update_of_ne hid]
            constructor
            . intro hsome
              have hlt := ((h.slots _ _).mp hsome).1
              omega
            . intro hsame
              exact absurd hsame.2.symm hid
        . rw [Function.update_of_ne hslot]
          by_cases hid : id = row.authority
          . rw [hid, Function.update_self]
            constructor
            . intro hsome
              exact absurd (Option.some.inj hsome).symm hslot
            . intro hsame
              have hknown := (h.slots row.authority slot).mpr ⟨by omega, hsame.2⟩
              rw [hnone] at hknown
              contradiction
          . rw [Function.update_of_ne hid, hslots]
            constructor
            . intro hsame
              exact ⟨by omega, hsame.2⟩
            . intro hsame
              exact ⟨by omega, hsame.2⟩
      . intro slot hslot
        dsimp only at hslot ⊢
        rw [Function.update_of_ne (by omega)]
        exact h.fresh slot (by omega)
      . exact h.targets
      . intro owner slot
        rw [hfield PlaybackAuthority.owners rfl]
        exact h.routes owner slot
      . exact h.routesNodup
      . intro slot
        rw [hfield PlaybackAuthority.owners rfl]
        exact h.membersNodup slot
      . intro slot
        rw [hfield PlaybackAuthority.owners rfl]
        exact h.membersLt slot
      . exact h.associated
    . exact h.toCounted.agree rfl (hfield PlaybackAuthority.activeSlot rfl) rfl rfl rfl rfl
    . exact h.toQueued.agree rfl (hfield PlaybackAuthority.dirty rfl) rfl rfl rfl

def withRoute (s : ShutterPlayback) (slot owner : Nat) : ShutterPlayback :=
  { s with
    authorities := modifySlot s.authorities slot (fun authority =>
      { authority with owners := authority.owners ++ [owner] })
    byOwner := Function.update s.byOwner owner (s.byOwner owner ++ [slot])
    associations := s.associations + 1 }

theorem Consistent.routed_withRoute (h : Consistent s) (hslot : slot < s.authorityCount)
    (howner : owner < s.size) (hnew : slot ∉ s.byOwner owner)
    : Routed (s.withRoute slot owner) := by
  have hmember : owner ∉ (s.authorities slot).owners := by
    rw [← h.routes]
    exact hnew
  have hnodup : ∀ {l : List Nat} {a : Nat}, l.Nodup → a ∉ l → (l ++ [a]).Nodup := by
    intro l a hl ha
    rw [← List.concat_eq_append]
    exact List.Nodup.concat ha hl
  let f : PlaybackAuthority → PlaybackAuthority := fun authority =>
    { authority with owners := authority.owners ++ [owner] }
  constructor
  . intro id other
    have hid := @field_modifySlot s.authorities slot f _ PlaybackAuthority.id rfl other
    exact (h.slots id other).trans (by rw [← hid]; rfl)
  . intro other hother
    exact (fresh_modifySlot f hslot other hother).trans (h.fresh other hother)
  . exact h.targets
  . intro other slot'
    dsimp only [withRoute]
    by_cases hslot' : slot' = slot
    . rw [hslot', modifySlot_self]
      by_cases hother : other = owner
      . rw [hother, Function.update_self]
        simp
      . rw [Function.update_of_ne hother, h.routes]
        simp [hother]
    . rw [modifySlot_ne hslot', ← h.routes]
      by_cases hother : other = owner
      . rw [hother, Function.update_self]
        simp [hslot']
      . rw [Function.update_of_ne hother]
  . intro other
    dsimp only [withRoute]
    by_cases hother : other = owner
    . rw [hother, Function.update_self]
      exact hnodup (h.routesNodup owner) hnew
    . rw [Function.update_of_ne hother]
      exact h.routesNodup other
  . intro slot'
    dsimp only [withRoute]
    by_cases hslot' : slot' = slot
    . rw [hslot', modifySlot_self]
      exact hnodup (h.membersNodup slot) hmember
    . rw [modifySlot_ne hslot']
      exact h.membersNodup slot'
  . intro slot' other hother
    dsimp only [withRoute] at hother ⊢
    by_cases hslot' : slot' = slot
    . rw [hslot', modifySlot_self, List.mem_append, List.mem_singleton] at hother
      cases hother with
      | inl hmem => exact h.membersLt slot other hmem
      | inr heq =>
        rw [heq]
        exact howner
    . rw [modifySlot_ne hslot'] at hother
      exact h.membersLt slot' other hother
  . have hsum := @Registry.sum_update Nat _ (List.range s.size) List.nodup_range owner
      (List.mem_range.mpr howner) (fun other => (s.byOwner other).length)
      (fun other => (Function.update s.byOwner owner (s.byOwner owner ++ [slot]) other).length) (by
        intro other hother
        rw [Function.update_of_ne hother])
    dsimp only [withRoute]
    rw [h.associated]
    rw [Function.update_self, List.length_append, List.length_singleton] at hsum
    omega

theorem Consistent.counted_withRoute (h : Consistent s) (howner : owner < s.size)
    : Counted (if (s.authorities slot).activeSlot.isSome then
        (s.withRoute slot owner).activity true owner else s.withRoute slot owner) := by
  have hposition : ∀ a, ((s.withRoute slot owner).authorities a).activeSlot
      = (s.authorities a).activeSlot := fun a =>
    field_modifySlot PlaybackAuthority.activeSlot rfl a
  have hlayers : ∀ other, (s.withRoute slot owner).activeLayers other
      + (if other = owner ∧ (s.authorities slot).activeSlot.isSome then 1 else 0)
        = ((s.withRoute slot owner).byOwner other).countP (fun a =>
          ((s.withRoute slot owner).authorities a).activeSlot.isSome) := by
    intro other
    simp only [hposition]
    dsimp only [withRoute]
    rw [h.layers]
    by_cases hother : other = owner
    . rw [hother, Function.update_self, List.countP_append, List.countP_singleton]
      simp
    . rw [Function.update_of_ne hother, if_neg (fun hand => hother hand.1), Nat.add_zero]
  have hlisted : Registry.Listed s.active (fun a =>
      ((s.withRoute slot owner).authorities a).activeSlot) := by
    simp only [hposition]
    exact h.listed
  split
  next hactive =>
    have houtputs : (s.withRoute slot owner).activeOutputs = Registry.occupied
        (s.withRoute slot owner).size (s.withRoute slot owner).activeLayers := h.outputs
    rw [@activity_eq (s.withRoute slot owner) owner true howner houtputs
      (fun hadd => absurd hadd.symm Bool.false_ne_true)]
    constructor
    . exact hlisted
    . intro other
      have hother := hlayers other
      rw [hactive] at hother
      refine Eq.trans ?_ hother
      dsimp only [withLayers]
      by_cases heq : other = owner
      . rw [heq, Function.update_self, if_pos ⟨rfl, rfl⟩]
        rfl
      . rw [Function.update_of_ne heq, if_neg (fun hand => heq hand.1), Nat.add_zero]
    . rfl
  next hidle =>
    constructor
    . exact hlisted
    . intro other
      have hother := hlayers other
      rw [if_neg (fun hand => hidle hand.2), Nat.add_zero] at hother
      exact hother
    . exact h.outputs

theorem activity_frame (add : Bool) (s : ShutterPlayback) (owner : Nat)
    : ∃ layers outputs, s.activity add owner
        = { s with activeLayers := layers, activeOutputs := outputs } := by
  cases add with
  | true => exact ⟨_, _, rfl⟩
  | false => exact ⟨_, _, rfl⟩

theorem Consistent.associate (h : Consistent s) (hslot : slot < s.authorityCount)
    (howner : owner < s.size)
    : Consistent (s.associate slot owner) := by
  rw [ShutterPlayback.associate]
  split
  . exact h
  next hnew =>
    have hrouted := h.routed_withRoute hslot howner hnew
    have hcounted := @Consistent.counted_withRoute s slot owner h howner
    have hqueued : Queued (s.withRoute slot owner) := h.toQueued.agree rfl
      (field_modifySlot PlaybackAuthority.dirty rfl) rfl rfl rfl
    have hposition : ((s.withRoute slot owner).authorities slot).activeSlot
        = (s.authorities slot).activeSlot :=
      field_modifySlot PlaybackAuthority.activeSlot rfl slot
    apply Consistent.nominates _ nominates_nominate
    change Consistent (if ((s.withRoute slot owner).authorities slot).activeSlot.isSome then
      (s.withRoute slot owner).activity true owner else s.withRoute slot owner)
    rw [hposition]
    refine ⟨?_, hcounted, ?_⟩
    . split
      . cases activity_frame true (s.withRoute slot owner) owner with
        | intro layers hframe =>
          cases hframe with
          | intro outputs hframe =>
            rw [hframe]
            exact hrouted.agree rfl rfl rfl rfl rfl rfl (fun _ => rfl) (fun _ => rfl)
              (fun _ _ => rfl)
      . exact hrouted
    . split
      . cases activity_frame true (s.withRoute slot owner) owner with
        | intro layers hframe =>
          cases hframe with
          | intro outputs hframe =>
            rw [hframe]
            exact hqueued.agree rfl (fun _ => rfl) rfl rfl rfl
      . exact hqueued

end

end Peraviz.Presentation.ShutterPlayback
