import Peraviz.Presentation.ShutterPlayback.Impl

/-!
This module contains the bookkeeping of shutter playback: the active list and the positions stored
for it, the activity counts, the queues and the routes agree with each other after every call.
-/

namespace Peraviz.Presentation.ShutterPlayback

open Peraviz.Runtime

/-- The authorities by identifier, and the routes by output and by authority. -/
structure Routed (s : ShutterPlayback) : Prop where
  slots : ∀ id slot, s.authoritySlots id = some slot
    ↔ slot < s.authorityCount ∧ (s.authorities slot).id = id
  fresh : ∀ slot, s.authorityCount ≤ slot → s.authorities slot = {}
  targets : ∀ id owner, s.owners id = some owner → owner < s.size
  routes : ∀ owner slot, slot ∈ s.byOwner owner ↔ owner ∈ (s.authorities slot).owners
  routesNodup : ∀ owner, (s.byOwner owner).Nodup
  membersNodup : ∀ slot, (s.authorities slot).owners.Nodup
  membersLt : ∀ slot, ∀ owner ∈ (s.authorities slot).owners, owner < s.size
  associated : s.associations
    = ((List.range s.size).map (fun owner => (s.byOwner owner).length)).sum

/-- Every active authority is listed once, at its position, and counted for each of its outputs. -/
structure Counted (s : ShutterPlayback) : Prop where
  listed : Registry.Listed s.active (fun slot => (s.authorities slot).activeSlot)
  layers : ∀ owner, s.activeLayers owner
    = (s.byOwner owner).countP (fun slot => (s.authorities slot).activeSlot.isSome)
  outputs : s.activeOutputs = Registry.occupied s.size s.activeLayers

/-- Every authority and every output that is marked is queued once. -/
structure Queued (s : ShutterPlayback) : Prop where
  dirtied : Registry.Marked s.dirtyAuthorities (fun slot => (s.authorities slot).dirty)
  nominations : Registry.Marked s.dirty s.nominated
  forced : ∀ owner, s.force owner = true → s.nominated owner = true

structure Consistent (s : ShutterPlayback) : Prop extends Routed s, Counted s, Queued s

theorem consistent_install (ids : List Int32) : Consistent (install ids) where
  slots id slot := by simp [install]
  fresh slot _ := rfl
  targets id owner h := (List.findIdx?_eq_some_iff_findIdx_eq.mp h).1
  routes owner slot := by simp [install]
  routesNodup owner := List.nodup_nil
  membersNodup slot := List.nodup_nil
  membersLt slot owner h := by simp [install] at h
  associated := by simp [install]
  listed := Registry.listed_nil (fun _ => rfl)
  layers owner := rfl
  outputs := by simp [install, Registry.occupied]
  dirtied := Registry.marked_nil (fun _ => rfl)
  nominations := Registry.marked_nil (fun _ => rfl)
  forced owner h := by simp [install] at h

/-! ### Authorities -/

section

variable {authorities : Nat → PlaybackAuthority} {slot : Nat}
  {f : PlaybackAuthority → PlaybackAuthority}

theorem modifySlot_self : modifySlot authorities slot f slot = f (authorities slot) := by
  exact Function.update_self _ _ _

theorem modifySlot_ne {other : Nat} (h : other ≠ slot)
    : modifySlot authorities slot f other = authorities other := by
  exact Function.update_of_ne h _ _

theorem field_modifySlot {β : Type} (g : PlaybackAuthority → β)
    (h : g (f (authorities slot)) = g (authorities slot)) (other : Nat)
    : g (modifySlot authorities slot f other) = g (authorities other) := by
  by_cases hother : other = slot
  . rw [hother, modifySlot_self, h]
  . rw [modifySlot_ne hother]

theorem field_modifySlot_update {β : Type} (g : PlaybackAuthority → β)
    : (fun other => g (modifySlot authorities slot f other))
      = Function.update (fun other => g (authorities other)) slot (g (f (authorities slot))) := by
  funext other
  by_cases hother : other = slot
  . rw [hother, modifySlot_self, Function.update_self]
  . rw [modifySlot_ne hother, Function.update_of_ne hother]

end

/-! ### What a step leaves alone -/

section

variable {s s' : ShutterPlayback}

theorem Routed.agree (h : Routed s) (hslots : s'.authoritySlots = s.authoritySlots)
    (hcount : s'.authorityCount = s.authorityCount) (hsize : s'.size = s.size)
    (htargets : s'.owners = s.owners) (hroutes : s'.byOwner = s.byOwner)
    (hassociations : s'.associations = s.associations)
    (hid : ∀ a, (s'.authorities a).id = (s.authorities a).id)
    (hmembers : ∀ a, (s'.authorities a).owners = (s.authorities a).owners)
    (hfresh : ∀ a, s.authorityCount ≤ a → s'.authorities a = s.authorities a)
    : Routed s' where
  slots id slot := by
    rw [hslots, hcount, hid]
    exact h.slots id slot
  fresh slot hslot := by
    rw [hcount] at hslot
    rw [hfresh slot hslot]
    exact h.fresh slot hslot
  targets id owner howner := by
    rw [htargets] at howner
    rw [hsize]
    exact h.targets id owner howner
  routes owner slot := by
    rw [hroutes, hmembers]
    exact h.routes owner slot
  routesNodup owner := by
    rw [hroutes]
    exact h.routesNodup owner
  membersNodup slot := by
    rw [hmembers]
    exact h.membersNodup slot
  membersLt slot := by
    rw [hmembers, hsize]
    exact h.membersLt slot
  associated := by
    rw [hassociations, hsize, hroutes]
    exact h.associated

theorem Counted.agree (h : Counted s) (hactive : s'.active = s.active)
    (hposition : ∀ a, (s'.authorities a).activeSlot = (s.authorities a).activeSlot)
    (hlayers : s'.activeLayers = s.activeLayers) (houtputs : s'.activeOutputs = s.activeOutputs)
    (hsize : s'.size = s.size) (hroutes : s'.byOwner = s.byOwner)
    : Counted s' where
  listed := by
    simp only [hactive, hposition]
    exact h.listed
  layers owner := by
    simp only [hlayers, hroutes, hposition]
    exact h.layers owner
  outputs := by
    rw [houtputs, hsize, hlayers]
    exact h.outputs

theorem Queued.agree (h : Queued s) (hauthorities : s'.dirtyAuthorities = s.dirtyAuthorities)
    (hmarks : ∀ a, (s'.authorities a).dirty = (s.authorities a).dirty)
    (hdirty : s'.dirty = s.dirty) (hnominated : s'.nominated = s.nominated)
    (hforce : s'.force = s.force)
    : Queued s' where
  dirtied := by
    simp only [hauthorities, hmarks]
    exact h.dirtied
  nominations := by
    rw [hdirty, hnominated]
    exact h.nominations
  forced owner howner := by
    rw [hforce] at howner
    rw [hnominated]
    exact h.forced owner howner

end

/-! ### Parameters, values and queues -/

section

variable {s : ShutterPlayback} {slot : Nat} {f : PlaybackAuthority → PlaybackAuthority}

theorem fresh_modifySlot (f : PlaybackAuthority → PlaybackAuthority)
    (hslot : slot < s.authorityCount)
    : ∀ other, s.authorityCount ≤ other
      → modifySlot s.authorities slot f other = s.authorities other := by
  intro other hother
  apply modifySlot_ne
  omega

theorem Consistent.modify (h : Consistent s) (hslot : slot < s.authorityCount)
    (hid : (f (s.authorities slot)).id = (s.authorities slot).id)
    (howners : (f (s.authorities slot)).owners = (s.authorities slot).owners)
    (hactive : (f (s.authorities slot)).activeSlot = (s.authorities slot).activeSlot)
    (hdirty : (f (s.authorities slot)).dirty = (s.authorities slot).dirty)
    : Consistent { s with authorities := modifySlot s.authorities slot f } where
  toRouted := h.toRouted.agree rfl rfl rfl rfl rfl rfl (field_modifySlot PlaybackAuthority.id hid)
    (field_modifySlot PlaybackAuthority.owners howners) (fresh_modifySlot f hslot)
  toCounted := h.toCounted.agree rfl (field_modifySlot PlaybackAuthority.activeSlot hactive)
    rfl rfl rfl rfl
  toQueued := h.toQueued.agree rfl (field_modifySlot PlaybackAuthority.dirty hdirty) rfl rfl rfl

theorem Consistent.evaluateLater (h : Consistent s) (hslot : slot < s.authorityCount)
    : Consistent (s.evaluateLater slot) := by
  rw [ShutterPlayback.evaluateLater]
  split
  . exact h
  next hclean =>
    constructor
    . exact h.toRouted.agree rfl rfl rfl rfl rfl rfl (field_modifySlot PlaybackAuthority.id rfl)
        (field_modifySlot PlaybackAuthority.owners rfl)
        (fresh_modifySlot (fun authority => { authority with dirty := true }) hslot)
    . exact h.toCounted.agree rfl (field_modifySlot PlaybackAuthority.activeSlot rfl)
        rfl rfl rfl rfl
    . constructor
      . have hpush := h.dirtied.push (by simpa using hclean : (s.authorities slot).dirty = false)
        dsimp only
        rw [field_modifySlot_update PlaybackAuthority.dirty]
        exact hpush
      . exact h.nominations
      . exact h.forced

end

/-! ### Activity -/

def counted (add : Bool) (n : Nat) : Nat := if add then n + 1 else n - 1

def layersAfter (add : Bool) (layers : Nat → Nat) (members : List Nat) (owner : Nat) : Nat :=
  if owner ∈ members then counted add (layers owner) else layers owner

def withLayers (s : ShutterPlayback) (layers : Nat → Nat) : ShutterPlayback :=
  { s with activeLayers := layers, activeOutputs := Registry.occupied s.size layers }

section

variable {s : ShutterPlayback} {slot owner : Nat} {members : List Nat} {add : Bool}

theorem activity_eq (howner : owner < s.size)
    (houtputs : s.activeOutputs = Registry.occupied s.size s.activeLayers)
    (hpos : add = false → 0 < s.activeLayers owner)
    : activity add s owner = s.withLayers
        (Function.update s.activeLayers owner (counted add (s.activeLayers owner))) := by
  have hupdate := Registry.occupied_update s.activeLayers howner (counted add (s.activeLayers owner))
  cases add with
  | true =>
    have hcount : Registry.occupied s.size (Function.update s.activeLayers owner
        (counted true (s.activeLayers owner)))
          = if s.activeLayers owner = 0 then s.activeOutputs + 1 else s.activeOutputs := by
      rw [counted, if_pos rfl] at hupdate ⊢
      rw [houtputs]
      split
      next hzero =>
        rw [if_pos hzero, if_neg (by omega)] at hupdate
        omega
      next hzero =>
        rw [if_neg hzero, if_neg (by omega)] at hupdate
        omega
    rw [withLayers, hcount]
    rfl
  | false =>
    have hpos := hpos rfl
    have hcount : Registry.occupied s.size (Function.update s.activeLayers owner
        (counted false (s.activeLayers owner)))
          = if s.activeLayers owner - 1 = 0 then s.activeOutputs - 1 else s.activeOutputs := by
      rw [counted, if_neg Bool.false_ne_true] at hupdate ⊢
      rw [houtputs]
      rw [if_neg (by omega : ¬s.activeLayers owner = 0)] at hupdate
      split
      next hzero =>
        rw [if_pos hzero] at hupdate
        omega
      next hzero =>
        rw [if_neg hzero] at hupdate
        omega
    rw [withLayers, hcount]
    rfl

theorem foldl_activity (hnodup : members.Nodup) (hlt : ∀ owner ∈ members, owner < s.size)
    (houtputs : s.activeOutputs = Registry.occupied s.size s.activeLayers)
    (hpos : add = false → ∀ owner ∈ members, 0 < s.activeLayers owner)
    : members.foldl (activity add) s = s.withLayers (layersAfter add s.activeLayers members) := by
  induction members generalizing s with
  | nil =>
    have hsame : layersAfter add s.activeLayers [] = s.activeLayers := by
      funext owner
      simp [layersAfter]
    rw [hsame, withLayers, ← houtputs]
    rfl
  | cons owner members ih =>
    have hnodup := List.nodup_cons.mp hnodup
    have hrest := @ih (s.withLayers
      (Function.update s.activeLayers owner (counted add (s.activeLayers owner)))) hnodup.2
      (fun other hother => hlt other (by simp [hother])) rfl
    rw [List.foldl_cons, activity_eq (hlt owner (by simp)) houtputs
      (fun hadd => hpos hadd owner (by simp)), hrest]
    . have hafter : layersAfter add
          (Function.update s.activeLayers owner (counted add (s.activeLayers owner))) members
            = layersAfter add s.activeLayers (owner :: members) := by
        funext other
        rw [layersAfter, layersAfter]
        by_cases heq : other = owner
        . rw [heq, if_neg hnodup.1, if_pos (by simp), Function.update_self]
        . rw [Function.update_of_ne heq]
          by_cases hother : other ∈ members
          . rw [if_pos hother, if_pos (by simp [hother])]
          . rw [if_neg hother, if_neg (by simp [hother, heq])]
      rw [← hafter]
      rfl
    . intro hadd other hother
      have hne : other ≠ owner := by
        intro heq
        rw [heq] at hother
        exact hnodup.1 hother
      have hupdate : (s.withLayers (Function.update s.activeLayers owner
          (counted add (s.activeLayers owner)))).activeLayers other = s.activeLayers other := by
        exact Function.update_of_ne hne _ _
      rw [hupdate]
      exact hpos hadd other (by simp [hother])

-- The outputs of an authority are exactly those whose count changes with its position.
theorem layersAfter_eq (h : Consistent s) (slot : Nat) (position : Option Nat)
    (hadd : add = position.isSome) (hchange : (s.authorities slot).activeSlot.isSome = !add)
    : layersAfter add s.activeLayers (s.authorities slot).owners owner
      = (s.byOwner owner).countP (fun other =>
        (Function.update (fun a => (s.authorities a).activeSlot) slot position other).isSome) := by
  rw [layersAfter, h.layers]
  by_cases hmem : owner ∈ (s.authorities slot).owners
  . have hslot := (h.routes owner slot).mpr hmem
    have hcount := @Registry.countP_update Nat _ (s.byOwner owner) (h.routesNodup owner) slot hslot
      (fun other => (s.authorities other).activeSlot.isSome)
      (fun other => (Function.update (fun a => (s.authorities a).activeSlot) slot position
        other).isSome) (by
        intro other hother
        rw [Function.update_of_ne hother])
    rw [Function.update_self, hchange, ← hadd] at hcount
    rw [if_pos hmem, counted]
    cases add with
    | true =>
      simp only [Bool.not_true, Bool.false_eq_true, if_false, if_true] at hcount ⊢
      omega
    | false =>
      simp only [Bool.not_false, Bool.false_eq_true, if_false, if_true] at hcount ⊢
      omega
  . rw [if_neg hmem]
    apply List.countP_congr
    intro other hother
    have hne : other ≠ slot := by
      intro heq
      rw [heq] at hother
      exact hmem ((h.routes owner slot).mp hother)
    rw [Function.update_of_ne hne]

theorem Consistent.activate (h : Consistent s) (hslot : slot < s.authorityCount)
    (hidle : (s.authorities slot).activeSlot = none)
    : Consistent (s.activate slot) := by
  let f : PlaybackAuthority → PlaybackAuthority := fun authority =>
    { authority with activeSlot := some s.active.length }
  have hmembers : (modifySlot s.authorities slot f slot).owners = (s.authorities slot).owners := by
    exact field_modifySlot PlaybackAuthority.owners rfl slot
  have hfold := @foldl_activity
    { s with authorities := modifySlot s.authorities slot f, active := s.active ++ [slot] }
    (s.authorities slot).owners true (h.membersNodup slot) (h.membersLt slot) h.outputs
    (fun hadd => absurd hadd.symm Bool.false_ne_true)
  rw [ShutterPlayback.activate]
  dsimp only
  rw [hmembers, hfold]
  constructor
  . exact h.toRouted.agree rfl rfl rfl rfl rfl rfl (field_modifySlot PlaybackAuthority.id rfl)
      (field_modifySlot PlaybackAuthority.owners rfl) (fresh_modifySlot f hslot)
  . have hpositions := @field_modifySlot_update s.authorities slot f _ PlaybackAuthority.activeSlot
    constructor
    . have hlisted := h.listed.append hidle
      rw [← hpositions] at hlisted
      exact hlisted
    . intro owner
      have hlayers := @layersAfter_eq s owner true h slot (some s.active.length) rfl
        (by rw [hidle]; rfl)
      rw [← hpositions] at hlayers
      exact hlayers
    . rfl
  . exact h.toQueued.agree rfl (field_modifySlot PlaybackAuthority.dirty rfl) rfl rfl rfl

theorem Consistent.deactivate {position : Nat} (h : Consistent s) (hslot : slot < s.authorityCount)
    (hactive : (s.authorities slot).activeSlot = some position)
    : Consistent (s.deactivate slot position) := by
  have hmem := (h.listed slot position).mp hactive
  cases hlast : s.active.getLast? with
  | none =>
    rw [List.getLast?_eq_none_iff] at hlast
    rw [hlast] at hmem
    contradiction
  | some last =>
    have hlastActive : ∃ i, (s.authorities last).activeSlot = some i := by
      rw [List.getLast?_eq_getElem?] at hlast
      exact ⟨_, (h.listed last _).mpr hlast⟩
    have hlastLt : last < s.authorityCount := by
      by_contra hge
      cases hlastActive with
      | intro i hi =>
        rw [h.fresh last (Nat.not_lt.mp hge)] at hi
        contradiction
    let f : PlaybackAuthority → PlaybackAuthority := fun authority =>
      { authority with activeSlot := some position }
    let g : PlaybackAuthority → PlaybackAuthority := fun authority =>
      { authority with activeSlot := none }
    let authorities := modifySlot (modifySlot s.authorities last f) slot g
    have hid : ∀ a, (authorities a).id = (s.authorities a).id := fun a =>
      (field_modifySlot PlaybackAuthority.id rfl a).trans
        (field_modifySlot PlaybackAuthority.id rfl a)
    have howners : ∀ a, (authorities a).owners = (s.authorities a).owners := fun a =>
      (field_modifySlot PlaybackAuthority.owners rfl a).trans
        (field_modifySlot PlaybackAuthority.owners rfl a)
    have hdirty : ∀ a, (authorities a).dirty = (s.authorities a).dirty := fun a =>
      (field_modifySlot PlaybackAuthority.dirty rfl a).trans
        (field_modifySlot PlaybackAuthority.dirty rfl a)
    have hpositions : (fun a => (authorities a).activeSlot)
        = Function.update (Function.update (fun a => (s.authorities a).activeSlot) last
          (some position)) slot none := by
      have hmoved := @field_modifySlot_update s.authorities last f _ PlaybackAuthority.activeSlot
      rw [field_modifySlot_update PlaybackAuthority.activeSlot, hmoved]
    have hpos : ∀ owner ∈ (s.authorities slot).owners, 0 < s.activeLayers owner := by
      intro owner howner
      rw [h.layers, List.countP_pos_iff]
      exact ⟨slot, (h.routes owner slot).mpr howner, by rw [hactive]; rfl⟩
    have hfold := @foldl_activity
      { s with authorities := authorities, active := (s.active.set position last).dropLast }
      (s.authorities slot).owners false (h.membersNodup slot) (h.membersLt slot) h.outputs
      (fun _ => hpos)
    rw [ShutterPlayback.deactivate, hlast]
    dsimp only [Option.getD_some]
    rw [howners slot, hfold]
    constructor
    . refine h.toRouted.agree rfl rfl rfl rfl rfl rfl hid howners ?_
      intro a ha
      dsimp only [withLayers, authorities]
      rw [modifySlot_ne (by omega), modifySlot_ne (by omega)]
    . constructor
      . have hlisted := h.listed.swapRemove hactive hlast
        rw [← hpositions] at hlisted
        exact hlisted
      . intro owner
        have hlayers := @layersAfter_eq s owner false h slot none rfl (by rw [hactive]; rfl)
        apply hlayers.trans
        apply List.countP_congr
        intro a _
        dsimp only [withLayers]
        rw [congrFun hpositions a]
        by_cases haslot : a = slot
        . rw [haslot, Function.update_self, Function.update_self]
        . rw [Function.update_of_ne haslot, Function.update_of_ne haslot]
          by_cases halast : a = last
          . cases hlastActive with
            | intro i hi => rw [halast, Function.update_self, hi]; rfl
          . rw [Function.update_of_ne halast]
      . rfl
    . exact h.toQueued.agree rfl hdirty rfl rfl rfl

end

end Peraviz.Presentation.ShutterPlayback
