import Peraviz.Presentation.ShutterPlayback.Routes

/-!
This module contains the invariant of shutter playback: what is neither marked nor active shows what
its parameters say at every time, and an output that is not nominated shows the product of the values
of its authorities.
-/

namespace Peraviz.Presentation.ShutterPlayback

open Peraviz.Runtime

-- The envelopes of parameters that are not temporal do not depend on the time.
theorem shutterEnvelope_static {p : ShutterParameters} (h : temporal p = false) (now now' : ℚ)
    : shutterEnvelope p now = shutterEnvelope p now' := by
  have hstatic : shutterPeriodic p.wave = false ∨ p.frequency ≤ 0 := by
    rw [temporal, Bool.and_eq_false_iff, decide_eq_false_iff_not, not_lt] at h
    exact h
  rw [shutterEnvelope, shutterEnvelope, shutterEnvelopeOf, shutterEnvelopeOf, if_pos hstatic,
    if_pos hstatic]

structure Sound (platform : Platform) (s : ShutterPlayback) : Prop extends Consistent s where
  temporal_iff : ∀ slot, (s.authorities slot).activeSlot.isSome = temporal (s.authorities slot).p
  accepted : ∀ slot, (s.authorities slot).owners ≠ [] → 0 < (s.authorities slot).p.revision
  held : ∀ slot, 0 < (s.authorities slot).p.revision → (s.authorities slot).dirty = false
    → temporal (s.authorities slot).p = false
    → ∀ now, (s.authorities slot).value
      = platform.toFloat (shutterEnvelope (s.authorities slot).p now)
  current : ∀ owner, s.nominated owner = false → s.envelopes owner = s.heldProduct platform owner

theorem sound_install (platform : Platform) (ids : List Int32) : Sound platform (install ids) where
  toConsistent := consistent_install ids
  temporal_iff _ := rfl
  accepted slot h := absurd rfl h
  held slot h := absurd h (by simp [install])
  current owner _ := rfl

section

variable {platform : Platform} {s s' : ShutterPlayback} {slot owner : Nat} {force : Bool}
  {p : ShutterParameters}

theorem heldProduct_congr (hroutes : s'.byOwner owner = s.byOwner owner)
    (hvalue : ∀ a ∈ s.byOwner owner, (s'.authorities a).value = (s.authorities a).value)
    : s'.heldProduct platform owner = s.heldProduct platform owner := by
  rw [heldProduct, heldProduct, hroutes]
  apply List.foldl_ext
  intro value a ha
  rw [hvalue a ha]

/-! ### Nominations, admission and routes -/

theorem Sound.nominates (h : Sound platform s) (hnominates : Nominates s s')
    : Sound platform s' := by
  have hconsistent := h.toConsistent.nominates hnominates
  have hkept := hnominates.kept
  obtain ⟨nominated, force, dirty, rfl⟩ := hnominates.frame
  refine ⟨hconsistent, h.temporal_iff, h.accepted, h.held, ?_⟩
  intro owner howner
  apply h.current
  by_contra hmarked
  rw [hkept owner (by simpa using hmarked)] at howner
  contradiction

theorem field_admitRow {β : Type} (g : PlaybackAuthority → β) (h : Consistent s) (row : PlaybackRow)
    (hg : g { id := row.authority, index := row.index } = g {}) (a : Nat)
    : g ((s.admitRow row).1.authorities a) = g (s.authorities a) := by
  rw [admitRow]
  split
  . rfl
  . dsimp only
    by_cases ha : a = s.authorityCount
    . rw [ha, Function.update_self, h.fresh _ (le_refl _), hg]
    . rw [Function.update_of_ne ha]

theorem admitRow_frame (s : ShutterPlayback) (row : PlaybackRow)
    : ∃ authoritySlots authorities authorityCount, (s.admitRow row).1 = { s with
        authoritySlots := authoritySlots
        authorities := authorities
        authorityCount := authorityCount } := by
  rw [admitRow]
  split
  . exact ⟨_, _, _, rfl⟩
  . exact ⟨_, _, _, rfl⟩

theorem Sound.admitRow (h : Sound platform s) (row : PlaybackRow)
    : Sound platform (s.admitRow row).1 := by
  have hactive := field_admitRow PlaybackAuthority.activeSlot h.toConsistent row rfl
  have hp := field_admitRow PlaybackAuthority.p h.toConsistent row rfl
  have howners := field_admitRow PlaybackAuthority.owners h.toConsistent row rfl
  have hdirty := field_admitRow PlaybackAuthority.dirty h.toConsistent row rfl
  have hvalue := field_admitRow PlaybackAuthority.value h.toConsistent row rfl
  constructor
  . exact (h.toConsistent.admitRow row).1
  . intro slot
    rw [hactive, hp]
    exact h.temporal_iff slot
  . intro slot
    rw [howners, hp]
    exact h.accepted slot
  . intro slot
    rw [hp, hdirty, hvalue]
    exact h.held slot
  . intro owner howner
    obtain ⟨_, _, _, hframe⟩ := admitRow_frame s row
    have hcurrent := h.current owner (by rw [hframe] at howner; exact howner)
    rw [heldProduct_congr (by rw [hframe]) (fun a _ => hvalue a), ← hcurrent, hframe]

theorem Sound.associate (h : Sound platform s) (hslot : slot < s.authorityCount)
    (howner : owner < s.size) (hrevision : 0 < (s.authorities slot).p.revision)
    : Sound platform (s.associate slot owner) := by
  have hconsistent := h.toConsistent.associate hslot howner
  by_cases hmem : slot ∈ s.byOwner owner
  . rw [ShutterPlayback.associate, if_pos hmem]
    exact h
  . let t := if ((s.withRoute slot owner).authorities slot).activeSlot.isSome then
      activity true (s.withRoute slot owner) owner else s.withRoute slot owner
    have hassociate : s.associate slot owner = t.nominate true owner := by
      rw [ShutterPlayback.associate, if_neg hmem]
      rfl
    have hframe : ∃ layers outputs, t
        = { s.withRoute slot owner with activeLayers := layers, activeOutputs := outputs } := by
      dsimp only [t]
      split
      . exact activity_frame true _ owner
      . exact ⟨_, _, rfl⟩
    have hnominates : Nominates t (s.associate slot owner) := by
      rw [hassociate]
      exact nominates_nominate
    have hnominated : (s.associate slot owner).nominated owner = true := by
      obtain ⟨layers, outputs, hframe⟩ := hframe
      rw [hassociate]
      apply nominated_nominate
      . rw [hframe]
        exact howner
      . rw [hframe]
        dsimp only [withRoute]
        rw [Function.update_self]
        simp
    have hkept := hnominates.kept
    obtain ⟨nominated, force, dirty, hresult⟩ := hnominates.frame
    obtain ⟨layers, outputs, hframe⟩ := hframe
    have hauthorities : (s.associate slot owner).authorities
        = modifySlot s.authorities slot (fun authority =>
          { authority with owners := authority.owners ++ [owner] }) := by
      rw [hresult, hframe]
      rfl
    have hp : ∀ a, ((s.associate slot owner).authorities a).p = (s.authorities a).p := by
      rw [hauthorities]
      exact field_modifySlot PlaybackAuthority.p rfl
    have hvalue : ∀ a, ((s.associate slot owner).authorities a).value
        = (s.authorities a).value := by
      rw [hauthorities]
      exact field_modifySlot PlaybackAuthority.value rfl
    constructor
    . exact hconsistent
    . intro a
      rw [hp, hauthorities, field_modifySlot PlaybackAuthority.activeSlot rfl]
      exact h.temporal_iff a
    . intro a ha
      rw [hp]
      by_cases haslot : a = slot
      . rw [haslot]
        exact hrevision
      . rw [hauthorities, modifySlot_ne haslot] at ha
        exact h.accepted a ha
    . intro a
      rw [hp, hvalue, hauthorities, field_modifySlot PlaybackAuthority.dirty rfl]
      exact h.held a
    . intro other hother
      have hne : other ≠ owner := by
        intro heq
        rw [heq, hnominated] at hother
        contradiction
      have hbefore : s.nominated other = false := by
        by_contra hmarked
        have ht : t.nominated other = true := by
          rw [hframe]
          exact Bool.not_eq_false (s.nominated other) ▸ hmarked
        rw [hkept other ht] at hother
        contradiction
      have hroutes : (s.associate slot owner).byOwner other = s.byOwner other := by
        rw [hresult, hframe]
        exact Function.update_of_ne hne _ _
      have henvelopes : (s.associate slot owner).envelopes = s.envelopes := by
        rw [hresult, hframe]
        rfl
      rw [heldProduct_congr hroutes (fun a _ => hvalue a), henvelopes]
      exact h.current other hbefore

/-! ### Newer parameters -/

theorem foldl_activity_frame (add : Bool) (members : List Nat) (s : ShutterPlayback)
    : ∃ layers outputs, members.foldl (activity add) s
        = { s with activeLayers := layers, activeOutputs := outputs } := by
  induction members generalizing s with
  | nil => exact ⟨_, _, rfl⟩
  | cons owner members ih =>
    obtain ⟨layers, outputs, hfirst⟩ := activity_frame add s owner
    obtain ⟨layers', outputs', hrest⟩ := ih (s.activity add owner)
    refine ⟨layers', outputs', ?_⟩
    rw [List.foldl_cons, hrest, hfirst]

def withParameters (s : ShutterPlayback) (slot : Nat) (p : ShutterParameters) : ShutterPlayback :=
  { s with
    authorities := modifySlot s.authorities slot (fun authority => { authority with p := p }) }

theorem withParameters_self
    : (s.withParameters slot p).authorities slot = { s.authorities slot with p := p } := by
  exact Function.update_self _ _ _

theorem withParameters_ne {a : Nat} (ha : a ≠ slot)
    : (s.withParameters slot p).authorities a = s.authorities a := by
  exact Function.update_of_ne ha _ _

/-- The parameters with the activity that they call for. -/
def switched (s : ShutterPlayback) (slot : Nat) (p : ShutterParameters) : ShutterPlayback :=
  match ((s.withParameters slot p).authorities slot).activeSlot with
  | none => if temporal p then (s.withParameters slot p).activate slot else s.withParameters slot p
  | some position =>
    if temporal p then s.withParameters slot p else (s.withParameters slot p).deactivate slot position

theorem accept_eq (hnewer : (s.authorities slot).p.revision < p.revision)
    : s.accept slot p = (s.switched slot p).evaluateLater slot := by
  rw [accept, if_pos hnewer]
  rfl

theorem authorities_foldl_activity (add : Bool) (members : List Nat) (s : ShutterPlayback)
    : (members.foldl (activity add) s).authorities = s.authorities := by
  obtain ⟨_, _, hframe⟩ := foldl_activity_frame add members s
  rw [hframe]

theorem authorities_activate
    : (s.activate slot).authorities = modifySlot s.authorities slot (fun authority =>
        { authority with activeSlot := some s.active.length }) := by
  exact authorities_foldl_activity _ _ _

theorem authorities_deactivate {position : Nat}
    : (s.deactivate slot position).authorities
      = modifySlot (modifySlot s.authorities (s.active.getLast?.getD slot) (fun authority =>
        { authority with activeSlot := some position })) slot (fun authority =>
          { authority with activeSlot := none }) := by
  exact authorities_foldl_activity _ _ _

theorem switched_frame (s : ShutterPlayback) (slot : Nat) (p : ShutterParameters)
    : ∃ authorities active layers outputs, s.switched slot p = { s with
        authorities := authorities
        active := active
        activeLayers := layers
        activeOutputs := outputs } := by
  have hactivity : ∀ add (members : List Nat) (t : ShutterPlayback), (∃ authorities active, t = { s with
      authorities := authorities, active := active }) → ∃ authorities active layers outputs,
        members.foldl (activity add) t = { s with
          authorities := authorities
          active := active
          activeLayers := layers
          activeOutputs := outputs } := by
    intro add members t ht
    obtain ⟨authorities, active, rfl⟩ := ht
    obtain ⟨layers, outputs, hframe⟩ := foldl_activity_frame add members _
    exact ⟨authorities, active, layers, outputs, hframe⟩
  rw [switched]
  split
  . split
    . exact hactivity _ _ _ ⟨_, _, rfl⟩
    . exact ⟨_, _, _, _, rfl⟩
  . split
    . exact ⟨_, _, _, _, rfl⟩
    . exact hactivity _ _ _ ⟨_, _, rfl⟩

/-- What is left of an authority when parameters are switched. -/
structure Switches (s s' : ShutterPlayback) (slot : Nat) (p : ShutterParameters) : Prop where
  own : ∃ position, s'.authorities slot
      = { s.authorities slot with p := p, activeSlot := position }
    ∧ position.isSome = temporal p
  others : ∀ a, a ≠ slot → ∃ position, s'.authorities a
      = { s.authorities a with activeSlot := position }
    ∧ position.isSome = (s.authorities a).activeSlot.isSome

theorem switches_withParameters (hactive : (s.authorities slot).activeSlot.isSome = temporal p)
    : Switches s (s.withParameters slot p) slot p where
  own := ⟨(s.authorities slot).activeSlot, withParameters_self, hactive⟩
  others a ha := ⟨(s.authorities a).activeSlot, withParameters_ne ha, rfl⟩

theorem switches_activate (htemporal : temporal p = true)
    : Switches s ((s.withParameters slot p).activate slot) slot p where
  own := by
    refine ⟨some s.active.length, ?_, by rw [htemporal]; rfl⟩
    rw [authorities_activate, modifySlot_self, withParameters_self]
    rfl
  others a ha := by
    refine ⟨(s.authorities a).activeSlot, ?_, rfl⟩
    rw [authorities_activate, modifySlot_ne ha, withParameters_ne ha]

theorem switches_deactivate {position : Nat} (h : Consistent s) (htemporal : temporal p = false)
    (hactive : (s.authorities slot).activeSlot = some position)
    : Switches s ((s.withParameters slot p).deactivate slot position) slot p where
  own := by
    refine ⟨none, ?_, by rw [htemporal]; rfl⟩
    rw [authorities_deactivate, modifySlot_self]
    by_cases hlast : slot = (s.withParameters slot p).active.getLast?.getD slot
    . rw [← hlast, modifySlot_self, withParameters_self]
    . rw [modifySlot_ne hlast, withParameters_self]
  others a ha := by
    rw [authorities_deactivate, modifySlot_ne ha]
    by_cases hlast : a = (s.withParameters slot p).active.getLast?.getD slot
    . have hmem := (h.listed slot position).mp hactive
      have hlisted : (s.authorities a).activeSlot.isSome = true := by
        cases hget : (s.withParameters slot p).active.getLast? with
        | none =>
          rw [hget] at hlast
          exact absurd hlast ha
        | some last =>
          rw [hget] at hlast
          rw [List.getLast?_eq_getElem?] at hget
          have hposition : (s.authorities last).activeSlot = some _ := (h.listed last _).mpr hget
          rw [hlast, Option.getD_some, hposition]
          rfl
      refine ⟨some position, ?_, by rw [hlisted]; rfl⟩
      rw [← hlast, modifySlot_self, withParameters_ne ha]
    . refine ⟨(s.authorities a).activeSlot, ?_, rfl⟩
      rw [modifySlot_ne hlast, withParameters_ne ha]

theorem Consistent.withParameters (h : Consistent s) (hslot : slot < s.authorityCount)
    : Consistent (s.withParameters slot p) := by
  exact h.modify hslot rfl rfl rfl rfl

theorem Consistent.switched (h : Consistent s) (hslot : slot < s.authorityCount)
    : Consistent (s.switched slot p) ∧ Switches s (s.switched slot p) slot p := by
  have hposition : ((s.withParameters slot p).authorities slot).activeSlot
      = (s.authorities slot).activeSlot :=
    field_modifySlot PlaybackAuthority.activeSlot rfl slot
  have hparameters : Consistent (s.withParameters slot p) := h.withParameters hslot
  rw [ShutterPlayback.switched]
  split
  next hnone =>
    rw [hposition] at hnone
    split
    next htemporal =>
      constructor
      . apply hparameters.activate hslot
        rw [hposition, hnone]
      . exact switches_activate htemporal
    next hstatic =>
      refine ⟨hparameters, switches_withParameters ?_⟩
      rw [hnone]
      simpa using hstatic
  next position hsome =>
    rw [hposition] at hsome
    split
    next htemporal =>
      refine ⟨hparameters, switches_withParameters ?_⟩
      rw [hsome, htemporal]
      rfl
    next hstatic =>
      constructor
      . apply hparameters.deactivate hslot
        rw [hposition, hsome]
      . exact switches_deactivate h (by simpa using hstatic) hsome

theorem evaluateLater_frame (s : ShutterPlayback) (slot : Nat)
    : ∃ authorities dirtyAuthorities, s.evaluateLater slot = { s with
        authorities := authorities
        dirtyAuthorities := dirtyAuthorities } := by
  rw [evaluateLater]
  split
  . exact ⟨_, _, rfl⟩
  . exact ⟨_, _, rfl⟩

theorem field_evaluateLater {β : Type} (g : PlaybackAuthority → β)
    (hg : ∀ authority : PlaybackAuthority, g { authority with dirty := true } = g authority)
    (s : ShutterPlayback) (slot a : Nat)
    : g ((s.evaluateLater slot).authorities a) = g (s.authorities a) := by
  rw [evaluateLater]
  split
  . rfl
  . exact @field_modifySlot s.authorities slot (fun authority => { authority with dirty := true }) _
      g (hg _) a

theorem dirty_evaluateLater (s : ShutterPlayback) (slot : Nat)
    : ((s.evaluateLater slot).authorities slot).dirty = true := by
  rw [evaluateLater]
  split
  next hdirty => exact hdirty
  next =>
    dsimp only
    rw [modifySlot_self]

theorem evaluateLater_ne {a : Nat} (ha : a ≠ slot)
    : (s.evaluateLater slot).authorities a = s.authorities a := by
  rw [evaluateLater]
  split
  . rfl
  . exact Function.update_of_ne ha _ _

theorem Sound.evaluateLater (h : Sound platform s) (hslot : slot < s.authorityCount)
    : Sound platform (s.evaluateLater slot) := by
  have hp := field_evaluateLater PlaybackAuthority.p (fun _ => rfl) s slot
  have hactive := field_evaluateLater PlaybackAuthority.activeSlot (fun _ => rfl) s slot
  have howners := field_evaluateLater PlaybackAuthority.owners (fun _ => rfl) s slot
  have hvalue := field_evaluateLater PlaybackAuthority.value (fun _ => rfl) s slot
  constructor
  . exact h.toConsistent.evaluateLater hslot
  . intro a
    rw [hactive, hp]
    exact h.temporal_iff a
  . intro a
    rw [howners, hp]
    exact h.accepted a
  . intro a hrevision hclean
    have hne : a ≠ slot := by
      intro heq
      rw [heq, dirty_evaluateLater] at hclean
      contradiction
    rw [evaluateLater_ne hne] at hrevision hclean ⊢
    exact h.held a hrevision hclean
  . intro owner howner
    obtain ⟨_, _, hframe⟩ := evaluateLater_frame s slot
    have hcurrent := h.current owner (by rw [hframe] at howner; exact howner)
    rw [heldProduct_congr (by rw [hframe]) (fun a _ => hvalue a), ← hcurrent, hframe]

theorem sound_accept (h : Sound platform s) (hslot : slot < s.authorityCount)
    : Sound platform (s.accept slot p) := by
  by_cases hnewer : (s.authorities slot).p.revision < p.revision
  . have hswitched := @Consistent.switched s slot p h.toConsistent hslot
    obtain ⟨position, hown, hposition⟩ := hswitched.2.own
    have hothers := hswitched.2.others
    obtain ⟨_, _, _, _, hswitch⟩ := switched_frame s slot p
    obtain ⟨_, _, hlater⟩ := evaluateLater_frame (s.switched slot p) slot
    have hslot' : slot < (s.switched slot p).authorityCount := by
      rw [hswitch]
      exact hslot
    rw [accept_eq hnewer]
    constructor
    . exact hswitched.1.evaluateLater hslot'
    . intro a
      rw [field_evaluateLater PlaybackAuthority.activeSlot (fun _ => rfl),
        field_evaluateLater PlaybackAuthority.p (fun _ => rfl)]
      by_cases ha : a = slot
      . rw [ha, hown]
        exact hposition
      . obtain ⟨_, hother, hsome⟩ := hothers a ha
        rw [hother]
        exact hsome.trans (h.temporal_iff a)
    . intro a
      rw [field_evaluateLater PlaybackAuthority.owners (fun _ => rfl),
        field_evaluateLater PlaybackAuthority.p (fun _ => rfl)]
      by_cases ha : a = slot
      . rw [ha, hown]
        intro hmembers
        exact Int32.lt_trans (h.accepted slot hmembers) hnewer
      . obtain ⟨_, hother, _⟩ := hothers a ha
        rw [hother]
        exact h.accepted a
    . intro a hrevision hclean
      have hne : a ≠ slot := by
        intro heq
        rw [heq, dirty_evaluateLater] at hclean
        contradiction
      obtain ⟨_, hother, _⟩ := hothers a hne
      rw [evaluateLater_ne hne, hother] at hrevision hclean ⊢
      exact h.held a hrevision hclean
    . intro owner howner
      have hcurrent := h.current owner (by rw [hlater, hswitch] at howner; exact howner)
      have hvalue : ∀ a, (((s.switched slot p).evaluateLater slot).authorities a).value
          = (s.authorities a).value := by
        intro a
        rw [field_evaluateLater PlaybackAuthority.value (fun _ => rfl)]
        by_cases ha : a = slot
        . rw [ha, hown]
        . obtain ⟨_, hother, _⟩ := hothers a ha
          rw [hother]
      rw [heldProduct_congr (by rw [hlater, hswitch]) (fun a _ => hvalue a), ← hcurrent, hlater,
        hswitch]
  . rw [accept, if_neg hnewer]
    exact h

theorem accept_facts (h : Consistent s) (hslot : slot < s.authorityCount) (hrevision : 0 < p.revision)
    : (s.accept slot p).authorityCount = s.authorityCount ∧ (s.accept slot p).size = s.size
        ∧ 0 < ((s.accept slot p).authorities slot).p.revision := by
  by_cases hnewer : (s.authorities slot).p.revision < p.revision
  . obtain ⟨_, hown, _⟩ := (@Consistent.switched s slot p h hslot).2.own
    obtain ⟨_, _, _, _, hswitch⟩ := switched_frame s slot p
    obtain ⟨_, _, hlater⟩ := evaluateLater_frame (s.switched slot p) slot
    rw [accept_eq hnewer]
    refine ⟨by rw [hlater, hswitch], by rw [hlater, hswitch], ?_⟩
    rw [field_evaluateLater PlaybackAuthority.p (fun _ => rfl), hown]
    exact hrevision
  . rw [accept, if_neg hnewer]
    exact ⟨rfl, rfl, Int32.lt_of_lt_of_le hrevision (Int32.not_lt.mp hnewer)⟩

/-! ### Rows -/

theorem Sound.setClock (h : Sound platform s) (received : ℚ) (row : PlaybackRow)
    : Sound platform (s.setClock received row) := by
  rw [ShutterPlayback.setClock]
  split
  . exact h
  . refine ⟨⟨?_, ?_, ?_⟩, h.temporal_iff, h.accepted, h.held, h.current⟩
    . exact h.toRouted.agree rfl rfl rfl rfl rfl rfl (fun _ => rfl) (fun _ => rfl) (fun _ _ => rfl)
    . exact h.toCounted.agree rfl (fun _ => rfl) rfl rfl rfl rfl
    . exact h.toQueued.agree rfl (fun _ => rfl) rfl rfl rfl

theorem setClock_frame (s : ShutterPlayback) (received : ℚ) (row : PlaybackRow)
    : ∃ epoch clockSet, s.setClock received row
        = { s with epoch := epoch, clockSet := clockSet } := by
  rw [setClock]
  split
  . exact ⟨_, _, rfl⟩
  . exact ⟨_, _, rfl⟩

theorem Sound.ingestRow (h : Sound platform s) {row : PlaybackRow} (hrevision : 0 < row.p.revision)
    (received : ℚ)
    : Sound platform (s.ingestRow received row).1 := by
  rw [ShutterPlayback.ingestRow]
  split
  . exact h
  next owner howner =>
    have hadmitted := h.admitRow row
    have hslot := (h.toConsistent.admitRow row).2
    dsimp only
    split
    . exact hadmitted
    . obtain ⟨_, _, hclock⟩ := setClock_frame (s.admitRow row).1 received row
      obtain ⟨_, _, _, hframe⟩ := admitRow_frame s row
      have hset := hadmitted.setClock received row
      have hslot' : (s.admitRow row).2 < ((s.admitRow row).1.setClock received row).authorityCount := by
        rw [hclock]
        exact hslot
      have hfacts := accept_facts hset.toConsistent hslot' hrevision
      apply (sound_accept hset hslot').associate
      . rw [hfacts.1]
        exact hslot'
      . rw [hfacts.2.1, hclock, hframe]
        exact h.targets _ _ howner
      . exact hfacts.2.2

theorem Sound.ingestRows {rows : List PlaybackRow} (h : Sound platform s)
    (hrevisions : ∀ row ∈ rows, 0 < row.p.revision) (received : ℚ)
    : Sound platform (s.ingestRows received rows).1 := by
  induction rows generalizing s with
  | nil => exact h
  | cons row rows ih =>
    have hrow := h.ingestRow (hrevisions row (by simp)) received
    rw [ShutterPlayback.ingestRows]
    split
    next s' hs' =>
      rw [hs'] at hrow
      exact ih hrow (fun other hother => hrevisions other (by simp [hother]))
    next s' hs' =>
      rw [hs'] at hrow
      exact hrow

theorem payloadRows_revision {d ints : List Int32} {v : List Scalar} {rows : List PlaybackRow}
    (h : payloadRows d ints v = some rows) : ∀ row ∈ rows, 0 < row.p.revision := by
  rw [payloadRows] at h
  split at h
  next hvalid =>
    intro row hrow
    rw [← Option.some.inj h, List.mem_map] at hrow
    obtain ⟨cells, hcells, rfl⟩ := hrow
    have hcell := List.all_eq_true.mp hvalid.2.2 cells hcells
    rw [RowCells.valid] at hcell
    simp only [Bool.and_eq_true, Bool.not_eq_true', Bool.or_eq_false_iff, decide_eq_false_iff_not]
      at hcell
    have hrevision := Int32.not_lt.mp hcell.1.2
    exact Int32.lt_of_lt_of_le (by decide) hrevision
  next => contradiction

theorem Sound.ingest (h : Sound platform s) (d ints : List Int32) (v : List Scalar) (received : ℚ)
    : Sound platform (s.ingest d ints v received).1 := by
  rw [ShutterPlayback.ingest]
  split
  . exact h
  next rows hrows => exact h.ingestRows (payloadRows_revision hrows) received

theorem Sound.invalidate (h : Sound platform s) : Sound platform (s.invalidate platform) := by
  rw [ShutterPlayback.invalidate]
  have hcount : Sound platform { s with invalidations := s.invalidations + 1 } := by
    refine ⟨⟨?_, ?_, ?_⟩, h.temporal_iff, h.accepted, h.held, h.current⟩
    . exact h.toRouted.agree rfl rfl rfl rfl rfl rfl (fun _ => rfl) (fun _ => rfl) (fun _ _ => rfl)
    . exact h.toCounted.agree rfl (fun _ => rfl) rfl rfl rfl rfl
    . exact h.toQueued.agree rfl (fun _ => rfl) rfl rfl rfl
  exact hcount.nominates (nominates_foldl _ _)

end

end Peraviz.Presentation.ShutterPlayback
