import Peraviz.Presentation.ShutterPlayback.Sound

/-!
This module contains the exactness of shutter playback: every sample leaves the products of the
envelopes at its time, whatever calls came before it.
-/

namespace Peraviz.Presentation.ShutterPlayback

open Peraviz.Runtime

/-- The product of the envelopes of all authorities that are routed to an output, in the precision
in which it is taken. -/
def envelopeProduct (platform : Platform) (s : ShutterPlayback) (owner : Nat) (now : ℚ) : ℚ :=
  (s.byOwner owner).foldl (fun value slot => platform.toFloat (value
    * platform.toFloat (shutterEnvelope (s.authorities slot).p now))) 1

/-- What is not marked shows its envelope at a time. -/
def Sampled (platform : Platform) (now : ℚ) (s : ShutterPlayback) : Prop :=
  ∀ slot, 0 < (s.authorities slot).p.revision → (s.authorities slot).dirty = false
    → (s.authorities slot).value = platform.toFloat (shutterEnvelope (s.authorities slot).p now)

section

variable {platform : Platform} {s s' : ShutterPlayback} {slot owner : Nat} {rest : List Nat}
  {now : ℚ}

/-! ### Evaluation -/

/-- What the evaluation of an authority does: it takes the envelope and nominates the outputs of the
authority if that is another. -/
structure Evaluates (platform : Platform) (now : ℚ) (s s' : ShutterPlayback) (slot : Nat)
    : Prop where
  authorities : s'.authorities = modifySlot s.authorities slot (fun authority => { authority with
    value := platform.toFloat (shutterEnvelope (s.authorities slot).p now)
    dirty := false })
  nominates : Nominates s { s' with authorities := s.authorities, evaluations := s.evaluations }
  reached : (s.authorities slot).value
      ≠ platform.toFloat (shutterEnvelope (s.authorities slot).p now)
    → ∀ owner ∈ (s.authorities slot).owners, owner < s.size → s.byOwner owner ≠ []
    → s'.nominated owner = true

theorem modifySlot_modifySlot {authorities : Nat → PlaybackAuthority}
    {f g : PlaybackAuthority → PlaybackAuthority}
    : modifySlot (modifySlot authorities slot f) slot g
      = modifySlot authorities slot (fun authority => g (f authority)) := by
  funext a
  by_cases ha : a = slot
  . rw [ha, modifySlot_self, modifySlot_self, modifySlot_self]
  . rw [modifySlot_ne ha, modifySlot_ne ha, modifySlot_ne ha]

theorem evaluates_evaluate : Evaluates platform now s (s.evaluate platform now slot) slot := by
  rw [evaluate]
  dsimp only
  split
  next hvalue =>
    have hmembers : (modifySlot s.authorities slot (fun authority => { authority with
        value := platform.toFloat (shutterEnvelope (s.authorities slot).p now) }) slot).owners
          = (s.authorities slot).owners :=
      field_modifySlot PlaybackAuthority.owners rfl slot
    rw [hmembers]
    let t : ShutterPlayback := { s with
      evaluations := s.evaluations + 1
      authorities := modifySlot s.authorities slot (fun authority => { authority with
        value := platform.toFloat (shutterEnvelope (s.authorities slot).p now) }) }
    have hnominates := @nominates_foldl false (s.authorities slot).owners t
    have hkept := hnominates.kept
    have hnominations := hnominates.nominations
    have hforced := hnominates.forced
    constructor
    . obtain ⟨_, _, _, hframe⟩ := hnominates.frame
      dsimp only [t] at hframe
      rw [hframe]
      dsimp only
      exact modifySlot_modifySlot
    . refine ⟨?_, hnominations, hforced, hkept⟩
      obtain ⟨_, _, _, hframe⟩ := hnominates.frame
      dsimp only [t] at hframe
      rw [hframe]
      exact ⟨_, _, _, rfl⟩
    . intro _ owner howner hlt hroutes
      exact @nominated_foldl t owner false _ howner hlt hroutes
  next hsame =>
    rw [ne_eq, not_not] at hsame
    constructor
    . funext a
      by_cases ha : a = slot
      . dsimp only
        rw [ha, modifySlot_self, modifySlot_self, ← hsame]
      . dsimp only
        rw [modifySlot_ne ha, modifySlot_ne ha]
    . exact ⟨⟨_, _, _, rfl⟩, fun h => h, fun h => h, fun _ h => h⟩
    . intro hvalue
      exact absurd hsame hvalue

theorem Evaluates.field {β : Type} (h : Evaluates platform now s s' slot)
    (g : PlaybackAuthority → β)
    (hg : ∀ (authority : PlaybackAuthority) value,
      g { authority with value := value, dirty := false } = g authority) (a : Nat)
    : g (s'.authorities a) = g (s.authorities a) := by
  rw [h.authorities]
  exact @field_modifySlot s.authorities slot (fun authority => { authority with
    value := platform.toFloat (shutterEnvelope (s.authorities slot).p now)
    dirty := false }) _ g (hg _ _) a

theorem Evaluates.sampled (h : Evaluates platform now s s' slot)
    (hsampled : Sampled platform now s)
    : Sampled platform now s' := by
  intro a hrevision hclean
  by_cases ha : a = slot
  . rw [h.field PlaybackAuthority.p (fun _ _ => rfl), ha, h.authorities, modifySlot_self]
  . rw [h.authorities, modifySlot_ne ha] at hrevision hclean ⊢
    exact hsampled a hrevision hclean

theorem Sound.evaluate (h : Sound platform { s with dirtyAuthorities := slot :: rest })
    (hevaluates : Evaluates platform now s s' slot)
    : Sound platform { s' with dirtyAuthorities := rest } := by
  have hp := hevaluates.field PlaybackAuthority.p (fun _ _ => rfl)
  have hactive := hevaluates.field PlaybackAuthority.activeSlot (fun _ _ => rfl)
  have howners := hevaluates.field PlaybackAuthority.owners (fun _ _ => rfl)
  have hid := hevaluates.field PlaybackAuthority.id (fun _ _ => rfl)
  have hslot : slot < s.authorityCount := by
    by_contra hge
    have hdirty := (h.dirtied.mem_iff slot).mpr (by simp)
    rw [h.fresh slot (Nat.not_lt.mp hge)] at hdirty
    contradiction
  have hpop := h.dirtied.pop
  have hnominates := hevaluates.nominates
  have hkept := hnominates.kept
  have hnominations := hnominates.nominations h.nominations
  have hforced := hnominates.forced h.forced
  have hreached := hevaluates.reached
  have hauthorities := hevaluates.authorities
  obtain ⟨nominated, force, dirty, hframe⟩ := hnominates.frame
  have hkeep {β : Type} (g : ShutterPlayback → β) := congrArg g hframe
  have hsize : s'.size = s.size := hkeep ShutterPlayback.size
  have hroutes : s'.byOwner = s.byOwner := hkeep ShutterPlayback.byOwner
  have henvelopes : s'.envelopes = s.envelopes := hkeep ShutterPlayback.envelopes
  constructor
  . constructor
    . refine @Routed.agree _ { s' with dirtyAuthorities := rest } h.toRouted
        (hkeep ShutterPlayback.authoritySlots) (hkeep ShutterPlayback.authorityCount) hsize
        (hkeep ShutterPlayback.owners) hroutes (hkeep ShutterPlayback.associations) hid howners ?_
      intro a ha
      dsimp only at ha ⊢
      rw [hauthorities, modifySlot_ne (by omega)]
    . exact @Counted.agree _ { s' with dirtyAuthorities := rest } h.toCounted
        (hkeep ShutterPlayback.active) hactive
        (hkeep ShutterPlayback.activeLayers)
        (hkeep ShutterPlayback.activeOutputs) hsize hroutes
    . constructor
      . dsimp only
        rw [hauthorities, field_modifySlot_update PlaybackAuthority.dirty]
        exact hpop
      . exact hnominations
      . exact hforced
  . intro a
    exact (congrArg Option.isSome (hactive a)).trans ((h.temporal_iff a).trans
      (congrArg temporal (hp a).symm))
  . intro a
    dsimp only
    rw [howners, hp]
    exact h.accepted a
  . intro a hrevision hclean hstatic now'
    dsimp only at hrevision hclean hstatic ⊢
    by_cases ha : a = slot
    . rw [hp] at hstatic ⊢
      rw [ha, hauthorities, modifySlot_self]
      rw [ha] at hstatic
      rw [shutterEnvelope_static hstatic now now']
    . rw [hauthorities, modifySlot_ne ha] at hrevision hclean hstatic ⊢
      exact h.held a hrevision hclean hstatic now'
  . intro owner howner
    have hbefore : s.nominated owner = false := by
      by_contra hmarked
      have hafter := hkept owner (by simpa using hmarked)
      exact absurd (howner.symm.trans hafter) Bool.false_ne_true
    refine henvelopes ▸ (h.current owner hbefore).trans ?_
    apply Eq.symm
    apply heldProduct_congr (congrFun hroutes owner)
    intro a ha
    by_cases haslot : a = slot
    . rw [haslot, hauthorities, modifySlot_self]
      by_contra hne
      have hmember := (h.routes owner slot).mp (by rw [← haslot]; exact ha)
      have hlt := h.membersLt slot owner hmember
      have hafter := hreached (fun heq => hne heq.symm) owner hmember hlt
        (List.ne_nil_of_mem ha)
      exact absurd (howner.symm.trans hafter) Bool.false_ne_true
    . rw [hauthorities, modifySlot_ne haslot]

theorem Sound.evaluate_foldl {queue : List Nat}
    (h : Sound platform { s with dirtyAuthorities := queue }) (hsampled : Sampled platform now s)
    : Sound platform { queue.foldl (fun s slot => s.evaluate platform now slot) s with
          dirtyAuthorities := [] }
        ∧ Sampled platform now (queue.foldl (fun s slot => s.evaluate platform now slot) s) := by
  induction queue generalizing s with
  | nil => exact ⟨h, hsampled⟩
  | cons slot queue ih =>
    rw [List.foldl_cons]
    exact ih (h.evaluate evaluates_evaluate) (evaluates_evaluate.sampled hsampled)

/-! ### Commits -/

/-- What the commit of an output does: it takes the product, and nothing nominates it any more. -/
structure Commits (platform : Platform) (s s' : ShutterPlayback) (owner : Nat) : Prop where
  frame : ∃ envelopes changed changes, s' = { s with
    nominated := Function.update s.nominated owner false
    force := Function.update s.force owner false
    envelopes := envelopes
    changed := changed
    changes := changes }
  own : s'.envelopes owner = s.heldProduct platform owner
  others : ∀ other, other ≠ owner → s'.envelopes other = s.envelopes other

theorem commits_commit : Commits platform s (s.commit platform owner) owner := by
  rw [commit]
  split
  next =>
    constructor
    . exact ⟨_, _, _, rfl⟩
    . exact Function.update_self _ _ _
    . intro other hother
      exact Function.update_of_ne hother _ _
  next hsame =>
    constructor
    . exact ⟨_, _, _, rfl⟩
    . rw [not_or, ne_eq, not_not] at hsame
      exact hsame.2.symm
    . intro other _
      rfl

theorem Sound.commit (h : Sound platform { s with dirty := owner :: rest })
    (hcommits : Commits platform s s' owner)
    : Sound platform { s' with dirty := rest } := by
  have hown := hcommits.own
  have hothers := hcommits.others
  obtain ⟨envelopes, changed, changes, rfl⟩ := hcommits.frame
  constructor
  . refine ⟨?_, ?_, ?_⟩
    . exact h.toRouted.agree rfl rfl rfl rfl rfl rfl (fun _ => rfl) (fun _ => rfl) (fun _ _ => rfl)
    . exact h.toCounted.agree rfl (fun _ => rfl) rfl rfl rfl rfl
    . refine ⟨h.dirtied, h.nominations.pop, ?_⟩
      intro other hother
      by_cases heq : other = owner
      . rw [heq] at hother
        dsimp only at hother
        rw [Function.update_self] at hother
        contradiction
      . dsimp only at hother ⊢
        rw [Function.update_of_ne heq] at hother ⊢
        exact h.forced other hother
  . exact h.temporal_iff
  . exact h.accepted
  . exact h.held
  . intro other hother
    by_cases heq : other = owner
    . rw [heq]
      exact hown
    . dsimp only at hother
      rw [Function.update_of_ne heq] at hother
      exact (hothers other heq).trans (h.current other hother)

theorem Sound.commit_foldl {queue : List Nat} (h : Sound platform { s with dirty := queue })
    (hsampled : Sampled platform now s)
    : Sound platform { queue.foldl (ShutterPlayback.commit platform) s with dirty := [] }
        ∧ Sampled platform now (queue.foldl (ShutterPlayback.commit platform) s)
        ∧ (queue.foldl (ShutterPlayback.commit platform) s).dirtyAuthorities
          = s.dirtyAuthorities := by
  induction queue generalizing s with
  | nil => exact ⟨h, hsampled, rfl⟩
  | cons owner queue ih =>
    obtain ⟨_, _, _, hframe⟩ := (@commits_commit platform s owner).frame
    have hstep : Sampled platform now (s.commit platform owner) := by
      rw [Sampled, hframe]
      exact hsampled
    have hrest := ih (h.commit commits_commit) hstep
    rw [List.foldl_cons]
    refine ⟨hrest.1, hrest.2.1, ?_⟩
    rw [hrest.2.2, hframe]

theorem Sound.commitAll (h : Sound platform s) (hsampled : Sampled platform now s)
    (hqueue : s.dirtyAuthorities = [])
    : Sound platform { s.dirty.foldl (ShutterPlayback.commit platform) s with dirty := [] }
        ∧ Sampled platform now
          { s.dirty.foldl (ShutterPlayback.commit platform) s with dirty := [] }
        ∧ (s.dirty.foldl (ShutterPlayback.commit platform) s).dirtyAuthorities = [] := by
  have hcommitted := @Sound.commit_foldl platform s now s.dirty h hsampled
  exact ⟨hcommitted.1, hcommitted.2.1, hcommitted.2.2.trans hqueue⟩

/-! ### Samples -/

theorem evaluateLater_foldl_frame (queue : List Nat) (s : ShutterPlayback)
    : ∃ authorities dirtyAuthorities, queue.foldl evaluateLater s
        = { s with authorities := authorities, dirtyAuthorities := dirtyAuthorities } := by
  induction queue generalizing s with
  | nil => exact ⟨_, _, rfl⟩
  | cons slot queue ih =>
    obtain ⟨_, _, hfirst⟩ := evaluateLater_frame s slot
    obtain ⟨authorities, dirtyAuthorities, hrest⟩ := ih (s.evaluateLater slot)
    refine ⟨authorities, dirtyAuthorities, ?_⟩
    rw [List.foldl_cons, hrest, hfirst]

theorem Sound.evaluateLater_foldl {queue : List Nat} (h : Sound platform s)
    (hqueue : ∀ slot ∈ queue, slot < s.authorityCount)
    : Sound platform (queue.foldl ShutterPlayback.evaluateLater s) := by
  induction queue generalizing s with
  | nil => exact h
  | cons slot queue ih =>
    rw [List.foldl_cons]
    apply ih (h.evaluateLater (hqueue slot (by simp)))
    intro other hother
    obtain ⟨_, _, hframe⟩ := evaluateLater_frame s slot
    rw [hframe]
    exact hqueue other (by simp [hother])

theorem dirty_evaluateLater_foldl {queue : List Nat}
    (h : slot ∈ queue ∨ (s.authorities slot).dirty = true)
    : ((queue.foldl evaluateLater s).authorities slot).dirty = true := by
  induction queue generalizing s with
  | nil =>
    cases h with
    | inl hmem => contradiction
    | inr hdirty => exact hdirty
  | cons other queue ih =>
    rw [List.foldl_cons]
    apply ih
    by_cases heq : slot = other
    . right
      rw [heq]
      exact dirty_evaluateLater s other
    . rw [evaluateLater_ne heq]
      cases h with
      | inl hmem =>
        cases List.mem_cons.mp hmem with
        | inl hsame => exact absurd hsame heq
        | inr hmem => exact Or.inl hmem
      | inr hdirty => exact Or.inr hdirty

theorem Sound.sampled (h : Sound platform s)
    (hactive : ∀ slot ∈ s.active, (s.authorities slot).dirty = true)
    : Sampled platform now s := by
  intro slot hrevision hclean
  apply h.held slot hrevision hclean
  rw [← h.temporal_iff]
  by_contra htemporal
  have hmem : slot ∈ s.active := by
    rw [h.listed.mem_iff]
    intro hnone
    rw [hnone] at htemporal
    exact htemporal rfl
  rw [hactive slot hmem] at hclean
  contradiction

theorem Sound.tick (h : Sound platform s) (testNow clockNow : ℚ)
    : Sound platform (s.tick platform testNow clockNow)
        ∧ Sampled platform (s.sampleTime testNow clockNow) (s.tick platform testNow clockNow)
        ∧ (s.tick platform testNow clockNow).dirtyAuthorities = []
        ∧ (s.tick platform testNow clockNow).dirty = [] := by
  have hcleared : Sound platform { s with changed := [] } := by
    refine ⟨⟨?_, ?_, ?_⟩, h.temporal_iff, h.accepted, h.held, h.current⟩
    . exact h.toRouted.agree rfl rfl rfl rfl rfl rfl (fun _ => rfl) (fun _ => rfl) (fun _ _ => rfl)
    . exact h.toCounted.agree rfl (fun _ => rfl) rfl rfl rfl rfl
    . exact h.toQueued.agree rfl (fun _ => rfl) rfl rfl rfl
  rw [ShutterPlayback.tick]
  dsimp only
  split
  next hpending =>
    have hlt : ∀ slot ∈ s.active, slot < s.authorityCount := by
      intro slot hslot
      by_contra hge
      have hlisted := h.listed.mem_iff.mp hslot
      rw [h.fresh slot (Nat.not_lt.mp hge)] at hlisted
      contradiction
    have hqueued := hcleared.evaluateLater_foldl hlt
    have hsampled : Sampled platform (s.sampleTime testNow clockNow)
        (s.active.foldl ShutterPlayback.evaluateLater { s with changed := [] }) := by
      apply hqueued.sampled
      intro slot hslot
      apply dirty_evaluateLater_foldl
      left
      obtain ⟨_, _, hframe⟩ := evaluateLater_foldl_frame s.active { s with changed := [] }
      rw [hframe] at hslot
      exact hslot
    have hevaluated := hqueued.evaluate_foldl hsampled
    have hcommitted := hevaluated.1.commitAll hevaluated.2 rfl
    exact ⟨hcommitted.1, hcommitted.2.1, hcommitted.2.2, rfl⟩
  next hidle =>
    simp only [pending, Bool.or_eq_true, Bool.not_eq_true', List.isEmpty_eq_false_iff,
      not_or, ne_eq, not_not] at hidle
    refine ⟨hcleared, ?_, hidle.1.2, hidle.2⟩
    apply hcleared.sampled
    intro slot hslot
    rw [hidle.1.1] at hslot
    contradiction

/-! ### Runs -/

theorem Sound.call (h : Sound platform s) (call : PlaybackCall) : Sound platform (s.call platform call) := by
  cases call with
  | ingest d ints v received => exact h.ingest d ints v received
  | tick testNow clockNow => exact (h.tick testNow clockNow).1
  | nominate owner force => exact h.nominates nominates_nominate
  | invalidate => exact h.invalidate

theorem Sound.calls (h : Sound platform s) (calls : List PlaybackCall)
    : Sound platform (s.calls platform calls) := by
  induction calls generalizing s with
  | nil => exact h
  | cons call calls ih => exact ih (h.call call)

theorem Sound.tick_envelopes (h : Sound platform s) (testNow clockNow : ℚ) (owner : Nat)
    : (s.tick platform testNow clockNow).envelopes owner
      = (s.tick platform testNow clockNow).envelopeProduct platform owner
        (s.sampleTime testNow clockNow) := by
  have htick := h.tick testNow clockNow
  generalize s.tick platform testNow clockNow = t at htick
  have hnominated : t.nominated owner = false := by
    by_contra hmarked
    have hmem := (htick.1.nominations.mem_iff owner).mp (by simpa using hmarked)
    rw [htick.2.2.2] at hmem
    contradiction
  rw [htick.1.current owner hnominated, heldProduct, envelopeProduct]
  apply List.foldl_ext
  intro value slot hslot
  have hmember := (htick.1.routes owner slot).mp hslot
  have hrevision := htick.1.accepted slot (List.ne_nil_of_mem hmember)
  have hclean : (t.authorities slot).dirty = false := by
    by_contra hmarked
    have hmem := (htick.1.dirtied.mem_iff slot).mp (by simpa using hmarked)
    rw [htick.2.2.1] at hmem
    contradiction
  rw [htick.2.1 slot hrevision hclean]

theorem envelopeProduct_exact (hexact : ∀ x, platform.toFloat x = x)
    : s.envelopeProduct platform owner now
      = ((s.byOwner owner).map (fun slot => shutterEnvelope (s.authorities slot).p now)).prod := by
  rw [envelopeProduct, List.prod_eq_foldl, List.foldl_map]
  simp only [hexact]

end

end Peraviz.Presentation.ShutterPlayback

namespace Peraviz.Presentation

open Peraviz.Runtime ShutterPlayback

/-- Playback is exact: in every state that calls lead to the bookkeeping is consistent and exactly the
temporal authorities are active, and a sample leaves the product of the envelopes at its time in
every output, as it is rounded and without rounding. -/
theorem shutterPlayback_exact (platform : Platform) (ids : List Int32) (calls : List PlaybackCall)
    (testNow clockNow : ℚ)
    : let s := (install ids).calls platform calls
      let now := s.sampleTime testNow clockNow
      let sampled := s.tick platform testNow clockNow
      Consistent s
        ∧ (∀ slot, (s.authorities slot).activeSlot.isSome = temporal (s.authorities slot).p)
        ∧ (∀ owner, sampled.envelopes owner = sampled.envelopeProduct platform owner now)
        ∧ ((∀ x, platform.toFloat x = x) → ∀ owner, sampled.envelopes owner
          = ((sampled.byOwner owner).map (fun slot =>
            shutterEnvelope (sampled.authorities slot).p now)).prod) := by
  intro s now sampled
  have hsound : Sound platform s := (sound_install platform ids).calls calls
  refine ⟨hsound.toConsistent, hsound.temporal_iff, hsound.tick_envelopes testNow clockNow, ?_⟩
  intro hexact owner
  exact (hsound.tick_envelopes testNow clockNow owner).trans (envelopeProduct_exact hexact)

/-- A strobe at the time of one flash and a half. -/
theorem shutterPlayback_exact_strobe
    : let s := (install [7]).calls exactPlatform [.ingest [16, 1, 0, 0, 0]
        [1, 7, 1, 2, 1, 0, 5, 1, 3, 0] [some 2, some (1 / 10), some 1, some 1, some 0, some 0, some 0] 0]
      let sampled := s.tick exactPlatform (3 / 4) 0
      sampled.envelopes 0 = ((sampled.byOwner 0).map (fun slot =>
        shutterEnvelope (sampled.authorities slot).p (s.sampleTime (3 / 4) 0))).prod := by
  exact (shutterPlayback_exact exactPlatform [7] _ (3 / 4) 0).2.2.2 (fun _ => rfl) 0

end Peraviz.Presentation
