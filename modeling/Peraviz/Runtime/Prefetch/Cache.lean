import Peraviz.Runtime.Coherence.Cache
import Peraviz.Runtime.Prefetch.Impl

/-!
This module contains the cache of a universe that workers may have filled ahead. Which sources are
valid then differs from a cache that is filled where it is read, and which warnings wait, but not
what the evaluators answer.
-/

namespace Peraviz.Runtime

/-- What is valid of the sources in `Q` was decoded from the frame. -/
structure Cached (ctx : SourceContext) (Q : Nat → Prop) (w : EvaluationWorkspace) : Prop where
  values : ∀ source, Q source → w.invalid source = false → w.values source = ctx.value source
  stamped : w.Stamped

/-- A workspace in an update that has marked these sources and visits these consumers. -/
structure Updating (marks : Nat → Bool) (visited : List Nat) (w : EvaluationWorkspace) : Prop where
  marks : w.sourceChanged = marks
  visit : w.consumers.visit = visited

/-- Two workspaces in one update, whatever each of them has cached before it. -/
structure SameUpdate (marks : Nat → Bool) (visited : List Nat) (w w' : EvaluationWorkspace)
    : Prop where
  left : Updating marks visited w
  right : Updating marks visited w'
  activationCached : w'.activationCached = w.activationCached
  activations : ∀ source, w.activationCached source = true →
    w'.activations source = w.activations source

structure PrefetchAgrees (ctx : SourceContext) (Q : Nat → Prop) (marks : Nat → Bool) (visited : List Nat)
    (s t : EvaluationState) : Prop where
  left : Cached ctx Q s.workspace
  right : Cached ctx Q t.workspace
  update : SameUpdate marks visited s.workspace t.workspace

/-- The states that one side goes through between two activations. -/
structure Filled (ctx : SourceContext) (Q : Nat → Prop) (w : EvaluationWorkspace)
    (s : EvaluationState) : Prop where
  cached : Cached ctx Q s.workspace
  stamps : SameStamps w s.workspace

variable {ctx : SourceContext} {Q : Nat → Prop} {marks : Nat → Bool} {visited : List Nat}

namespace SameStamps

variable {w w' : EvaluationWorkspace}

theorem refl (w : EvaluationWorkspace) : SameStamps w w := ⟨rfl, rfl, rfl, rfl, rfl⟩

theorem trans {w'' : EvaluationWorkspace} (h : SameStamps w w') (h' : SameStamps w' w'')
    : SameStamps w w'' :=
  ⟨h'.generation.trans h.generation, h'.changed.trans h.changed, h'.consumers.trans h.consumers,
    h'.activationGenerations.trans h.activationGenerations, h'.activations.trans h.activations⟩

theorem sourceChanged (h : SameStamps w w') : w'.sourceChanged = w.sourceChanged := by
  funext source
  simp only [EvaluationWorkspace.sourceChanged, h.changed, h.generation]

theorem activationCached (h : SameStamps w w') : w'.activationCached = w.activationCached := by
  funext source
  simp only [EvaluationWorkspace.activationCached, h.activationGenerations, h.generation]

theorem store (source : Nat) (value : EvaluatedSourceValue) : SameStamps w (w.store source value) :=
  ⟨rfl, rfl, rfl, rfl, rfl⟩

end SameStamps

theorem Updating.of_stamps {w w' : EvaluationWorkspace} (h : Updating marks visited w)
    (hstamps : SameStamps w w') : Updating marks visited w' := by
  constructor
  . rw [hstamps.sourceChanged, h.marks]
  . rw [hstamps.consumers, h.visit]

theorem SameUpdate.of_stamps {w w' v v' : EvaluationWorkspace} (h : SameUpdate marks visited w w')
    (hleft : SameStamps w v) (hright : SameStamps w' v') : SameUpdate marks visited v v' := by
  refine ⟨h.left.of_stamps hleft, h.right.of_stamps hright, ?_, ?_⟩
  . rw [hleft.activationCached, hright.activationCached, h.activationCached]
  . intro source hcached
    rw [hleft.activationCached] at hcached
    rw [hleft.activations, hright.activations]
    exact h.activations source hcached

-- Where each side answers what does not depend on its cache, the answers are related.
theorem PrefetchAgrees.coupled {α β : Type} {P : α → β → Prop} {x : EvalM α} {y : EvalM β} {a : α} {b : β}
    (hx : ∀ w, w.sourceChanged = marks → Keeps (Filled ctx Q w) (fun c => c = a) x)
    (hy : ∀ w, w.sourceChanged = marks → Keeps (Filled ctx Q w) (fun c => c = b) y) (hab : P a b)
    : Coupled (PrefetchAgrees ctx Q marks visited) P x y := by
  intro s t h
  obtain ⟨ha, hs⟩ := hx s.workspace h.update.left.marks s ⟨h.left, SameStamps.refl _⟩
  obtain ⟨hb, ht⟩ := hy t.workspace h.update.right.marks t ⟨h.right, SameStamps.refl _⟩
  rw [ha, hb]
  exact ⟨hab, hs.cached, ht.cached, h.update.of_stamps hs.stamps ht.stamps⟩

/-! ### Sources -/

theorem SourceContext.workspace_flushWarnings (ctx : SourceContext) (source : Nat)
    (s : EvaluationState) : (ctx.flushWarnings source s).workspace = s.workspace := by
  unfold SourceContext.flushWarnings
  split
  . rfl
  . simp only [EvaluationState.clearWarnings, EvaluationState.emitSourceWarnings]
    generalize s.prefetchedWarnings source = warnings
    generalize ctx.plan.program source = program
    have hcount := (EvaluationState.quiet_reportByteCount program s).workspace
    cases warnings.byteCount with
    | false =>
      cases warnings.missingByte with
      | false => rfl
      | true => exact (EvaluationState.quiet_reportMissingByte program s).workspace
    | true =>
      cases warnings.missingByte with
      | false => exact hcount
      | true => exact (EvaluationState.quiet_reportMissingByte program _).workspace.trans hcount

theorem SourceContext.workspace_decodeSource (ctx : SourceContext) (source : Nat)
    (s : EvaluationState)
    : (ctx.decodeSource source s).workspace = s.workspace.store source (ctx.value source) := by
  have hquiet := EvaluationState.quiet_readReporting ctx.frame (ctx.plan.program source) s
  have hraw := fst_readReporting ctx.frame (ctx.plan.program source) s
  simp only [SourceContext.decodeSource, EvaluationState.storeSource, hquiet.workspace, hraw]
  rfl

theorem Cached.store {w : EvaluationWorkspace} (h : Cached ctx Q w) (source : Nat)
    : Cached ctx Q (w.store source (ctx.value source)) := by
  refine ⟨?_, h.stamped.store _ _⟩
  intro x hx hvalid
  simp only [EvaluationWorkspace.store, Function.update_apply] at hvalid ⊢
  split
  . next heq => rw [heq]
  . next hne =>
    rw [if_neg hne] at hvalid
    exact h.values x hx hvalid

namespace Filled

variable {w : EvaluationWorkspace}

theorem of_workspace {s s' : EvaluationState} (h : Filled ctx Q w s)
    (hworkspace : s'.workspace = s.workspace) : Filled ctx Q w s' := by
  constructor
  . rw [hworkspace]
    exact h.cached
  . rw [hworkspace]
    exact h.stamps

theorem storeSource {s : EvaluationState} (h : Filled ctx Q w s) (source : Nat)
    (warnings : SourceWarnings)
    : Filled ctx Q w (s.storeSource source (ctx.value source) warnings) :=
  ⟨h.cached.store source, h.stamps.trans (SameStamps.store source _)⟩

theorem evaluateCachedSource {source : Nat} (hsource : Q source)
    : Keeps (Filled ctx Q w) (fun value => value = ctx.value source)
        (ctx.evaluateCachedSource source) := by
  intro s h
  unfold SourceContext.evaluateCachedSource
  dsimp only
  rw [SourceContext.workspace_flushWarnings]
  split
  . constructor
    . rw [SourceContext.workspace_decodeSource]
      exact Function.update_self _ _ _
    . apply (h.storeSource source {}).of_workspace
      rw [SourceContext.workspace_flushWarnings, SourceContext.workspace_decodeSource]
      rfl
  . next hvalid =>
    refine ⟨h.cached.values source hsource (by simpa using hvalid), ?_⟩
    apply h.of_workspace
    apply SourceContext.workspace_flushWarnings

theorem flushWarnings (source : Nat)
    : Keeps (Filled ctx Q w) (fun _ => True) (modify (ctx.flushWarnings source)) := by
  intro s h
  refine ⟨trivial, ?_⟩
  apply h.of_workspace
  apply SourceContext.workspace_flushWarnings

theorem sourceChanged (source : Nat)
    : Keeps (Filled ctx Q w) (fun changed => changed = w.sourceChanged source)
        (sourceChanged source) := by
  intro s h
  exact ⟨congrFun h.stamps.sourceChanged source, h⟩

-- Slots with the values of their sources may be put into the cache, whether they are read or not.
theorem injectSources {prepared : Option PreparedSlots}
    (hslots : ∀ slots, prepared = some slots → ∀ source slot, slots.source? source = some slot →
      slot.value = ctx.value source)
    : Keeps (Filled ctx Q w) (fun _ => True) (injectSources prepared) := by
  intro s h
  refine ⟨trivial, ?_⟩
  unfold Runtime.injectSources
  dsimp only
  generalize s.workspace.changedSources = sources
  induction sources generalizing s with
  | nil => exact h
  | cons source sources ih =>
    apply ih
    dsimp only
    split
    . next slot hslot =>
      obtain ⟨slots, hprepared, hsource⟩ := Option.bind_eq_some_iff.mp hslot
      rw [hslots slots hprepared source slot hsource]
      exact h.storeSource source slot.warnings
    . exact h

end Filled

/-! ### Activations -/

theorem SameUpdate.storeActivation {w w' : EvaluationWorkspace} (h : SameUpdate marks visited w w')
    (source : Nat) (active : Bool)
    : SameUpdate marks visited (w.storeActivation source active) (w'.storeActivation source active) := by
  have hcached := h.activationCached
  refine ⟨⟨h.left.marks, h.left.visit⟩, ⟨h.right.marks, h.right.visit⟩, ?_, ?_⟩
  . funext x
    have := congrFun hcached x
    simp only [EvaluationWorkspace.activationCached, EvaluationWorkspace.storeActivation,
      Function.update_apply] at this ⊢
    split
    . simp
    . exact this
  . intro x hx
    have := h.activations x
    simp only [EvaluationWorkspace.activationCached, EvaluationWorkspace.storeActivation,
      Function.update_apply] at this hx ⊢
    split
    . rfl
    . next hne =>
      rw [if_neg hne] at hx
      exact this hx

namespace PrefetchAgrees

theorem evaluateCachedSource {source : Nat} (hsource : Q source)
    : Coupled (PrefetchAgrees ctx Q marks visited) Eq (ctx.evaluateCachedSource source)
        (ctx.evaluateCachedSource source) := by
  have hkeeps (w : EvaluationWorkspace) (_ : w.sourceChanged = marks)
      : Keeps (Filled ctx Q w) (fun value => value = ctx.value source)
        (ctx.evaluateCachedSource source) := Filled.evaluateCachedSource hsource
  exact PrefetchAgrees.coupled hkeeps hkeeps rfl

theorem evaluateActivation {context : GoboEvaluationContext} (hcontext : context.Within Q)
    : Coupled (PrefetchAgrees ctx Q marks visited) Eq (ctx.evaluateActivation context)
        (ctx.evaluateActivation context) := by
  refine Coupled.bind_eq ?_ ?_
  . apply Coupled.foldlM_eq
    intro entry hentry values
    apply (PrefetchAgrees.evaluateCachedSource (hcontext.2 entry.2 (List.of_mem_zip hentry).2)).bind_eq
    intro value
    apply Coupled.pure
    rfl
  . intro values s t h
    exact ⟨rfl, ⟨h.left.values, h.left.stamped.storeActivation _ _⟩,
      ⟨h.right.values, h.right.stamped.storeActivation _ _⟩, h.update.storeActivation _ _⟩

theorem evaluateCachedActivation {context : GoboEvaluationContext} (hcontext : context.Within Q)
    : Coupled (PrefetchAgrees ctx Q marks visited) Eq (ctx.evaluateCachedActivation context)
        (ctx.evaluateCachedActivation context) := by
  intro s t h
  have hcached := congrFun h.update.activationCached context.front
  unfold SourceContext.evaluateCachedActivation
  rw [hcached]
  split
  . next hactive => exact ⟨(h.update.activations _ hactive).symm, h⟩
  . exact PrefetchAgrees.evaluateActivation hcontext s t h

theorem alike : Alike (PrefetchAgrees ctx Q marks visited) ctx Q where
  source _ hsource := PrefetchAgrees.evaluateCachedSource hsource
  activation _ hcontext := PrefetchAgrees.evaluateCachedActivation hcontext
  changed source _ := by
    intro s t h
    refine ⟨?_, h⟩
    exact (congrFun h.update.left.marks source).trans (congrFun h.update.right.marks source).symm
  report _ := by
    intro s t h
    exact ⟨rfl, h.left, h.right, h.update⟩
  dirty := by
    intro s t h
    refine ⟨?_, h⟩
    simp only [dirtyConsumers, h.update.left.visit, h.update.right.visit]

end PrefetchAgrees

end Peraviz.Runtime
