import Peraviz.Presentation.ShutterPlayback.Exact

/-!
This module contains what a refused payload leaves behind: a row whose index is not the one of its
authority is found only after the rows before it took effect.
-/

namespace Peraviz.Presentation.ShutterPlayback

open Peraviz.Runtime

def knownIndex (s : ShutterPlayback) (id : Int32) : Option Int32 :=
  (s.authoritySlots id).map (fun slot => (s.authorities slot).index)

def RowRouted (s : ShutterPlayback) (row : PlaybackRow) : Prop := s.owners row.target ≠ none

/-- A row that contradicts what is known of its authority. -/
def RowRefused (s : ShutterPlayback) (row : PlaybackRow) : Prop :=
  RowRouted s row ∧ ∃ index, s.knownIndex row.authority = some index ∧ index ≠ row.index

/-- A row that repeats what playback has already taken in, or that is for none of its outputs. -/
def RowIdle (s : ShutterPlayback) (row : PlaybackRow) : Prop :=
  ∀ owner, s.owners row.target = some owner → s.clockSet = true ∧ ∃ slot,
    s.authoritySlots row.authority = some slot ∧ (s.authorities slot).index = row.index
      ∧ row.p.revision ≤ (s.authorities slot).p.revision ∧ slot ∈ s.byOwner owner

/-- The rows of one authority have one index, which is that of the authority if it is known. -/
structure RowsAgree (s : ShutterPlayback) (rows : List PlaybackRow) : Prop where
  known : ∀ row ∈ rows, RowRouted s row → ∀ index, s.knownIndex row.authority = some index
    → index = row.index
  each : ∀ row ∈ rows, ∀ other ∈ rows, RowRouted s row → RowRouted s other
    → row.authority = other.authority → row.index = other.index

/-- The first row that is not idle contradicts what is known. -/
def RefusedFirst (s : ShutterPlayback) (rows : List PlaybackRow) : Prop :=
  ∃ front row back, rows = front ++ row :: back ∧ (∀ other ∈ front, RowIdle s other)
    ∧ RowRefused s row

/-- What no row takes back. -/
structure Advances (s s' : ShutterPlayback) : Prop where
  clock : s.clockSet = true → s'.clockSet = true
  count : s.authorityCount ≤ s'.authorityCount
  revisions : ∀ slot, (s.authorities slot).p.revision ≤ (s'.authorities slot).p.revision
  associations : s.associations ≤ s'.associations

section

variable {platform : Platform} {s s' s'' : ShutterPlayback} {slot owner : Nat} {row : PlaybackRow}
  {rows : List PlaybackRow} {received : ℚ} {p : ShutterParameters}

theorem Advances.refl : Advances s s where
  clock h := h
  count := le_refl _
  revisions _ := Int32.le_refl _
  associations := le_refl _

theorem Advances.trans (h : Advances s s') (h' : Advances s' s'') : Advances s s'' where
  clock hclock := h'.clock (h.clock hclock)
  count := h.count.trans h'.count
  revisions slot := Int32.le_trans (h.revisions slot) (h'.revisions slot)
  associations := h.associations.trans h'.associations

/-! ### One row -/

theorem accept_frame (s : ShutterPlayback) (slot : Nat) (p : ShutterParameters)
    : ∃ authorities active dirtyAuthorities layers outputs, s.accept slot p = { s with
        authorities := authorities
        active := active
        dirtyAuthorities := dirtyAuthorities
        activeLayers := layers
        activeOutputs := outputs } := by
  by_cases hnewer : (s.authorities slot).p.revision < p.revision
  . obtain ⟨_, _, _, _, hswitch⟩ := switched_frame s slot p
    obtain ⟨_, _, hlater⟩ := evaluateLater_frame (s.switched slot p) slot
    rw [accept_eq hnewer, hlater, hswitch]
    exact ⟨_, _, _, _, _, rfl⟩
  . rw [accept, if_neg hnewer]
    exact ⟨_, _, _, _, _, rfl⟩

theorem index_accept (h : Consistent s) (hslot : slot < s.authorityCount) (a : Nat)
    : ((s.accept slot p).authorities a).index = (s.authorities a).index := by
  by_cases hnewer : (s.authorities slot).p.revision < p.revision
  . have hswitched := (@Consistent.switched s slot p h hslot).2
    rw [accept_eq hnewer, field_evaluateLater PlaybackAuthority.index (fun _ => rfl)]
    by_cases ha : a = slot
    . obtain ⟨_, hown, _⟩ := hswitched.own
      rw [ha, hown]
    . obtain ⟨_, hother, _⟩ := hswitched.others a ha
      rw [hother]
  . rw [accept, if_neg hnewer]

theorem revision_accept (h : Consistent s) (hslot : slot < s.authorityCount) (a : Nat)
    : ((s.accept slot p).authorities a).p.revision
      = if a = slot ∧ (s.authorities slot).p.revision < p.revision then p.revision
        else (s.authorities a).p.revision := by
  by_cases hnewer : (s.authorities slot).p.revision < p.revision
  . have hswitched := (@Consistent.switched s slot p h hslot).2
    rw [accept_eq hnewer, field_evaluateLater PlaybackAuthority.p (fun _ => rfl)]
    by_cases ha : a = slot
    . obtain ⟨_, hown, _⟩ := hswitched.own
      rw [if_pos ⟨ha, hnewer⟩, ha, hown]
    . obtain ⟨_, hother, _⟩ := hswitched.others a ha
      rw [if_neg (fun hand => ha hand.1), hother]
  . rw [accept, if_neg hnewer, if_neg (fun hand => hnewer hand.2)]

theorem associate_frame (s : ShutterPlayback) (slot owner : Nat)
    : ∃ authorities byOwner associations layers outputs nominated force dirty,
        s.associate slot owner = { s with
          authorities := authorities
          byOwner := byOwner
          associations := associations
          activeLayers := layers
          activeOutputs := outputs
          nominated := nominated
          force := force
          dirty := dirty }
        ∧ (∀ a, (authorities a).index = (s.authorities a).index
          ∧ (authorities a).p = (s.authorities a).p)
        ∧ associations = if slot ∈ s.byOwner owner then s.associations else s.associations + 1 := by
  by_cases hmem : slot ∈ s.byOwner owner
  . rw [associate, if_pos hmem, if_pos hmem]
    exact ⟨_, _, _, _, _, _, _, _, rfl, fun _ => ⟨rfl, rfl⟩, rfl⟩
  . have hactivity : ∃ layers outputs,
        (if ((s.withRoute slot owner).authorities slot).activeSlot.isSome then
          activity true (s.withRoute slot owner) owner else s.withRoute slot owner)
          = { s.withRoute slot owner with activeLayers := layers, activeOutputs := outputs } := by
      split
      . exact activity_frame true _ owner
      . exact ⟨_, _, rfl⟩
    obtain ⟨layers, outputs, hlayers⟩ := hactivity
    have hassociate : s.associate slot owner
        = (if ((s.withRoute slot owner).authorities slot).activeSlot.isSome then
          activity true (s.withRoute slot owner) owner
            else s.withRoute slot owner).nominate true owner := by
      rw [associate, if_neg hmem]
      rfl
    rw [hlayers] at hassociate
    obtain ⟨nominated, force, dirty, hframe⟩ := (@nominates_nominate { s.withRoute slot owner with
      activeLayers := layers, activeOutputs := outputs } owner true).frame
    rw [hassociate, hframe, if_neg hmem]
    refine ⟨_, _, _, _, _, _, _, _, rfl, fun a => ⟨?_, ?_⟩, rfl⟩
    . exact field_modifySlot PlaybackAuthority.index rfl a
    . exact field_modifySlot PlaybackAuthority.p rfl a

theorem ingestRow_refused (h : RowRefused s row) : s.ingestRow received row = (s, false) := by
  obtain ⟨hrouted, index, hindex, hne⟩ := h
  rw [ingestRow]
  cases howner : s.owners row.target with
  | none => exact absurd howner hrouted
  | some owner =>
    cases hslot : s.authoritySlots row.authority with
    | none =>
      rw [knownIndex, hslot] at hindex
      contradiction
    | some slot =>
      rw [knownIndex, hslot, Option.map_some] at hindex
      have hadmitted : s.admitRow row = (s, slot) := by
        rw [admitRow, hslot]
      dsimp only
      rw [hadmitted]
      dsimp only
      rw [if_pos]
      rw [Option.some.inj hindex]
      exact hne

theorem ingestRow_idle (h : RowIdle s row) : s.ingestRow received row = (s, true) := by
  rw [ingestRow]
  cases howner : s.owners row.target with
  | none => rfl
  | some owner =>
    obtain ⟨hclock, slot, hslot, hindex, hrevision, hroute⟩ := h owner howner
    have hadmitted : s.admitRow row = (s, slot) := by
      rw [admitRow, hslot]
    have hset : s.setClock received row = s := by
      rw [setClock, if_pos hclock]
    have haccept : s.accept slot row.p = s := by
      rw [accept, if_neg (Int32.not_lt.mpr hrevision)]
    dsimp only
    rw [hadmitted]
    dsimp only
    rw [if_neg (not_not.mpr hindex), hset, haccept, associate, if_pos hroute]

/-- What a row that is neither refused nor idle does. -/
structure Progresses (s s' : ShutterPlayback) (row : PlaybackRow) : Prop where
  advances : Advances s s'
  strictly : ¬Advances s' s
  owners : s'.owners = s.owners
  known : ∀ id, s'.knownIndex id
    = if id = row.authority then some row.index else s.knownIndex id

theorem advances_setClock : Advances s (s.setClock received row)
    ∧ (s.setClock received row).clockSet = true := by
  rw [setClock]
  split
  next hclock => exact ⟨Advances.refl, hclock⟩
  next =>
    refine ⟨?_, rfl⟩
    constructor
    . intro _
      rfl
    . exact le_refl _
    . intro slot
      exact Int32.le_refl _
    . exact le_refl _

theorem advances_accept (h : Consistent s) (hslot : slot < s.authorityCount)
    : Advances s (s.accept slot p) := by
  obtain ⟨_, _, _, _, _, hframe⟩ := accept_frame s slot p
  constructor
  . intro hclock
    rw [hframe]
    exact hclock
  . rw [hframe]
  . intro a
    rw [revision_accept h hslot]
    split
    next hnewer =>
      rw [hnewer.1]
      exact Int32.le_of_lt hnewer.2
    next => exact Int32.le_refl _
  . rw [hframe]

theorem advances_associate : Advances s (s.associate slot owner) := by
  obtain ⟨_, _, _, _, _, _, _, _, hframe, hauthorities, hassociations⟩ :=
    associate_frame s slot owner
  constructor
  . intro hclock
    rw [hframe]
    exact hclock
  . rw [hframe]
  . intro a
    rw [hframe]
    dsimp only
    rw [(hauthorities a).2]
    exact Int32.le_refl _
  . rw [hframe]
    dsimp only
    rw [hassociations]
    split
    . exact le_refl _
    . exact Nat.le_succ _

theorem admitRow_known (h : Consistent s) (hrefused : ∀ index, s.knownIndex row.authority = some index
      → index = row.index) (id : Int32)
    : (s.admitRow row).1.knownIndex id
      = if id = row.authority then some row.index else s.knownIndex id := by
  rw [admitRow]
  cases hslot : s.authoritySlots row.authority with
  | some slot =>
    dsimp only
    split
    next heq =>
      have hknown : s.knownIndex row.authority = some (s.authorities slot).index := by
        rw [knownIndex, hslot]
        rfl
      rw [heq, hknown, hrefused _ hknown]
    next => rfl
  | none =>
    dsimp only [knownIndex]
    split
    next heq => rw [heq, Function.update_self, Option.map_some, Function.update_self]
    next hne =>
      rw [Function.update_of_ne hne]
      cases hother : s.authoritySlots id with
      | none => rfl
      | some slot =>
        have hlt := ((h.slots id slot).mp hother).1
        rw [Option.map_some, Option.map_some, Function.update_of_ne (by omega)]

theorem advances_admitRow (h : Consistent s) : Advances s (s.admitRow row).1 := by
  have hp := field_admitRow PlaybackAuthority.p h row rfl
  constructor
  . intro hclock
    obtain ⟨_, _, _, hframe⟩ := admitRow_frame s row
    rw [hframe]
    exact hclock
  . rw [admitRow]
    split
    . exact le_refl _
    . exact Nat.le_succ _
  . intro slot
    rw [hp]
    exact Int32.le_refl _
  . obtain ⟨_, _, _, hframe⟩ := admitRow_frame s row
    rw [hframe]

theorem idle_of_back (h : Consistent s)
    (hindex : ∀ index, s.knownIndex row.authority = some index → index = row.index)
    (hback : Advances ((((s.admitRow row).1.setClock received row).accept (s.admitRow row).2
      row.p).associate (s.admitRow row).2 owner) s)
    : s.clockSet = true ∧ ∃ slot, s.authoritySlots row.authority = some slot
        ∧ (s.authorities slot).index = row.index
        ∧ row.p.revision ≤ (s.authorities slot).p.revision ∧ slot ∈ s.byOwner owner := by
  obtain ⟨_, _, _, _, _, haccept⟩ := accept_frame ((s.admitRow row).1.setClock received row)
    (s.admitRow row).2 row.p
  obtain ⟨_, _, _, _, _, _, _, _, hassociate, hauthorities, hassociations⟩ := associate_frame
    (((s.admitRow row).1.setClock received row).accept (s.admitRow row).2 row.p) (s.admitRow row).2 owner
  obtain ⟨_, _, hclock⟩ := setClock_frame (s.admitRow row).1 received row
  have hset : s.clockSet = true := by
    apply hback.clock
    rw [hassociate, haccept]
    exact advances_setClock.2
  refine ⟨hset, ?_⟩
  cases hslots : s.authoritySlots row.authority with
  | none =>
    have hcount := hback.count
    rw [hassociate, haccept, hclock, admitRow, hslots] at hcount
    exact absurd hcount (Nat.not_succ_le_self _)
  | some slot =>
    have hadmitted : s.admitRow row = (s, slot) := by
      rw [admitRow, hslots]
    have hsame : s.setClock received row = s := by
      rw [setClock, if_pos hset]
    have hslot := ((h.slots _ _).mp hslots).1
    rw [hadmitted] at hback hassociate hauthorities hassociations
    dsimp only at hback hassociate hauthorities hassociations
    rw [hsame] at hback hassociate hauthorities hassociations
    refine ⟨slot, rfl, ?_, ?_, ?_⟩
    . apply hindex
      rw [knownIndex, hslots]
      rfl
    . have hrevision := hback.revisions slot
      rw [hassociate] at hrevision
      dsimp only at hrevision
      rw [(hauthorities slot).2, revision_accept h hslot] at hrevision
      by_contra hnewer
      rw [if_pos ⟨rfl, Int32.not_le.mp hnewer⟩] at hrevision
      exact hnewer hrevision
    . have hcount := hback.associations
      obtain ⟨_, _, _, _, _, haccepted⟩ := accept_frame s slot row.p
      rw [hassociate] at hcount
      dsimp only at hcount
      rw [hassociations, haccepted] at hcount
      by_contra hmem
      rw [if_neg hmem] at hcount
      exact absurd hcount (Nat.not_succ_le_self _)

theorem ingestRow_progresses (h : Sound platform s) (hrefused : ¬RowRefused s row)
    (hidle : ¬RowIdle s row)
    : ∃ s', s.ingestRow received row = (s', true) ∧ Progresses s s' row := by
  rw [RowIdle] at hidle
  push Not at hidle
  obtain ⟨owner, howner, hidle⟩ := hidle
  have hindex : ∀ index, s.knownIndex row.authority = some index → index = row.index := by
    intro index hknown
    by_contra hne
    exact hrefused ⟨by rw [RowRouted, howner]; exact Option.some_ne_none _, index, hknown, hne⟩
  have hknown := admitRow_known h.toConsistent hindex
  have hadmitted := h.toConsistent.admitRow row
  have hset := (h.admitRow row).setClock received row
  obtain ⟨_, _, hclock⟩ := setClock_frame (s.admitRow row).1 received row
  have hslot : (s.admitRow row).2 < ((s.admitRow row).1.setClock received row).authorityCount := by
    rw [hclock]
    exact hadmitted.2
  obtain ⟨_, _, _, _, _, haccept⟩ := accept_frame ((s.admitRow row).1.setClock received row)
    (s.admitRow row).2 row.p
  obtain ⟨_, byOwner, _, _, _, _, _, _, hassociate, hauthorities, hassociations⟩ := associate_frame
    (((s.admitRow row).1.setClock received row).accept (s.admitRow row).2 row.p) (s.admitRow row).2 owner
  have hslots : (s.admitRow row).1.authoritySlots row.authority = some (s.admitRow row).2 := by
    rw [admitRow]
    split
    next hsome => exact hsome
    next => exact Function.update_self _ _ _
  have hrowIndex : ((s.admitRow row).1.authorities (s.admitRow row).2).index = row.index := by
    have hrow := hknown row.authority
    rw [if_pos rfl, knownIndex, hslots] at hrow
    exact Option.some.inj hrow
  have hresult : s.ingestRow received row = ((((s.admitRow row).1.setClock received row).accept
      (s.admitRow row).2 row.p).associate (s.admitRow row).2 owner, true) := by
    rw [ingestRow, howner]
    dsimp only
    rw [if_neg (not_not.mpr hrowIndex)]
  refine ⟨_, hresult, ?_⟩
  have hadvances : Advances s ((((s.admitRow row).1.setClock received row).accept
      (s.admitRow row).2 row.p).associate (s.admitRow row).2 owner) :=
    (advances_admitRow h.toConsistent).trans (advances_setClock.1.trans
      ((advances_accept hset.toConsistent hslot).trans advances_associate))
  refine ⟨hadvances, ?_, ?_, ?_⟩
  . intro hback
    obtain ⟨hset, slot, hslots, hrow, hrevision, hmem⟩ := idle_of_back h.toConsistent hindex hback
    exact hidle hset slot hslots hrow hrevision hmem
  . obtain ⟨_, _, _, hframe⟩ := admitRow_frame s row
    rw [hassociate, haccept, hclock, hframe]
  . intro id
    rw [← hknown]
    have hsame : ∀ a, (((((s.admitRow row).1.setClock received row).accept (s.admitRow row).2
        row.p).associate (s.admitRow row).2 owner).authorities a).index
          = ((s.admitRow row).1.authorities a).index := by
      intro a
      have haccepted := @index_accept _ _ row.p hset.toConsistent hslot a
      rw [hassociate]
      dsimp only
      rw [(hauthorities a).1, haccepted, hclock]
    rw [knownIndex, knownIndex]
    simp only [hsame]
    rw [hassociate, haccept, hclock]

/-! ### All rows -/

theorem rowsAgree_unrouted (h : ¬RowRouted s row) : RowsAgree s (row :: rows) ↔ RowsAgree s rows := by
  constructor
  . intro hagree
    constructor
    . intro other hother
      exact hagree.known other (by simp [hother])
    . intro other hother another hanother
      exact hagree.each other (by simp [hother]) another (by simp [hanother])
  . intro hagree
    constructor
    . intro other hother hrouted
      cases List.mem_cons.mp hother with
      | inl heq =>
        rw [heq] at hrouted
        contradiction
      | inr hmem => exact hagree.known other hmem hrouted
    . intro other hother another hanother hrouted hrouted'
      cases List.mem_cons.mp hother with
      | inl heq =>
        rw [heq] at hrouted
        contradiction
      | inr hmem =>
        cases List.mem_cons.mp hanother with
        | inl heq =>
          rw [heq] at hrouted'
          contradiction
        | inr hmem' => exact hagree.each other hmem another hmem' hrouted hrouted'

theorem rowsAgree_cons (hrouted : RowRouted s row) (howners : s'.owners = s.owners)
    (hknown : ∀ id, s'.knownIndex id
      = if id = row.authority then some row.index else s.knownIndex id)
    (hindex : ∀ index, s.knownIndex row.authority = some index → index = row.index)
    : RowsAgree s (row :: rows) ↔ RowsAgree s' rows := by
  have hroutes : ∀ other, RowRouted s' other ↔ RowRouted s other := by
    intro other
    rw [RowRouted, RowRouted, howners]
  constructor
  . intro hagree
    constructor
    . intro other hother hother' index hsome
      have hother' := (hroutes other).mp hother'
      rw [hknown] at hsome
      split at hsome
      next heq =>
        rw [← Option.some.inj hsome]
        exact hagree.each row (by simp) other (by simp [hother]) hrouted hother' heq.symm
      next => exact hagree.known other (by simp [hother]) hother' index hsome
    . intro other hother another hanother hrouted hrouted'
      exact hagree.each other (by simp [hother]) another (by simp [hanother])
        ((hroutes other).mp hrouted) ((hroutes another).mp hrouted')
  . intro hagree
    have hsame : ∀ other ∈ rows, RowRouted s other → other.authority = row.authority
        → row.index = other.index := by
      intro other hother hrouted heq
      apply hagree.known other hother ((hroutes other).mpr hrouted)
      rw [hknown, if_pos heq]
    constructor
    . intro other hother hother' index hsome
      cases List.mem_cons.mp hother with
      | inl heq =>
        rw [heq] at hsome ⊢
        exact hindex index hsome
      | inr hmem =>
        by_cases heq : other.authority = row.authority
        . rw [heq] at hsome
          rw [hindex index hsome]
          exact hsame other hmem hother' heq
        . apply hagree.known other hmem ((hroutes other).mpr hother')
          rw [hknown, if_neg heq]
          exact hsome
    . intro other hother another hanother hrouted hrouted' heq
      cases List.mem_cons.mp hother with
      | inl hrow =>
        cases List.mem_cons.mp hanother with
        | inl hrow' => rw [hrow, hrow']
        | inr hmem' =>
          rw [hrow] at heq ⊢
          exact hsame another hmem' hrouted' heq.symm
      | inr hmem =>
        cases List.mem_cons.mp hanother with
        | inl hrow' =>
          rw [hrow'] at heq ⊢
          exact (hsame other hmem hrouted heq).symm
        | inr hmem' =>
          exact hagree.each other hmem another hmem' ((hroutes other).mpr hrouted)
            ((hroutes another).mpr hrouted') heq

theorem RowIdle.known (h : RowIdle s row) (hrouted : RowRouted s row)
    : s.knownIndex row.authority = some row.index := by
  cases howner : s.owners row.target with
  | none => exact absurd howner hrouted
  | some owner =>
    obtain ⟨_, slot, hslot, hindex, _⟩ := h owner howner
    rw [knownIndex, hslot, Option.map_some, hindex]

theorem ingestRows_cons {accepted : Bool} (h : s.ingestRow received row = (s', accepted))
    : s.ingestRows received (row :: rows)
      = if accepted then s'.ingestRows received rows else (s', false) := by
  rw [ingestRows, h]
  cases accepted with
  | true => rfl
  | false => rfl

theorem advances_ingestRows (h : Sound platform s) (hrevisions : ∀ row ∈ rows, 0 < row.p.revision)
    : Advances s (s.ingestRows received rows).1 := by
  induction rows generalizing s with
  | nil => exact Advances.refl
  | cons row rows ih =>
    have hrest := fun other hother => hrevisions other (List.mem_cons_of_mem row hother)
    by_cases hrefused : RowRefused s row
    . rw [ingestRows_cons (ingestRow_refused hrefused)]
      exact Advances.refl
    . by_cases hidle : RowIdle s row
      . rw [ingestRows_cons (ingestRow_idle hidle)]
        exact ih h hrest
      . obtain ⟨s', hs', hprogresses⟩ := @ingestRow_progresses _ _ _ received h hrefused hidle
        have hsound := h.ingestRow (hrevisions row (by simp)) received
        rw [hs'] at hsound
        rw [ingestRows_cons hs']
        exact hprogresses.advances.trans (ih hsound hrest)

theorem ingestRows_accepts (h : Sound platform s) (hrevisions : ∀ row ∈ rows, 0 < row.p.revision)
    : (s.ingestRows received rows).2 = true ↔ RowsAgree s rows := by
  induction rows generalizing s with
  | nil =>
    constructor
    . intro _
      constructor
      . intro row hrow
        contradiction
      . intro row hrow
        contradiction
    . intro _
      rfl
  | cons row rows ih =>
    have hrest := fun other hother => hrevisions other (List.mem_cons_of_mem row hother)
    by_cases hrefused : RowRefused s row
    . rw [ingestRows_cons (ingestRow_refused hrefused)]
      constructor
      . intro hfalse
        contradiction
      . intro hagree
        obtain ⟨hrouted, index, hindex, hne⟩ := hrefused
        exact absurd (hagree.known row (by simp) hrouted index hindex) hne
    . have hindex : RowRouted s row → ∀ index, s.knownIndex row.authority = some index
          → index = row.index := by
        intro hrouted index hknown
        by_contra hne
        exact hrefused ⟨hrouted, index, hknown, hne⟩
      by_cases hidle : RowIdle s row
      . rw [ingestRows_cons (ingestRow_idle hidle), if_pos rfl, ih h hrest]
        by_cases hrouted : RowRouted s row
        . refine (rowsAgree_cons hrouted rfl ?_ (hindex hrouted)).symm
          intro id
          split
          next heq => rw [heq, hidle.known hrouted]
          next => rfl
        . exact (rowsAgree_unrouted hrouted).symm
      . obtain ⟨s', hs', hprogresses⟩ := @ingestRow_progresses _ _ _ received h hrefused hidle
        have hsound := h.ingestRow (hrevisions row (by simp)) received
        rw [hs'] at hsound
        have hrouted : RowRouted s row := by
          intro hnone
          apply hidle
          intro owner howner
          rw [hnone] at howner
          contradiction
        rw [ingestRows_cons hs', if_pos rfl, ih hsound hrest]
        exact (rowsAgree_cons hrouted hprogresses.owners hprogresses.known (hindex hrouted)).symm

theorem ingestRows_refuses (h : Sound platform s) (hrevisions : ∀ row ∈ rows, 0 < row.p.revision)
    : s.ingestRows received rows = (s, false) ↔ RefusedFirst s rows := by
  induction rows generalizing s with
  | nil =>
    constructor
    . intro hfalse
      exact absurd (congrArg Prod.snd hfalse).symm Bool.false_ne_true
    . intro hfirst
      obtain ⟨front, row, back, hrows, _⟩ := hfirst
      simp at hrows
  | cons row rows ih =>
    have hrest := fun other hother => hrevisions other (List.mem_cons_of_mem row hother)
    by_cases hrefused : RowRefused s row
    . rw [ingestRows_cons (ingestRow_refused hrefused)]
      constructor
      . intro _
        refine ⟨[], row, rows, rfl, ?_, hrefused⟩
        intro other hother
        contradiction
      . intro _
        rfl
    . by_cases hidle : RowIdle s row
      . rw [ingestRows_cons (ingestRow_idle hidle), if_pos rfl, ih h hrest]
        constructor
        . intro hfirst
          obtain ⟨front, other, back, hrows, hfront, hother⟩ := hfirst
          refine ⟨row :: front, other, back, by rw [hrows]; rfl, ?_, hother⟩
          intro another hanother
          cases List.mem_cons.mp hanother with
          | inl heq =>
            rw [heq]
            exact hidle
          | inr hmem => exact hfront another hmem
        . intro hfirst
          obtain ⟨front, other, back, hrows, hfront, hother⟩ := hfirst
          cases front with
          | nil =>
            rw [List.nil_append, List.cons.injEq] at hrows
            rw [← hrows.1] at hother
            contradiction
          | cons first front =>
            rw [List.cons_append, List.cons.injEq] at hrows
            exact ⟨front, other, back, hrows.2,
              fun another hanother => hfront another (by simp [hanother]), hother⟩
      . obtain ⟨s', hs', hprogresses⟩ := @ingestRow_progresses _ _ _ received h hrefused hidle
        have hsound := h.ingestRow (hrevisions row (by simp)) received
        rw [hs'] at hsound
        rw [ingestRows_cons hs', if_pos rfl]
        constructor
        . intro hback
          have hadvances := @advances_ingestRows _ _ _ received hsound hrest
          rw [hback] at hadvances
          exact absurd hadvances hprogresses.strictly
        . intro hfirst
          obtain ⟨front, other, back, hrows, hfront, hother⟩ := hfirst
          cases front with
          | nil =>
            rw [List.nil_append, List.cons.injEq] at hrows
            rw [← hrows.1] at hother
            contradiction
          | cons first front =>
            rw [List.cons_append, List.cons.injEq] at hrows
            have hfirst := hfront first (by simp)
            rw [← hrows.1] at hfirst
            contradiction

end

end Peraviz.Presentation.ShutterPlayback

namespace Peraviz.Presentation

open Peraviz.Runtime ShutterPlayback

/-- A refused payload leaves playback as it was if and only if it is refused in the first loop, or its
rows agree on the indices of their authorities, or nothing took effect before the first row that
contradicts what is known. -/
theorem ingest_refused_iff (platform : Platform) (ids : List Int32) (calls : List PlaybackCall)
    (d ints : List Int32) (v : List Scalar) (received : ℚ)
    : let s := (install ids).calls platform calls
      ((s.ingest d ints v received).2 = false → (s.ingest d ints v received).1 = s)
        ↔ ∀ rows, payloadRows d ints v = some rows → RowsAgree s rows ∨ RefusedFirst s rows := by
  intro s
  have hsound : Sound platform s := (sound_install platform ids).calls calls
  rw [ingest]
  cases hpayload : payloadRows d ints v with
  | none =>
    constructor
    . intro _ rows hrows
      contradiction
    . intro _ _
      rfl
  | some rows =>
    have haccepts := @ingestRows_accepts _ _ _ received hsound (payloadRows_revision hpayload)
    have hrefuses := @ingestRows_refuses _ _ _ received hsound (payloadRows_revision hpayload)
    dsimp only
    constructor
    . intro hatomic others hothers
      rw [← Option.some.inj hothers]
      cases hresult : (s.ingestRows received rows).2 with
      | true => exact Or.inl (haccepts.mp hresult)
      | false =>
        right
        apply hrefuses.mp
        exact Prod.ext (hatomic hresult) hresult
    . intro hcondition hfalse
      cases hcondition rows rfl with
      | inl hagree =>
        rw [haccepts.mpr hagree] at hfalse
        contradiction
      | inr hfirst => rw [hrefuses.mpr hfirst]

/-- Two rows of one authority with two indices: the payload is refused, and the authority of the first
row has been installed. -/
theorem exists_ingest_partial
    : let s := install [7]
      let result := s.ingest [16, 2, 0, 0, 0]
        [1, 7, 1, 2, 1, 0, 5, 1, 3, 0, 1, 7, 2, 2, 1, 0, 5, 1, 3, 0]
        (List.replicate 14 (some 1)) 0
      result.2 = false ∧ result.1 ≠ s := by
  refine ⟨by decide +kernel, ?_⟩
  intro h
  have hcount := congrArg ShutterPlayback.authorityCount h
  revert hcount
  decide +kernel

end Peraviz.Presentation
