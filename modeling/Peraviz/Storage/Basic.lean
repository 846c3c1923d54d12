import Mathlib.Logic.Basic

/-!
This module contains the files of a file system as a map from paths to contents, the steps that
change one file, and atomic updates: what a caller may find in a file after it was told that an
update failed or succeeded.
-/

/-- The contents of all files, `none` where there is no file. -/
abbrev Files (π β : Type) : Type := π → Option β

namespace Files

variable {π β : Type}

section

variable [DecidableEq π]

def put (files : Files π β) (path : π) (content : β) : Files π β :=
  fun p => if p = path then some content else files p

def remove (files : Files π β) (path : π) : Files π β :=
  fun p => if p = path then none else files p

/-- A rename over what is at the target, a source that is not there moves nothing. -/
def move (files : Files π β) (source target : π) : Files π β :=
  match files source with
  | some content => (files.remove source).put target content
  | none => files

@[simp]
theorem put_self (files : Files π β) (path : π) (content : β)
    : files.put path content path = some content := by
  simp [put]

@[simp]
theorem put_other (files : Files π β) {path other : π} (content : β) (h : other ≠ path)
    : files.put path content other = files other := by
  simp [put, h]

@[simp]
theorem remove_self (files : Files π β) (path : π) : files.remove path path = none := by
  simp [remove]

@[simp]
theorem remove_other (files : Files π β) {path other : π} (h : other ≠ path)
    : files.remove path other = files other := by
  simp [remove, h]

theorem move_target {files : Files π β} {source : π} {content : β}
    (h : files source = some content) (target : π)
    : files.move source target target = some content := by
  simp [move, h]

end

/--
An update of the file at `target` that answers whether it succeeded, or nothing where it raised: a
failure leaves a file that was there as it was, a success leaves the complete new content.
-/
structure AtomicUpdate (before after : Files π β) (target : π) (complete : β)
    (answer : Option Bool) : Prop where
  failed : answer = some false → ∀ old, before target = some old → after target = some old
  succeeded : answer = some true → after target = some complete

variable {before after : Files π β} {target : π} {complete : β}

theorem atomicUpdate_none : AtomicUpdate before after target complete none := by
  constructor
  . intro h
    contradiction
  . intro h
    contradiction

theorem atomicUpdate_false_iff
    : AtomicUpdate before after target complete (some false)
        ↔ ∀ old, before target = some old → after target = some old := by
  constructor
  . intro h
    exact h.failed rfl
  . intro h
    constructor
    . intro _
      exact h
    . intro htrue
      contradiction

theorem atomicUpdate_true_iff
    : AtomicUpdate before after target complete (some true) ↔ after target = some complete := by
  constructor
  . intro h
    exact h.succeeded rfl
  . intro h
    constructor
    . intro hfalse
      contradiction
    . intro _
      exact h

/-- A failed update that leaves the target alone is atomic. -/
theorem atomicUpdate_of_untouched (h : after target = before target)
    : AtomicUpdate before after target complete (some false) := by
  rw [atomicUpdate_false_iff, h]
  intro old hold
  exact hold

/-- A failed update that leaves no file is atomic only where there was none. -/
theorem atomicUpdate_of_lost_iff (h : after target = none)
    : AtomicUpdate before after target complete (some false) ↔ before target = none := by
  rw [atomicUpdate_false_iff, h, Option.eq_none_iff_forall_ne_some]
  simp

/-- A failed update that leaves another content is atomic only where that content, or no file, was
there before. -/
theorem atomicUpdate_of_left_iff {left : β} (h : after target = some left)
    : AtomicUpdate before after target complete (some false)
        ↔ before target = none ∨ before target = some left := by
  rw [atomicUpdate_false_iff, h]
  cases before target with
  | none => simp
  | some old => simp [eq_comm]

end Files
