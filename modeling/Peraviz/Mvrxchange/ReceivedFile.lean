import Peraviz.Mvrxchange.Json
import Peraviz.Storage.Basic

/-!
This module contains the writing of a received MVR file: a `.part` file takes the payload, the old
file is removed and the `.part` file renamed, and each call to the file system can fail.
-/

namespace Peraviz.Mvrxchange

/-- What the calls of one write meet. The bytes that a failed `write` or flush of the stream gets
into the file are given by their number. -/
structure WriteFaults where
  createDirectories : Bool := false
  openPart : Bool := false
  write : Option Nat := none
  close : Option Nat := none
  removeTarget : Bool := false
  rename : Bool := false
  removePart : Bool := false

/-- `returned` is `none` where `create_directories` throws. -/
structure WriteResult where
  files : Files (List UInt8) (List UInt8)
  returned : Option Bool
  error : Option (List UInt8)

def looksLikeZip (payload : List UInt8) : Bool :=
  4 ≤ payload.length && (ascii "PK").isPrefixOf payload

def containsGeneralSceneDescription (payload : List UInt8) : Bool :=
  containsText (ascii "GeneralSceneDescription.xml") payload

/-- The error of the checks in front of the first call. -/
def payloadError (targetPath payload : List UInt8) : Option (List UInt8) :=
  if targetPath = [] then some (ascii "Missing target path")
  else if payload = [] then some (ascii "Received MVR payload is empty")
  else if looksLikeZip payload = false then
    some (ascii "Received payload does not look like a ZIP/MVR file")
  else if containsGeneralSceneDescription payload = false then
    some (ascii "Received MVR archive is missing GeneralSceneDescription.xml")
  else none

def partPathOf (targetPath : List UInt8) : List UInt8 :=
  targetPath ++ ascii ".part"

def keptBytes (fault : Option Nat) (bytes : List UInt8) : List UInt8 :=
  match fault with
  | some kept => bytes.take kept
  | none => bytes

/-- What the `.part` file holds when the stream is gone. Its state is not looked at. -/
def storedBytes (faults : WriteFaults) (payload : List UInt8) : List UInt8 :=
  keptBytes faults.close (keptBytes faults.write payload)

/-- The part behind the creation of the `.part` file. -/
def finalizeFile (faults : WriteFaults) (files : Files (List UInt8) (List UInt8))
    (targetPath payload : List UInt8) : WriteResult :=
  let partPath := partPathOf targetPath
  let written := files.put partPath (storedBytes faults payload)
  let removed := if faults.removeTarget then written else written.remove targetPath
  if faults.rename then
    { files := if faults.removePart then removed else removed.remove partPath
      returned := some false
      error := some (ascii "Unable to finalize received MVR file") }
  else
    { files := removed.move partPath targetPath, returned := some true, error := none }

def writeCompletedMvrFile (faults : WriteFaults) (files : Files (List UInt8) (List UInt8))
    (targetPath payload : List UInt8) : WriteResult :=
  match payloadError targetPath payload with
  | some error => { files, returned := some false, error := some error }
  | none =>
    if faults.createDirectories then { files, returned := none, error := none }
    else if faults.openPart then
      { files, returned := some false, error := some (ascii "Unable to create temporary MVR file") }
    else finalizeFile faults files targetPath payload

/-- The call gets as far as the removal of the old file. -/
def ReachesTarget (faults : WriteFaults) (targetPath payload : List UInt8) : Prop :=
  payloadError targetPath payload = none ∧ faults.createDirectories = false ∧
    faults.openPart = false

theorem partPathOf_ne (targetPath : List UInt8) : partPathOf targetPath ≠ targetPath := by
  intro h
  have hlength := congrArg List.length h
  have hpart : (ascii ".part").length = 5 := by decide +kernel
  rw [partPathOf, List.length_append, hpart] at hlength
  omega

section

variable (faults : WriteFaults) (files : Files (List UInt8) (List UInt8))
  (targetPath payload : List UInt8)

/-- After a failed rename the target is there only if its removal failed too. -/
theorem target_of_failed_rename (h : faults.rename = true)
    : (finalizeFile faults files targetPath payload).returned = some false
        ∧ (finalizeFile faults files targetPath payload).files targetPath
            = if faults.removeTarget then files targetPath else none := by
  have hpart := (partPathOf_ne targetPath).symm
  simp only [finalizeFile, h, if_true]
  cases faults.removeTarget with
  | true =>
    cases faults.removePart with
    | true => simp [hpart]
    | false => simp [hpart]
  | false =>
    cases faults.removePart with
    | true => simp
    | false => simp [hpart]

theorem target_of_rename (h : faults.rename = false)
    : (finalizeFile faults files targetPath payload).returned = some true
        ∧ (finalizeFile faults files targetPath payload).files targetPath
            = some (storedBytes faults payload) := by
  have hpart := partPathOf_ne targetPath
  simp only [finalizeFile, h, Bool.false_eq_true, if_false, true_and]
  apply Files.move_target
  cases faults.removeTarget with
  | true => simp
  | false => simp [hpart]

theorem atomic_finalizeFile_iff
    : Files.AtomicUpdate files (finalizeFile faults files targetPath payload).files targetPath
          payload (finalizeFile faults files targetPath payload).returned
        ↔ (faults.rename = true ∧ (faults.removeTarget = true ∨ files targetPath = none))
          ∨ (faults.rename = false ∧ storedBytes faults payload = payload) := by
  cases hrename : faults.rename with
  | true =>
    have hresult := target_of_failed_rename faults files targetPath payload hrename
    rw [hresult.1]
    cases hremove : faults.removeTarget with
    | true =>
      rw [hremove, if_pos rfl] at hresult
      simp [Files.atomicUpdate_of_untouched hresult.2]
    | false =>
      rw [hremove, if_neg (by decide)] at hresult
      simp [Files.atomicUpdate_of_lost_iff hresult.2]
  | false =>
    have hresult := target_of_rename faults files targetPath payload hrename
    rw [hresult.1, Files.atomicUpdate_true_iff, hresult.2]
    simp

/-- The write is atomic exactly when it stops in front of the removal, or the rename fails where no
old file was removed, or the rename succeeds on a `.part` file that took every byte. -/
theorem writeCompletedMvrFile_atomic_iff
    : Files.AtomicUpdate files (writeCompletedMvrFile faults files targetPath payload).files
          targetPath payload (writeCompletedMvrFile faults files targetPath payload).returned
        ↔ ¬ ReachesTarget faults targetPath payload
          ∨ (faults.rename = true ∧ (faults.removeTarget = true ∨ files targetPath = none))
          ∨ (faults.rename = false ∧ storedBytes faults payload = payload) := by
  unfold writeCompletedMvrFile
  split
  next error herror =>
    have hatomic : Files.AtomicUpdate files files targetPath payload (some false) :=
      Files.atomicUpdate_of_untouched rfl
    simp [ReachesTarget, herror, hatomic]
  next hnone =>
    split
    next hdirectories => simp [ReachesTarget, hdirectories, Files.atomicUpdate_none]
    next hdirectories =>
      split
      next hopen =>
        have hatomic : Files.AtomicUpdate files files targetPath payload (some false) :=
          Files.atomicUpdate_of_untouched rfl
        simp [ReachesTarget, hopen, hatomic]
      next hopen =>
        rw [atomic_finalizeFile_iff]
        simp [ReachesTarget, hnone, hdirectories, hopen]

end

def mvrPayload : List UInt8 := ascii "PK..GeneralSceneDescription.xml"

def oldFiles : Files (List UInt8) (List UInt8) :=
  fun path => if path = ascii "/mvr/a.mvr" then some (ascii "old") else none

/-- A rename that fails behind a removal that succeeded loses the old file. -/
theorem failedRename_loses
    : ¬ Files.AtomicUpdate oldFiles
        (writeCompletedMvrFile { rename := true } oldFiles (ascii "/mvr/a.mvr") mvrPayload).files
        (ascii "/mvr/a.mvr") mvrPayload
        (writeCompletedMvrFile { rename := true } oldFiles (ascii "/mvr/a.mvr") mvrPayload).returned := by
  intro h
  have hkept := h.failed (by decide +kernel) (ascii "old") (by decide +kernel)
  exact absurd hkept (by decide +kernel)

/-- A write that runs out of space is answered with success. -/
example : (writeCompletedMvrFile { write := some 8 } oldFiles (ascii "/mvr/a.mvr") mvrPayload).returned
      = some true
    ∧ (writeCompletedMvrFile { write := some 8 } oldFiles (ascii "/mvr/a.mvr") mvrPayload).files
        (ascii "/mvr/a.mvr") = some (ascii "PK..Gene") := by
  decide +kernel

end Peraviz.Mvrxchange
