import Mathlib.Data.List.Induction
import Mathlib.Data.Rat.Init
import Peraviz.Storage.Basic

/-!
This module contains the saving of a project: the settings are brought into a form that JSON can
hold, and a ZIP packer writes the six entries of the archive straight to the path of the project,
where each of its calls can fail.
-/

namespace Peraviz.Project

mutual

/-- The values of the scripting language that settings hold. -/
inductive Variant where
  | nil
  | bool (value : Bool)
  | int (value : Int)
  | float (value : ℚ)
  | string (value : String)
  | color (r g b a : ℚ)
  | array (items : Items)
  | dictionary (entries : Entries)

inductive Items where
  | nil
  | cons (item : Variant) (rest : Items)

/-- The keys and values of a dictionary in the order of its keys. -/
inductive Entries where
  | nil
  | cons (key value : Variant) (rest : Entries)

end

def Variant.isText (text : String) : Variant → Bool
  | .string value => value == text
  | _ => false

namespace Entries

def get (key : String) : Entries → Option Variant
  | nil => none
  | cons first value rest => if first.isText key then some value else get key rest

def set (key : String) (value : Variant) : Entries → Entries
  | nil => cons (.string key) value nil
  | cons first old rest =>
    if first.isText key then cons first value rest else cons first old (set key value rest)

end Entries

/-- What the script calls of the engine. `archive` are the bytes of a finished archive. -/
structure Engine where
  getExtension : String → String
  getBaseDir : String → String
  globalizePath : String → String
  toLower : String → String
  errorString : Nat → String
  stringify : Variant → String
  str : Variant → String
  toInt : Variant → Int
  toBool : Variant → Bool
  archive : List (String × List UInt8) → List UInt8

/-! ### Settings -/

section

variable (engine : Engine)

def colorEntries (r g b a : ℚ) : Entries :=
  .cons (.string "type") (.string "Color") (.cons (.string "r") (.float r)
    (.cons (.string "g") (.float g) (.cons (.string "b") (.float b)
      (.cons (.string "a") (.float a) .nil))))

mutual

def normalizeJsonValue : Variant → Variant
  | .dictionary entries => .dictionary (normalizeEntries .nil entries)
  | .array items => .array (normalizeItems items)
  | .color r g b a => .dictionary (colorEntries r g b a)
  | .nil => .nil
  | .bool value => .bool value
  | .int value => .int value
  | .float value => .float value
  | .string value => .string value

def normalizeItems : Items → Items
  | .nil => .nil
  | .cons item rest => .cons (normalizeJsonValue item) (normalizeItems rest)

/-- The loop over the keys, with the dictionary that it fills. -/
def normalizeEntries (normalized : Entries) : Entries → Entries
  | .nil => normalized
  | .cons key value rest =>
    normalizeEntries (normalized.set (engine.str key) (normalizeJsonValue value)) rest

end

def getDefaultDmxSettings : Entries :=
  .cons (.string "universe_offset") (.int (-1)) (.cons (.string "auto_start_dmx") (.bool false)
    (.cons (.string "dmx_enabled_when_saved") (.bool false) .nil))

/-- The loop over the keys of the settings: only the known ones are taken over. -/
def takeKnown (merged : Entries) : Entries → Entries
  | .nil => merged
  | .cons (.string key) value rest =>
    takeKnown (if (merged.get key).isSome then merged.set key value else merged) rest
  | .cons _ _ rest => takeKnown merged rest

def mergeDmxDefaults (settings : Entries) : Entries :=
  let merged := takeKnown getDefaultDmxSettings settings
  let offset := engine.toInt ((merged.get "universe_offset").getD (.int (-1)))
  let merged := merged.set "universe_offset" (.int offset)
  let autoStart := engine.toBool ((merged.get "auto_start_dmx").getD (.bool false))
  let merged := merged.set "auto_start_dmx" (.bool autoStart)
  let enabled := engine.toBool ((merged.get "dmx_enabled_when_saved").getD (.bool false))
  merged.set "dmx_enabled_when_saved" (.bool enabled)

end

/-! ### Saving -/

structure SaveRequest where
  projectPath : String
  sourceMvrPath : String
  peravizVersion : String
  visualSettings : Entries
  dmxSettings : Entries
  appState : Entries

/-- What the calls of one save meet, an error of `0` is `OK`. `left` is what is found in the file
where a call of the packer has failed, `vanished` that the file is gone after the packer is closed. -/
structure SaveFaults where
  readSource : Nat := 0
  directoryExists : String → Bool := fun _ => true
  openPacker : Nat := 0
  startFile : String → Nat := fun _ => 0
  writeFile : String → Nat := fun _ => 0
  closeFile : String → Nat := fun _ => 0
  closePacker : Nat := 0
  left : List UInt8 := []
  vanished : Bool := false

structure SaveResult where
  files : Files String (List UInt8)
  returned : Except String String

section

variable (engine : Engine) (faults : SaveFaults) (files : Files String (List UInt8))
  (request : SaveRequest)

def projectMetadata : Entries :=
  .cons (.string "format") (.string "PeravizProject") (.cons (.string "format_version") (.int 1)
    (.cons (.string "peraviz_version") (.string request.peravizVersion)
      (.cons (.string "scene_mvr") (.string "scene.mvr") .nil)))

/-- The bytes that `_write_json_file` writes. -/
def jsonBytes (value : Variant) : List UInt8 :=
  (engine.stringify value ++ "\n").toUTF8.data.toList

/-- The six entries of a project, with the bytes of the scene. -/
def projectEntries (mvrBytes : List UInt8) : List (String × List UInt8) :=
  [("project.json", jsonBytes engine (.dictionary (projectMetadata request))),
    ("scene.mvr", mvrBytes),
    ("visual_settings.json",
      jsonBytes engine (normalizeJsonValue engine (.dictionary request.visualSettings))),
    ("dmx_settings.json",
      jsonBytes engine (.dictionary (mergeDmxDefaults engine request.dmxSettings))),
    ("app_state.json", jsonBytes engine (.dictionary request.appState)),
    ("fixture_overrides.json", jsonBytes engine (.dictionary .nil))]

def writeRawFile (archivePath : String) : Nat :=
  if faults.startFile archivePath ≠ 0 then faults.startFile archivePath
  else if faults.writeFile archivePath ≠ 0 then faults.writeFile archivePath
  else faults.closeFile archivePath

/-- The chain of writes, each only after the one in front succeeded. -/
def writeEntries (entries : List (String × List UInt8)) : Nat :=
  entries.foldl (fun error entry => if error = 0 then writeRawFile faults entry.1 else error) 0

def ensureExtension (path extension : String) : String :=
  if engine.toLower (engine.getExtension path) = engine.toLower extension then path
  else path ++ "." ++ extension

def parentDirectoryExists (path : String) : Bool :=
  let baseDir := engine.getBaseDir path
  if baseDir = "" ∨ baseDir = path then true
  else if "user://".isPrefixOf baseDir ∨ "res://".isPrefixOf baseDir then
    faults.directoryExists (engine.globalizePath baseDir)
  else faults.directoryExists baseDir

/-- `FileAccess.get_file_as_bytes`, which answers an empty array where the file does not open. -/
def readSourceBytes : List UInt8 :=
  if faults.readSource = 0 then (files request.sourceMvrPath).getD [] else []

def normalizedPath : String :=
  ensureExtension engine request.projectPath "pvz"

/-- The error in front of the opening of the packer, or of the opening. -/
def refusal : Option String :=
  let path := normalizedPath engine request
  if request.sourceMvrPath = "" ∨ files request.sourceMvrPath = none then
    some "No loaded MVR file is available to save into the project archive."
  else if readSourceBytes faults files request = [] ∧ faults.readSource ≠ 0 then
    some "Unable to read the loaded MVR file."
  else if path = "" then some "Choose a valid PVZ filename before saving."
  else if parentDirectoryExists engine faults path = false then
    some ("Unable to create PVZ archive because the target directory does not exist: "
      ++ engine.getBaseDir path)
  else if faults.openPacker ≠ 0 then
    some ("Unable to create PVZ archive: " ++ engine.errorString faults.openPacker)
  else none

/-- The file at the path of the project once the packer is closed. -/
def closedFiles (path : String) (entries : List (String × List UInt8))
    : Files String (List UInt8) :=
  let opened := files.put path []
  let closed :=
    if writeEntries faults entries = 0 ∧ faults.closePacker = 0 then
      opened.put path (engine.archive entries)
    else opened.put path faults.left
  if faults.vanished then closed.remove path else closed

def saveProject : SaveResult :=
  match refusal engine faults files request with
  | some message => { files, returned := .error message }
  | none =>
    let path := normalizedPath engine request
    let entries := projectEntries engine request (readSourceBytes faults files request)
    let closed := closedFiles engine faults files path entries
    let writeError := writeEntries faults entries
    if writeError ≠ 0 then
      { files := closed
        returned := .error ("Unable to write PVZ archive: " ++ engine.errorString writeError) }
    else if faults.closePacker ≠ 0 then
      { files := closed
        returned :=
          .error ("Unable to finalize PVZ archive: " ++ engine.errorString faults.closePacker) }
    else if closed path = none then
      { files := closed
        returned := .error
          ("PVZ archive was finalized but no file appeared at the selected path: " ++ path) }
    else { files := closed, returned := .ok path }

/-! ### Cut points -/

/-- Every call of the packer succeeds. -/
structure AllSucceed : Prop where
  entries : ∀ entry ∈ projectEntries engine request (readSourceBytes faults files request),
    faults.startFile entry.1 = 0 ∧ faults.writeFile entry.1 = 0 ∧ faults.closeFile entry.1 = 0
  close : faults.closePacker = 0

theorem writeRawFile_eq_zero_iff (archivePath : String)
    : writeRawFile faults archivePath = 0
        ↔ faults.startFile archivePath = 0 ∧ faults.writeFile archivePath = 0
          ∧ faults.closeFile archivePath = 0 := by
  unfold writeRawFile
  split
  next h => simp [h]
  next hstart =>
    split
    next h => simp [h]
    next hwrite =>
      rw [not_not] at hstart hwrite
      simp [hstart, hwrite]

theorem writeEntries_eq_zero_iff (entries : List (String × List UInt8))
    : writeEntries faults entries = 0 ↔ ∀ entry ∈ entries, writeRawFile faults entry.1 = 0 := by
  induction entries using List.reverseRecOn with
  | nil => simp [writeEntries]
  | append_singleton entries entry ih =>
    rw [writeEntries, List.foldl_append, ← writeEntries]
    simp only [List.foldl_cons, List.foldl_nil, List.mem_append, List.mem_singleton]
    split
    next h =>
      have hfront := ih.mp h
      constructor
      . intro hlast e he
        cases he with
        | inl he => exact hfront e he
        | inr he =>
          rw [he]
          exact hlast
      . intro hall
        exact hall entry (.inr rfl)
    next h =>
      constructor
      . intro hzero
        exact absurd hzero h
      . intro hall
        exact absurd (ih.mpr (fun e he => hall e (.inl he))) h

theorem allSucceed_iff
    : AllSucceed engine faults files request
        ↔ writeEntries faults
            (projectEntries engine request (readSourceBytes faults files request)) = 0
          ∧ faults.closePacker = 0 := by
  rw [writeEntries_eq_zero_iff]
  simp only [writeRawFile_eq_zero_iff]
  constructor
  . intro h
    exact ⟨h.entries, h.close⟩
  . intro h
    exact ⟨h.1, h.2⟩

/-- Where nothing refuses the save, the bytes of the source file have been read. -/
theorem readSourceBytes_of_refusal (h : refusal engine faults files request = none)
    : readSourceBytes faults files request = (files request.sourceMvrPath).getD [] := by
  unfold refusal at h
  dsimp only at h
  split at h
  next => contradiction
  next =>
    split at h
    next => contradiction
    next hread =>
      rw [readSourceBytes] at hread ⊢
      split
      next => rfl
      next hzero => simp [hzero] at hread

/-- What a save that opened the packer leaves at the path, and what it answers. -/
theorem saveProject_of_opened (h : refusal engine faults files request = none)
    : (saveProject engine faults files request).files
          = closedFiles engine faults files (normalizedPath engine request)
              (projectEntries engine request (readSourceBytes faults files request))
        ∧ ((saveProject engine faults files request).returned.isOk = true
          ↔ AllSucceed engine faults files request ∧ faults.vanished = false) := by
  rw [allSucceed_iff, saveProject, h]
  dsimp only
  split
  next hwrite => simp [Except.isOk, Except.toBool, hwrite]
  next hwrite =>
    rw [not_not] at hwrite
    split
    next hclose => simp [Except.isOk, Except.toBool, hclose]
    next hclose =>
      rw [not_not] at hclose
      cases hvanished : faults.vanished with
      | true =>
        have hgone : closedFiles engine faults files (normalizedPath engine request)
            (projectEntries engine request (readSourceBytes faults files request))
            (normalizedPath engine request) = none := by
          simp [closedFiles, hvanished]
        simp [Except.isOk, Except.toBool, hgone]
      | false =>
        have hthere : closedFiles engine faults files (normalizedPath engine request)
            (projectEntries engine request (readSourceBytes faults files request))
            (normalizedPath engine request) ≠ none := by
          simp [closedFiles, hvanished, hwrite, hclose]
        simp [Except.isOk, Except.toBool, hthere, hwrite, hclose]

theorem closedFiles_self (path : String) (entries : List (String × List UInt8))
    : closedFiles engine faults files path entries path
        =
      if faults.vanished then none
      else if writeEntries faults entries = 0 ∧ faults.closePacker = 0 then
        some (engine.archive entries)
      else some faults.left := by
  unfold closedFiles
  cases faults.vanished with
  | true => simp
  | false =>
    simp only [Bool.false_eq_true, if_false]
    split
    next => simp
    next => simp

/-- A save is atomic exactly when it does not get as far as a packer that is open, or there was no
file, or every call succeeds and the file is there, or the failed save leaves what was there. -/
theorem saveProject_atomic_iff
    : Files.AtomicUpdate files (saveProject engine faults files request).files
          (normalizedPath engine request)
          (engine.archive
            (projectEntries engine request ((files request.sourceMvrPath).getD [])))
          (some (saveProject engine faults files request).returned.isOk)
        ↔ (refusal engine faults files request).isSome
          ∨ files (normalizedPath engine request) = none
          ∨ (faults.vanished = false ∧ (AllSucceed engine faults files request
            ∨ files (normalizedPath engine request) = some faults.left)) := by
  cases hrefusal : refusal engine faults files request with
  | some message =>
    have hresult : saveProject engine faults files request
        = { files, returned := .error message } := by
      rw [saveProject, hrefusal]
    have hatomic := @Files.atomicUpdate_of_untouched _ _ files files
      (normalizedPath engine request)
      (engine.archive (projectEntries engine request ((files request.sourceMvrPath).getD []))) rfl
    rw [hresult]
    simp only [Option.isSome_some, true_or, iff_true]
    exact hatomic
  | none =>
    have hopened := saveProject_of_opened engine faults files request hrefusal
    have hself := closedFiles_self engine faults files (normalizedPath engine request)
      (projectEntries engine request (readSourceBytes faults files request))
    have hsucceed := allSucceed_iff engine faults files request
    rw [hopened.1, ← readSourceBytes_of_refusal engine faults files request hrefusal]
    cases hok : (saveProject engine faults files request).returned.isOk with
    | true =>
      have hall := hopened.2.mp hok
      rw [hall.2, if_neg (by decide), if_pos (hsucceed.mp hall.1)] at hself
      rw [Files.atomicUpdate_true_iff, hself]
      simp [hall]
    | false =>
      have hfailed : ¬ (AllSucceed engine faults files request ∧ faults.vanished = false) := by
        intro hall
        rw [hopened.2.mpr hall] at hok
        contradiction
      cases hvanished : faults.vanished with
      | true =>
        rw [hvanished, if_pos rfl] at hself
        rw [Files.atomicUpdate_of_lost_iff hself]
        simp
      | false =>
        have hnot : ¬ AllSucceed engine faults files request := by
          intro hall
          exact hfailed ⟨hall, hvanished⟩
        rw [hvanished, if_neg (by decide), if_neg (fun h => hnot (hsucceed.mpr h))] at hself
        rw [Files.atomicUpdate_of_left_iff hself]
        simp [hnot]

end

/-- An engine that knows no other extension and puts the bytes of an archive behind each other. -/
def plainEngine : Engine where
  getExtension := fun _ => "pvz"
  getBaseDir := fun _ => ""
  globalizePath := id
  toLower := id
  errorString := fun _ => "Failed"
  stringify := fun _ => "\x7b\x7d"
  str := fun _ => "key"
  toInt := fun _ => -1
  toBool := fun _ => false
  archive := fun entries => entries.flatMap (fun entry => entry.2)

def showRequest : SaveRequest where
  projectPath := "show.pvz"
  sourceMvrPath := "show.mvr"
  peravizVersion := "1"
  visualSettings := .nil
  dmxSettings := .nil
  appState := .nil

def showFiles : Files String (List UInt8) :=
  fun path => if path = "show.mvr" then some [80, 75] else some [1, 2, 3]

/-- The write of the second entry runs out of space. -/
def fullDisk : SaveFaults where
  writeFile := fun archivePath => if archivePath = "scene.mvr" then 1 else 0

/-- A write that fails behind the opening of the packer has already destroyed the old project. -/
theorem failedSave_destroys
    : ¬ Files.AtomicUpdate showFiles (saveProject plainEngine fullDisk showFiles showRequest).files
        (normalizedPath plainEngine showRequest)
        (plainEngine.archive (projectEntries plainEngine showRequest
          ((showFiles showRequest.sourceMvrPath).getD [])))
        (some (saveProject plainEngine fullDisk showFiles showRequest).returned.isOk) := by
  intro h
  have hkept := h.failed (by decide +kernel) [1, 2, 3] (by decide +kernel)
  exact absurd hkept (by decide +kernel)

end Peraviz.Project
