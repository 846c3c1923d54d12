import Mathlib.Algebra.Group.Nat.Defs
import Mathlib.Data.List.Basic
import Peraviz.Gdtf.ArchivePaths
import Peraviz.Transition.Machine

/-!
This module contains where the asset cache puts the entries of an archive: into the directory of the
session that is keyed by the content of the archive, under paths that no two entries share.
-/

namespace Peraviz.Gdtf

/-- A number as `std::hex` prints it, behind zeros up to a width. -/
def hexText (width n : Nat) : List Char :=
  (Nat.toDigits 16 n).leftpad width '0'

structure ContentHash where
  hash : UInt64 := 1469598103934665603
  secondHash : UInt64 := 7809847782465536322
  size : UInt64 := 0

def ContentHash.add (state : ContentHash) (byte : UInt8) : ContentHash :=
  { hash := (state.hash ^^^ byte.toUInt64) * 1099511628211
    secondHash := (state.secondHash ^^^ byte.toUInt64) * 14029467366897019727
    size := state.size + 1 }

/-- The fingerprint of a file, `none` stands for one that cannot be read. -/
def hashFileContents : Option (List UInt8) → List Char
  | none => "missing".toList
  | some bytes =>
    let state := bytes.foldl ContentHash.add {}
    hexText 16 state.hash.toNat ++ hexText 16 state.secondHash.toNat
      ++ '_' :: hexText 0 state.size.toNat

def sanitizeSegment (value : List Char) : List Char :=
  if value = [] then "workspace".toList
  else value.map (fun c => if isForbiddenInPath c then '_' else c)

/-- What one call of `create_unique_directory` puts behind the key. -/
structure UniqueSuffix where
  clock : Int
  random : Nat
  attempt : Nat

def UniqueSuffix.text (suffix : UniqueSuffix) : List Char :=
  (toString suffix.clock).toList ++ '-' :: hexText 0 suffix.random
    ++ '-' :: hexText 0 suffix.attempt

def cacheKey (content : Option (List UInt8)) : List Char :=
  sanitizeSegment ("archive_".toList ++ hashFileContents content)

/-- The directory of a content below the root of the session's caches. -/
def cacheDirectory (root : String) (content : Option (List UInt8)) (suffix : UniqueSuffix)
    : String :=
  root ++ "/" ++ String.ofList (sanitizeSegment (cacheKey content) ++ '-' :: suffix.text)

/-- The characters of keys, none of them is changed or taken for a separator. -/
def IsKeyChar (c : Char) : Prop :=
  c ∈ "0123456789abcdefghijklmnopqrstuvwxyz_".toList

theorem keyChars
    : ("0123456789abcdefghijklmnopqrstuvwxyz_".toList.all (fun c =>
          c.toLower == c && c != '-' && c != '/' && !isForbiddenInPath c)
        && (List.range 16).all (fun n =>
          "0123456789abcdefghijklmnopqrstuvwxyz_".toList.contains n.digitChar)
        && ("archive_missing".toList.all (fun c =>
          "0123456789abcdefghijklmnopqrstuvwxyz_".toList.contains c))) = true := by
  decide +kernel

theorem IsKeyChar.plain {c : Char} (h : IsKeyChar c)
    : c.toLower = c ∧ c ≠ '-' ∧ c ≠ '/' ∧ isForbiddenInPath c = false := by
  have hall := keyChars
  simp only [Bool.and_eq_true, List.all_eq_true] at hall
  have hc := hall.1.1 c h
  simp only [beq_iff_eq, bne_iff_ne, Bool.not_eq_true'] at hc
  exact ⟨hc.1.1.1, hc.1.1.2, hc.1.2, hc.2⟩

theorem isKeyChar_digitChar {n : Nat} (h : n < 16) : IsKeyChar n.digitChar := by
  have hall := keyChars
  simp only [Bool.and_eq_true, List.all_eq_true] at hall
  exact List.contains_iff_mem.mp (hall.1.2 n (List.mem_range.mpr h))

theorem isKeyChar_of_mem_toDigits {base n : Nat} (hbase : 1 < base) (hmost : base ≤ 16) {c : Char}
    (h : c ∈ Nat.toDigits base n) : IsKeyChar c := by
  induction n using Nat.strongRecOn with
  | ind n ih =>
    rw [Nat.toDigits_eq_if hbase] at h
    split at h
    . next hlt =>
      rw [List.mem_singleton.mp h]
      exact isKeyChar_digitChar (by omega)
    . next hge =>
      rw [List.mem_append, List.mem_singleton] at h
      cases h with
      | inl h => exact ih (n / base) (Nat.div_lt_self (by omega) hbase) h
      | inr h =>
        rw [h]
        have := Nat.mod_lt n (show 0 < base by omega)
        exact isKeyChar_digitChar (by omega)

theorem isKeyChar_of_mem_hexText {width n : Nat} {c : Char} (h : c ∈ hexText width n)
    : IsKeyChar c := by
  unfold hexText List.leftpad at h
  rw [List.mem_append, List.mem_replicate] at h
  cases h with
  | inl h =>
    rw [h.2]
    exact isKeyChar_digitChar (show 0 < 16 by decide)
  | inr h => exact isKeyChar_of_mem_toDigits (by decide) (by decide) h

theorem isKeyChar_of_mem_archive {c : Char} (h : c ∈ "archive_missing".toList) : IsKeyChar c := by
  have hall := keyChars
  simp only [Bool.and_eq_true, List.all_eq_true] at hall
  exact List.contains_iff_mem.mp (hall.2 c h)

theorem isKeyChar_of_mem_hash {content : Option (List UInt8)} {c : Char}
    (h : c ∈ "archive_".toList ++ hashFileContents content) : IsKeyChar c := by
  rw [List.mem_append] at h
  cases h with
  | inl h =>
    apply isKeyChar_of_mem_archive
    exact List.mem_append_left "missing".toList h
  | inr h =>
    cases content with
    | none =>
      apply isKeyChar_of_mem_archive
      exact List.mem_append_right "archive_".toList h
    | some bytes =>
      unfold hashFileContents at h
      simp only [List.mem_append, List.mem_cons] at h
      rcases h with (h | h) | h | h
      . exact isKeyChar_of_mem_hexText h
      . exact isKeyChar_of_mem_hexText h
      . rw [h]
        exact isKeyChar_of_mem_archive (by simp)
      . exact isKeyChar_of_mem_hexText h

theorem sanitizeSegment_of_forall {value : List Char} (hvalue : value ≠ [])
    (h : ∀ c ∈ value, IsKeyChar c) : sanitizeSegment value = value := by
  have hself : ∀ c ∈ value, (if isForbiddenInPath c = true then '_' else c) = id c := by
    intro c hc
    rw [(h c hc).plain.2.2.2]
    rfl
  unfold sanitizeSegment
  rw [if_neg hvalue, List.map_congr_left hself, List.map_id]

theorem cacheKey_eq (content : Option (List UInt8))
    : cacheKey content = "archive_".toList ++ hashFileContents content := by
  apply sanitizeSegment_of_forall
  . simp
  . exact fun c => isKeyChar_of_mem_hash

theorem isKeyChar_of_mem_cacheKey {content : Option (List UInt8)} {c : Char}
    (h : c ∈ cacheKey content) : IsKeyChar c := by
  rw [cacheKey_eq] at h
  exact isKeyChar_of_mem_hash h

theorem isKeyChar_of_mem_repr {n : Nat} {c : Char} (h : c ∈ n.repr.toList) : IsKeyChar c := by
  rw [Nat.toList_repr] at h
  exact isKeyChar_of_mem_toDigits (by decide) (by decide) h

theorem UniqueSuffix.mem_text {suffix : UniqueSuffix} {c : Char} (h : c ∈ suffix.text)
    : IsKeyChar c ∨ c = '-' := by
  unfold UniqueSuffix.text at h
  simp only [List.mem_append, List.mem_cons] at h
  rcases h with (h | h | h) | h | h
  . rw [Int.toString_eq_repr, Int.repr_eq_if] at h
    split at h
    . exact Or.inl (isKeyChar_of_mem_repr h)
    . rw [String.toList_append, List.mem_append] at h
      cases h with
      | inl h => exact Or.inr (List.mem_singleton.mp h)
      | inr h => exact Or.inl (isKeyChar_of_mem_repr h)
  . exact Or.inr h
  . exact Or.inl (isKeyChar_of_mem_hexText h)
  . exact Or.inr h
  . exact Or.inl (isKeyChar_of_mem_hexText h)

theorem UniqueSuffix.plain {suffix : UniqueSuffix} {c : Char} (h : c ∈ suffix.text)
    : c.toLower = c ∧ c ≠ '/' := by
  cases suffix.mem_text h with
  | inl hkey => exact ⟨hkey.plain.1, hkey.plain.2.2.1⟩
  | inr hdash =>
    rw [hdash]
    decide

def directoryName (content : Option (List UInt8)) (suffix : UniqueSuffix) : List Char :=
  cacheKey content ++ '-' :: suffix.text

theorem cacheDirectory_eq (root : String) (content : Option (List UInt8)) (suffix : UniqueSuffix)
    : cacheDirectory root content suffix
        = root ++ "/" ++ String.ofList (directoryName content suffix) := by
  unfold cacheDirectory directoryName
  rw [sanitizeSegment_of_forall]
  . rw [cacheKey_eq]
    simp
  . exact fun c => isKeyChar_of_mem_cacheKey

theorem map_toLower_of_plain {cs : List Char} (h : ∀ c ∈ cs, c.toLower = c)
    : cs.map Char.toLower = cs := by
  rw [List.map_congr_left (g := id) h, List.map_id]

theorem directoryName_plain {content : Option (List UInt8)} {suffix : UniqueSuffix} {c : Char}
    (h : c ∈ directoryName content suffix) : c.toLower = c ∧ c ≠ '/' := by
  unfold directoryName at h
  rw [List.mem_append, List.mem_cons] at h
  rcases h with h | h | h
  . exact ⟨(isKeyChar_of_mem_cacheKey h).plain.1, (isKeyChar_of_mem_cacheKey h).plain.2.2.1⟩
  . rw [h]
    decide
  . exact suffix.plain h

theorem cacheKey_inj {content content' : Option (List UInt8)} {suffix suffix' : UniqueSuffix}
    (h : directoryName content suffix = directoryName content' suffix')
    : hashFileContents content = hashFileContents content' := by
  have hdash : ∀ content, '-' ∉ cacheKey content := by
    intro content hmem
    exact (isKeyChar_of_mem_cacheKey hmem).plain.2.1 rfl
  have hkey := (List.append_separator_inj h (hdash content) (hdash content')).1
  rw [cacheKey_eq, cacheKey_eq] at hkey
  exact List.append_cancel_left hkey

theorem isForbiddenInPath_replaced {component : List Char} {c : Char}
    (h : c ∈ component.map (fun c => if isForbiddenInPath c then '_' else c))
    : isForbiddenInPath c = false := by
  obtain ⟨d, _, hd⟩ := List.mem_map.mp h
  rw [← hd]
  split
  . rfl
  . next hallowed => simpa using hallowed

theorem separators_of_allowed {c : Char} (h : isForbiddenInPath c = false)
    : c ≠ '/' ∧ c ≠ '\\' ∧ c ≠ ':' := by
  refine ⟨?_, ?_, ?_⟩ <;> (intro heq; rw [heq] at h; contradiction)

-- Neither of the two names for directories ends as a trimmed name does.
theorem sanitizePathComponentForFs_isPathComponent (component : String)
    : IsPathComponent (sanitizePathComponentForFs component) := by
  unfold sanitizePathComponentForFs
  dsimp only
  split
  . refine ⟨by decide, by decide, by decide, ?_⟩
    intro c hc
    rw [List.mem_singleton.mp hc]
    decide
  . next hne =>
    have hlast := List.rdropWhile_last_not _ _ hne
    have hends : ∀ name : String, name.toList.getLast? = some '.'
        → String.ofList (List.rdropWhile (fun c => c = ' ' ∨ c = '.')
          (component.toList.map (fun c => if isForbiddenInPath c then '_' else c))) ≠ name := by
      intro name hname heq
      rw [← heq, String.toList_ofList, List.getLast?_eq_some_getLast hne] at hname
      rw [Option.some.inj hname] at hlast
      simp at hlast
    refine ⟨?_, hends "." rfl, hends ".." rfl, ?_⟩
    . intro hempty
      exact hne (by simpa using congrArg String.toList hempty)
    . intro c hc
      rw [String.toList_ofList] at hc
      apply separators_of_allowed
      exact isForbiddenInPath_replaced ((List.rdropWhile_prefix _ _).subset hc)

namespace CanonicalPath

theorem sanitized_nonempty (path : CanonicalPath)
    : path.parts.map sanitizePathComponentForFs ≠ [] := by
  simpa using path.nonempty

theorem sanitized_component (path : CanonicalPath)
    : ∀ part ∈ path.parts.map sanitizePathComponentForFs, IsPathComponent part := by
  intro part hpart
  obtain ⟨component, _, rfl⟩ := List.mem_map.mp hpart
  exact sanitizePathComponentForFs_isPathComponent component

/-- The path of an entry in the session directory, with names that every file system takes. -/
def sanitized (path : CanonicalPath) : CanonicalPath where
  parts := path.parts.map sanitizePathComponentForFs
  directory := false
  nonempty := path.sanitized_nonempty
  component := path.sanitized_component

end CanonicalPath

theorem cacheSafeRelativePath_text (path : CanonicalPath)
    : cacheSafeRelativePath path.text = path.sanitized.text := by
  have hparts : (pathParts path.text).filter
      (fun part => part ≠ "" ∧ part ≠ "." ∧ part ≠ "..") = path.parts := by
    rw [path.pathParts_text, List.filter_append]
    have hback : (if path.directory = true then [""] else []).filter
        (fun part : String => part ≠ "" ∧ part ≠ "." ∧ part ≠ "..") = [] := by
      split <;> simp
    rw [hback, List.append_nil, List.filter_eq_self]
    intro part hpart
    have hcomponent := path.component part hpart
    simp [hcomponent.1, hcomponent.2.1, hcomponent.2.2.1]
  unfold cacheSafeRelativePath
  dsimp only
  rw [hparts]
  rfl

theorem ZipArchive.exists_of_mem_listFiles {archive : ZipArchive} {name : String}
    (h : name ∈ archive.listFiles) : ∃ path : CanonicalPath, name = path.text := by
  unfold ZipArchive.listFiles at h
  rw [(List.perm_insertionSort _ _).mem_iff, List.mem_map] at h
  obtain ⟨row, hrow, hname⟩ := h
  have hnamed : row ∈ archive.buildIndex.rowsNamed (lowerAscii row.1) := by
    unfold ArchiveIndex.rowsNamed
    rw [List.mem_filter]
    exact ⟨hrow, by simp⟩
  rw [archive.indexOf_buildIndex.rows] at hnamed
  obtain ⟨entry, hentry⟩ := eq_singleton_of_loneRow (List.ne_nil_of_mem hnamed)
  rw [hentry] at hnamed
  have hmem : entry ∈ entriesNamed archive.entries (lowerAscii row.1) := by
    rw [hentry]
    exact List.mem_singleton_self entry
  have hindexed := (List.mem_filter.mp hmem).2
  rw [decide_eq_true_eq] at hindexed
  obtain ⟨path, hpath⟩ := exists_canonicalPath hindexed.1.1
  refine ⟨path, ?_⟩
  rw [← hname, List.mem_singleton.mp hnamed]
  exact hpath

namespace ZipAssetCache

def ensureGdtfSpecExtracted (cache : ZipAssetCache) (spec : String) : ZipAssetCache × String :=
  let normalized := trimAscii (normalizePath spec)
  cache.ensureArchiveFileExtracted
    (if pathExtension normalized = "" then normalized ++ ".gdtf" else normalized)

/-- The calls that callers make on a cache. -/
inductive Call where
  | extracted (reference : String)
  | archiveFile (fileName : String)
  | gdtfSpec (spec : String)
  | model (reference : String) (gdtfBasename : Bool) (detail : GdtfModelDetail)

def answer (cache : ZipAssetCache) : Call → ZipAssetCache × String
  | .extracted reference => cache.ensureExtracted reference
  | .archiveFile fileName => cache.ensureArchiveFileExtracted fileName
  | .gdtfSpec spec => cache.ensureGdtfSpecExtracted spec
  | .model reference gdtfBasename detail => cache.ensureModelExtracted reference gdtfBasename detail

def machine (cache : ZipAssetCache) : Machine ZipAssetCache Call String where
  init := cache
  step := answer

/-- What an entry is mapped to: no other entry has its path, whatever the case of the letters. -/
structure Extraction (base : ZipAssetCache) (entry output : String) : Prop where
  mem : entry ∈ base.entries
  eq : output = base.cacheDir ++ "/" ++ cacheSafeRelativePath entry
  alone : ∀ other ∈ base.entries, other ≠ entry
    → lowerAscii (cacheSafeRelativePath other) ≠ lowerAscii (cacheSafeRelativePath entry)

/-- A cache that `base` has become, all that it remembers of its extractions is right. -/
structure Sound (base cache : ZipAssetCache) : Prop where
  cacheDir : cache.cacheDir = base.cacheDir
  entries : cache.entries = base.entries
  resolved : ∀ row ∈ cache.resolved, Extraction base row.1 row.2

theorem resolveEntry_cases (cache : ZipAssetCache) (reference : String) (basenameFallback : Bool)
    : ∃ error, (cache.resolveEntry reference basenameFallback).1 = { cache with lastError := error }
        ∧ ((cache.resolveEntry reference basenameFallback).2 = ""
          ∨ (cache.resolveEntry reference basenameFallback).2 ∈ cache.entries) := by
  have hfail : ∀ error, ∃ e, (cache.fail error).1 = { cache with lastError := e }
      ∧ ((cache.fail error).2 = "" ∨ (cache.fail error).2 ∈ cache.entries) :=
    fun error => ⟨error, rfl, Or.inl rfl⟩
  have hfound : ∀ entry ∈ cache.entries, ∃ e, cache = { cache with lastError := e }
      ∧ (entry = "" ∨ entry ∈ cache.entries) :=
    fun entry hentry => ⟨cache.lastError, rfl, Or.inr hentry⟩
  have hmatch : ∀ p : String → Bool, ∀ entry, cache.entries.filter p = [entry]
      → entry ∈ cache.entries := by
    intro p entry h
    apply List.mem_of_mem_filter (p := p)
    rw [h]
    exact List.mem_singleton_self entry
  unfold resolveEntry
  dsimp only
  split
  . exact hfail _
  . split
    . exact hfail _
    . split
      . next hmem => exact hfound _ hmem
      . split
        . next heq => exact hfound _ (hmatch _ _ heq)
        . exact hfail _
        . split
          . exact ⟨cache.lastError, rfl, Or.inl rfl⟩
          . split
            . exact ⟨cache.lastError, rfl, Or.inl rfl⟩
            . next heq => exact hfound _ (hmatch _ _ heq)
            . exact hfail _

namespace Sound

variable {base cache : ZipAssetCache}

theorem setLastError (h : Sound base cache) (error : String)
    : Sound base { cache with lastError := error } :=
  ⟨h.cacheDir, h.entries, h.resolved⟩

theorem resolveEntry (h : Sound base cache) (reference : String) (basenameFallback : Bool)
    : Sound base (cache.resolveEntry reference basenameFallback).1 := by
  obtain ⟨error, heq, _⟩ := cache.resolveEntry_cases reference basenameFallback
  rw [heq]
  exact h.setLastError error

theorem failUnresolved (h : Sound base cache) (error : String)
    : Sound base (cache.failUnresolved error).1 := by
  unfold ZipAssetCache.failUnresolved
  split
  . exact h.setLastError error
  . exact h

end Sound

theorem failUnresolved_snd (cache : ZipAssetCache) (error : String)
    : (cache.failUnresolved error).2 = "" := by
  unfold failUnresolved
  split <;> rfl

/-- The entry that a call of `ensureExtracted` extracts. -/
def extractedEntry (cache : ZipAssetCache) (reference : String) : String :=
  ({ cache with lastError := "" }.resolveEntry reference false).2

-- An entry is extracted only where the loop over the entries found none with the same path.
theorem ensureExtracted_sound {base cache : ZipAssetCache} (h : Sound base cache)
    (reference : String)
    : Sound base (cache.ensureExtracted reference).1
        ∧ ((cache.ensureExtracted reference).2 ≠ ""
          → Extraction base (cache.extractedEntry reference)
              (cache.ensureExtracted reference).2) := by
  have hcleared := h.setLastError ""
  obtain ⟨error, heq, hmem⟩ :=
    { cache with lastError := "" }.resolveEntry_cases reference false
  have hresolved := hcleared.resolveEntry reference false
  unfold extractedEntry ensureExtracted
  generalize { cache with lastError := "" }.resolveEntry reference false = resolution at *
  obtain ⟨next, entry⟩ := resolution
  dsimp only at *
  split
  . refine ⟨hresolved.failUnresolved _, ?_⟩
    rw [failUnresolved_snd]
    intro hempty
    contradiction
  . next hentry =>
    have hmember : entry ∈ base.entries := by
      rw [← h.entries]
      exact hmem.resolve_left hentry
    split
    . next output hlookup =>
      refine ⟨hresolved, fun _ => ?_⟩
      obtain ⟨front, back, hsplit, _⟩ := List.lookup_eq_some_iff.mp hlookup
      apply hresolved.resolved (entry, output)
      rw [hsplit]
      simp
    . split
      . refine ⟨hresolved.setLastError _, ?_⟩
        intro hempty
        contradiction
      . next halone =>
        split
        . refine ⟨hresolved.setLastError _, ?_⟩
          intro hempty
          contradiction
        . have hextraction : Extraction base entry
              (next.cacheDir ++ "/" ++ cacheSafeRelativePath entry) := by
            refine ⟨hmember, by rw [hresolved.cacheDir], ?_⟩
            intro other hother hne hsame
            apply halone
            rw [List.any_eq_true]
            refine ⟨other, ?_, ?_⟩
            . rw [hresolved.entries]
              exact hother
            . simp [hne, hsame]
          refine ⟨⟨hresolved.cacheDir, hresolved.entries, ?_⟩, fun _ => hextraction⟩
          intro row hrow
          rw [List.mem_cons] at hrow
          cases hrow with
          | inl hnew =>
            rw [hnew]
            exact hextraction
          | inr hold => exact hresolved.resolved row hold

namespace Sound

variable {base cache : ZipAssetCache}

theorem ite {next : ZipAssetCache} (h : Sound base cache) (hnext : Sound base next) {c : Bool}
    : Sound base (if c then next else cache) := by
  cases c with
  | false => exact h
  | true => exact hnext

theorem ensureExtracted (h : Sound base cache) (reference : String)
    : Sound base (cache.ensureExtracted reference).1 :=
  (ensureExtracted_sound h reference).1

theorem ensureArchiveFileExtracted (h : Sound base cache) (reference : String)
    : Sound base (cache.ensureArchiveFileExtracted reference).1 := by
  have hresolved := (h.setLastError "").resolveEntry reference true
  unfold ZipAssetCache.ensureArchiveFileExtracted
  generalize { cache with lastError := "" }.resolveEntry reference true = resolution at *
  obtain ⟨next, entry⟩ := resolution
  dsimp only at *
  split
  . exact hresolved.failUnresolved _
  . exact hresolved.ensureExtracted entry

theorem extractModelDependencies (h : Sound base cache) (entry : String)
    : Sound base (cache.extractModelDependencies entry) := by
  unfold ZipAssetCache.extractModelDependencies
  dsimp only
  split
  . exact h
  . apply List.foldlRecOn
    . exact ⟨h.cacheDir, h.entries, h.resolved⟩
    . intro next hnext dependency _
      exact hnext.ite (hnext.ensureExtracted dependency)

theorem searchModel (h : Sound base cache) (pinned : Bool) (candidates : List (Bool × String))
    : Sound base (cache.searchModel pinned candidates).1 := by
  induction candidates generalizing cache with
  | nil => exact h.setLastError _
  | cons candidate rest ih =>
    have hresolved := h.resolveEntry candidate.2 candidate.1
    have hextracted := hresolved.ensureExtracted (cache.resolveEntry candidate.2 candidate.1).2
    unfold ZipAssetCache.searchModel
    dsimp only
    split
    . exact ih h
    . split
      . exact hresolved
      . split
        . exact ih hresolved
        . split
          . exact hextracted
          . have hdependencies := hextracted.extractModelDependencies
              (cache.resolveEntry candidate.2 candidate.1).2
            exact ⟨hdependencies.cacheDir, hdependencies.entries, hdependencies.resolved⟩

theorem ensureModelExtracted (h : Sound base cache) (reference : String) (gdtfBasename : Bool)
    (detail : GdtfModelDetail)
    : Sound base (cache.ensureModelExtracted reference gdtfBasename detail).1 := by
  have hcleared : Sound base
      { cache with lastError := "", modelEntry := "", modelQuality := "" } :=
    ⟨h.cacheDir, h.entries, h.resolved⟩
  unfold ZipAssetCache.ensureModelExtracted
  dsimp only
  split
  . exact hcleared.setLastError _
  . exact hcleared.searchModel _ _

theorem answer (h : Sound base cache) (call : Call) : Sound base (cache.answer call).1 := by
  cases call with
  | extracted reference => exact h.ensureExtracted reference
  | archiveFile fileName => exact h.ensureArchiveFileExtracted fileName
  | gdtfSpec spec => exact h.ensureArchiveFileExtracted _
  | model reference gdtfBasename detail =>
    exact h.ensureModelExtracted reference gdtfBasename detail

end Sound

/-- The cache of an archive in the directory that was created for its content. -/
def ofContent (root : String) (openRead : Option (List UInt8) → ZipArchive)
    (content : Option (List UInt8)) (suffix : UniqueSuffix) : ZipAssetCache :=
  ofArchive (openRead content) (cacheDirectory root content suffix)

section Sessions

variable (root : String) (openRead : Option (List UInt8) → ZipArchive)

theorem sound_run (content : Option (List UInt8)) (suffix : UniqueSuffix) (calls : List Call)
    : Sound (ofContent root openRead content suffix)
        ((machine (ofContent root openRead content suffix)).run
          (ofContent root openRead content suffix) calls) := by
  apply (machine _).run_induction
  . intro cache call h
    exact h.answer call
  . unfold ofContent ofArchive
    split <;> exact ⟨rfl, rfl, fun row hrow => nomatch hrow⟩

theorem mem_entries_ofContent {content : Option (List UInt8)} {suffix : UniqueSuffix}
    {entry : String} (h : entry ∈ (ofContent root openRead content suffix).entries)
    : ∃ path : CanonicalPath, entry = path.text := by
  unfold ofContent ofArchive at h
  split at h
  . exact ZipArchive.exists_of_mem_listFiles h
  . contradiction

theorem cacheDir_ofContent (content : Option (List UInt8)) (suffix : UniqueSuffix)
    : (ofContent root openRead content suffix).cacheDir = cacheDirectory root content suffix := by
  unfold ofContent ofArchive
  split <;> rfl

theorem entries_ofContent (content : Option (List UInt8)) (suffix suffix' : UniqueSuffix)
    : (ofContent root openRead content suffix).entries
        = (ofContent root openRead content suffix').entries := by
  unfold ofContent ofArchive
  split <;> rfl

end Sessions

/-- A file at some depth below a directory. -/
def LiesIn (directory output : String) : Prop :=
  ∃ relative : CanonicalPath, relative.directory = false
    ∧ output = directory ++ "/" ++ relative.text

theorem toList_lowerAscii (text : String)
    : (lowerAscii text).toList = text.toList.map Char.toLower := by
  unfold lowerAscii
  exact String.toList_map

theorem lowerAscii_output (root : String) (content : Option (List UInt8)) (suffix : UniqueSuffix)
    (relative : String)
    : (lowerAscii (cacheDirectory root content suffix ++ "/" ++ relative)).toList
        = (lowerAscii root).toList
          ++ '/' :: (directoryName content suffix ++ '/' :: (lowerAscii relative).toList) := by
  rw [cacheDirectory_eq]
  simp only [toList_lowerAscii, String.toList_append, String.toList_ofList, List.map_append,
    map_toLower_of_plain (fun c hc => (directoryName_plain hc).1)]
  simp

-- Directories of other contents have another key, and no entry of this content has this path.
theorem extraction_inj {root : String} {openRead : Option (List UInt8) → ZipArchive}
    {content content' : Option (List UInt8)} {suffix suffix' : UniqueSuffix}
    (hhash : hashFileContents content = hashFileContents content' → content = content')
    {entry output entry' output' : String}
    (h : Extraction (ofContent root openRead content suffix) entry output)
    (h' : Extraction (ofContent root openRead content' suffix') entry' output')
    (hsame : lowerAscii output = lowerAscii output') : content = content' ∧ entry = entry' := by
  have hslash : ∀ content suffix, '/' ∉ directoryName content suffix :=
    fun content suffix hmem => (directoryName_plain hmem).2 rfl
  rw [h.eq, h'.eq, cacheDir_ofContent, cacheDir_ofContent] at hsame
  have hlists := congrArg String.toList hsame
  rw [lowerAscii_output, lowerAscii_output] at hlists
  have hparts := List.append_separator_inj (List.cons.inj (List.append_cancel_left hlists)).2
    (hslash content suffix) (hslash content' suffix')
  have hcontent := hhash (cacheKey_inj hparts.1)
  subst hcontent
  refine ⟨rfl, ?_⟩
  by_contra hne
  apply h'.alone entry _ hne
  . exact String.toList_inj.mp hparts.2
  . rw [entries_ofContent root openRead content suffix' suffix]
    exact h.mem

theorem extraction_liesIn {root : String} {openRead : Option (List UInt8) → ZipArchive}
    {content : Option (List UInt8)} {suffix : UniqueSuffix} {entry output : String}
    (h : Extraction (ofContent root openRead content suffix) entry output)
    : LiesIn (cacheDirectory root content suffix) output := by
  obtain ⟨path, hpath⟩ := mem_entries_ofContent root openRead h.mem
  refine ⟨path.sanitized, rfl, ?_⟩
  rw [h.eq, cacheDir_ofContent, hpath, cacheSafeRelativePath_text]

/-- What a cache answers after some calls, with the entry that the answer is about. -/
def extractedAfter (root : String) (openRead : Option (List UInt8) → ZipArchive)
    (content : Option (List UInt8)) (suffix : UniqueSuffix) (calls : List Call) (reference : String)
    : String × String :=
  let cache := (machine (ofContent root openRead content suffix)).run
    (ofContent root openRead content suffix) calls
  (cache.extractedEntry reference, (cache.ensureExtracted reference).2)

theorem extractedAfter_extraction (root : String) (openRead : Option (List UInt8) → ZipArchive)
    (content : Option (List UInt8)) (suffix : UniqueSuffix) (calls : List Call) (reference : String)
    (h : (extractedAfter root openRead content suffix calls reference).2 ≠ "")
    : Extraction (ofContent root openRead content suffix)
        (extractedAfter root openRead content suffix calls reference).1
        (extractedAfter root openRead content suffix calls reference).2 :=
  (ensureExtracted_sound (sound_run root openRead content suffix calls) reference).2 h

theorem extracted_apart (root : String) (openRead : Option (List UInt8) → ZipArchive)
    (content content' : Option (List UInt8)) (suffix suffix' : UniqueSuffix)
    (hhash : hashFileContents content = hashFileContents content' → content = content')
    (calls calls' : List Call) (reference reference' : String)
    : let first := extractedAfter root openRead content suffix calls reference
      let second := extractedAfter root openRead content' suffix' calls' reference'
      (first.2 ≠ "" → LiesIn (cacheDirectory root content suffix) first.2)
        ∧ (first.2 ≠ "" → second.2 ≠ "" → (content, first.1) ≠ (content', second.1)
          → lowerAscii first.2 ≠ lowerAscii second.2) := by
  intro first second
  constructor
  . intro h
    exact extraction_liesIn
      (extractedAfter_extraction root openRead content suffix calls reference h)
  . intro h h' hne hsame
    have heq := extraction_inj hhash
      (extractedAfter_extraction root openRead content suffix calls reference h)
      (extractedAfter_extraction root openRead content' suffix' calls' reference' h') hsame
    exact hne (Prod.ext heq.1 heq.2)

def exampleArchive (names : List String) (_ : Option (List UInt8)) : ZipArchive where
  isOpen := true
  entries := names.map (fun name => { name, data := some [] })

def exampleSuffix : UniqueSuffix where
  clock := 17
  random := 51966
  attempt := 0

theorem extracted_apart_textures
    : let first := extractedAfter "cache/v1" (exampleArchive ["a.png", "b?.png"]) (some [1])
        exampleSuffix [] "b?.png"
      let second := extractedAfter "cache/v1" (exampleArchive ["a.png", "b?.png"]) (some [1])
        exampleSuffix [] "a.png"
      LiesIn (cacheDirectory "cache/v1" (some [1]) exampleSuffix) first.2
        ∧ lowerAscii first.2 ≠ lowerAscii second.2 := by
  have h := extracted_apart "cache/v1" (exampleArchive ["a.png", "b?.png"]) (some [1]) (some [1])
    exampleSuffix exampleSuffix (fun _ => rfl) [] [] "b?.png" "a.png"
  have hfacts
      : let first := extractedAfter "cache/v1" (exampleArchive ["a.png", "b?.png"]) (some [1])
          exampleSuffix [] "b?.png"
        let second := extractedAfter "cache/v1" (exampleArchive ["a.png", "b?.png"]) (some [1])
          exampleSuffix [] "a.png"
        first.2 ≠ "" ∧ second.2 ≠ "" ∧ first.1 ≠ second.1 := by
    decide +kernel
  refine ⟨h.1 hfacts.1, h.2 hfacts.1 hfacts.2.1 ?_⟩
  intro heq
  exact hfacts.2.2 (Prod.mk.inj heq).2

/-- The letters of a file system that folds an umlaut as it folds the letters of ASCII. -/
def foldUmlaut (c : Char) : Char :=
  if c = 'Ä' then 'ä' else c.toLower

theorem extracted_meet_umlauts
    : let first := extractedAfter "cache/v1" (exampleArchive ["Ä.png", "ä.png"]) (some [1])
        exampleSuffix [] "Ä.png"
      let second := extractedAfter "cache/v1" (exampleArchive ["Ä.png", "ä.png"]) (some [1])
        exampleSuffix [] "ä.png"
      first.2 ≠ "" ∧ second.2 ≠ "" ∧ first.1 ≠ second.1
        ∧ first.2.toList.map foldUmlaut = second.2.toList.map foldUmlaut := by
  decide +kernel

end ZipAssetCache

end Peraviz.Gdtf
