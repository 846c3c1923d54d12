import Mathlib.Data.Char
import Mathlib.Data.List.DropRight
import Mathlib.Data.List.Lex
import Mathlib.Data.List.Sort
import Peraviz.Gdtf.Xml

/-!
This module contains the cache of the files that the importer extracts from a GDTF archive: the
index of the archive, the resolution of references to its entries and the choice of a model file.
The session directory of an archive is keyed by the content of the archive, so a file that lies in
it was extracted from the same content.
-/

namespace Peraviz.Gdtf

inductive GdtfModelDetail where
  | default
  | low
  | high
deriving DecidableEq, Repr

def pathParts (path : String) : List String :=
  (path.toList.splitOn '/').map String.ofList

def dropCurrentDirectory : List Char → List Char
  | '.' :: '/' :: rest => dropCurrentDirectory rest
  | cs => cs

def normalizePath (archivePath : String) : String :=
  let normalized := dropCurrentDirectory
    (archivePath.toList.map (fun c => if c = '\\' then '/' else c))
  if normalized = [] ∨ normalized.head? = some '/' ∨ ':' ∈ normalized then ""
  else
    let parts := pathParts (String.ofList normalized)
    if ".." ∈ parts then ""
    else
      let result := "/".intercalate (parts.filter (fun part => part ≠ "" ∧ part ≠ "."))
      if result ≠ "" ∧ normalized.getLast? = some '/' then result ++ "/" else result

def pathFilename (path : String) : String :=
  String.ofList (path.toList.rtakeWhile (fun c => c ≠ '/'))

def pathExtension (path : String) : String :=
  let filename := pathFilename path
  let suffix := filename.toList.rtakeWhile (fun c => c ≠ '.')
  let stem := filename.toList.rdropWhile (fun c => c ≠ '.')
  if filename = "." ∨ filename = ".." ∨ stem.length ≤ 1 then "" else String.ofList ('.' :: suffix)

def pathExtensionLower (normalizedPath : String) : String :=
  lowerAscii (pathExtension normalizedPath)

def parentArchiveDir (normalizedPath : String) : String :=
  let parent := String.ofList
    ((normalizedPath.toList.rdropWhile (fun c => c ≠ '/')).rdropWhile (fun c => c = '/'))
  if parent = "" then ""
  else
    let value := normalizePath parent
    if value ≠ "" ∧ value.toList.getLast? ≠ some '/' then value ++ "/" else value

def isForbiddenInPath (c : Char) : Bool :=
  c.toNat < 32 || ['<', '>', ':', '"', '|', '?', '*', '\\', '/'].contains c

def sanitizePathComponentForFs (component : String) : String :=
  let replaced := component.toList.map (fun c => if isForbiddenInPath c then '_' else c)
  let trimmed := replaced.rdropWhile (fun c => c = ' ' ∨ c = '.')
  if trimmed = [] then "_" else String.ofList trimmed

/-- The entries are normalized, no `..` is left in them. -/
def cacheSafeRelativePath (normalizedArchivePath : String) : String :=
  let parts := (pathParts normalizedArchivePath).filter (fun part =>
    part ≠ "" ∧ part ≠ "." ∧ part ≠ "..")
  "/".intercalate (parts.map sanitizePathComponentForFs)

/-- `data` is what can be read of an entry, where it can be read as a whole. -/
structure ZipEntry where
  name : String
  data : Option (List UInt8)

structure ZipArchive where
  isOpen : Bool
  entries : List ZipEntry

def isDirectoryEntry (archivePath : String) : Bool :=
  archivePath.toList.getLast? = some '/'

structure ArchiveIndex where
  entries : List (String × ZipEntry) := []
  ambiguous : List String := []

/-- The spellings of one name that differ in their letters' case only all leave the index. -/
def ArchiveIndex.add (index : ArchiveIndex) (entry : ZipEntry) : ArchiveIndex :=
  let normalized := normalizePath entry.name
  let folded := lowerAscii normalized
  if normalized = "" ∨ isDirectoryEntry normalized ∨ folded ∈ index.ambiguous then index
  else if index.entries.any (fun prior => lowerAscii prior.1 = folded) then
    { entries := index.entries.filter (fun prior => lowerAscii prior.1 ≠ folded)
      ambiguous := folded :: index.ambiguous }
  else { index with entries := (normalized, entry) :: index.entries }

def ZipArchive.buildIndex (archive : ZipArchive) : ArchiveIndex :=
  archive.entries.foldl ArchiveIndex.add {}

def ZipArchive.listFiles (archive : ZipArchive) : List String :=
  (archive.buildIndex.entries.map Prod.fst).insertionSort (fun a b => a.toList ≤ b.toList)

def ZipArchive.findEntry (archive : ZipArchive) (archivePath : String) : Option ZipEntry :=
  let target := normalizePath archivePath
  (archive.buildIndex.entries.lookup target).or
    ((archive.buildIndex.entries.find? (fun entry =>
      lowerAscii entry.1 = lowerAscii target)).map Prod.snd)

def ZipArchive.readFile (archive : ZipArchive) (archivePath : String) : Option (List UInt8) :=
  (archive.findEntry archivePath).bind ZipEntry.data

structure ZipAssetCache where
  archive : ZipArchive
  cacheDir : String
  entries : List String
  resolved : List (String × String) := []
  dependenciesExtracted : List String := []
  lastError : String := ""
  modelEntry : String := ""
  modelQuality : String := ""
  extracted : List String := []

namespace ZipAssetCache

def ofArchive (archive : ZipArchive) (cacheDir : String) : ZipAssetCache :=
  if archive.isOpen then { archive, cacheDir, entries := archive.listFiles }
  else { archive, cacheDir, entries := [], lastError := "archive_open_failed" }

def fail (cache : ZipAssetCache) (error : String) : ZipAssetCache × String :=
  ({ cache with lastError := error }, "")

def resolveEntry (cache : ZipAssetCache) (reference : String) (basenameFallback : Bool)
    : ZipAssetCache × String :=
  let normalized := normalizePath reference
  if cache.archive.isOpen = false then cache.fail "archive_open_failed"
  else if normalized = "" then cache.fail "invalid_resource_reference"
  else if normalized ∈ cache.entries then (cache, normalized)
  else
    match cache.entries.filter (fun entry => lowerAscii entry = lowerAscii normalized) with
    | [entry] => (cache, entry)
    | _ :: _ :: _ => cache.fail "ambiguous_resource_reference"
    | [] =>
      if basenameFallback = false then (cache, "")
      else
        match cache.entries.filter (fun entry =>
            lowerAscii (pathFilename entry) = lowerAscii (pathFilename normalized)) with
        | [] => (cache, "")
        | [entry] => (cache, entry)
        | _ :: _ :: _ => cache.fail "ambiguous_resource_reference"

/-- An entry that is not found is an error also where the resolution found nothing wrong. -/
def failUnresolved (cache : ZipAssetCache) (error : String) : ZipAssetCache × String :=
  if cache.lastError = "" then cache.fail error else (cache, "")

def ensureExtracted (cache : ZipAssetCache) (reference : String) : ZipAssetCache × String :=
  let (cache, entry) := { cache with lastError := "" }.resolveEntry reference false
  if entry = "" then
    cache.failUnresolved
      (if cache.archive.isOpen then "resource_not_found" else "archive_open_failed")
  else
    match cache.resolved.lookup entry with
    | some output => (cache, output)
    | none =>
      let relative := cacheSafeRelativePath entry
      if cache.entries.any (fun other =>
          other ≠ entry ∧ lowerAscii (cacheSafeRelativePath other) = lowerAscii relative) then
        cache.fail "ambiguous_extraction_path"
      else
        match cache.archive.readFile entry with
        | none => cache.fail "resource_extraction_failed"
        | some _ =>
          let output := cache.cacheDir ++ "/" ++ relative
          ({ cache with
             extracted := if entry ∈ cache.extracted then cache.extracted
               else entry :: cache.extracted
             resolved := (entry, output) :: cache.resolved }, output)

def ensureArchiveFileExtracted (cache : ZipAssetCache) (reference : String)
    : ZipAssetCache × String :=
  let (cache, entry) := { cache with lastError := "" }.resolveEntry reference true
  if entry = "" then cache.failUnresolved "resource_not_found" else cache.ensureExtracted entry

def isSupportedDependencyExtension (extensionLower : String) : Bool :=
  [".png", ".jpg", ".jpeg", ".bmp", ".tga", ".gif", ".webp", ".hdr", ".dds", ".ktx2", ".mtl",
    ".bin"].contains extensionLower

def extractModelDependencies (cache : ZipAssetCache) (entry : String) : ZipAssetCache :=
  let directory := parentArchiveDir entry
  if directory ∈ cache.dependenciesExtracted then cache
  else
    cache.entries.foldl (fun cache dependency =>
        let isCompanion :=
          if directory = "" then '/' ∉ dependency.toList
          else directory.toList.isPrefixOf dependency.toList
        if isCompanion && isSupportedDependencyExtension (pathExtensionLower dependency) then
          (cache.ensureExtracted dependency).1
        else cache)
      { cache with dependenciesExtracted := directory :: cache.dependenciesExtracted }

def modelFormats : List String := [".3ds", ".glb", ".gltf", ".obj", ".dae", ".fbx", ".stl"]

def modelTiers : GdtfModelDetail → List String
  | .low => ["_low", "", "_high"]
  | .high => ["_high", "", "_low"]
  | .default => ["", "_low", "_high"]

/-- Where a model may lie, in the order in which the candidates are tried. -/
def modelCandidates (normalized : String) (gdtfBasename : Bool) (detail : GdtfModelDetail)
    : List String :=
  let extension := pathExtensionLower normalized
  let explicitFormat := modelFormats.contains extension
  let filename := pathFilename normalized
  let named := if gdtfBasename && explicitFormat then [normalized] else []
  let tiered :=
    if gdtfBasename = true ∧ '/' ∉ normalized.toList then
      (modelTiers detail).flatMap (fun tier => ["3ds", "gltf"].filterMap (fun folder =>
        let format := if folder = "gltf" then ".glb" else ".3ds"
        if explicitFormat = false ∨ extension = format then
          some ("models/" ++ folder ++ tier ++ "/" ++ filename
            ++ (if explicitFormat then "" else format))
        else none))
    else []
  let plain :=
    if gdtfBasename = false ∧ extension ≠ "" then [normalized]
    else if explicitFormat = false then modelFormats.map (normalized ++ ·)
    else []
  named ++ tiered ++ plain

def modelQualityOf (entry : String) : String :=
  let startsWith (folder : String) : Bool :=
    folder.toList.isPrefixOf (lowerAscii entry).toList
  if startsWith "models/3ds_low/" || startsWith "models/gltf_low/" then "low"
  else if startsWith "models/3ds_high/" || startsWith "models/gltf_high/" then "high"
  else if startsWith "models/3ds/" || startsWith "models/gltf/" then "default"
  else "explicit"

/-- Tries the candidates with `fallback` or without it, one after the other. -/
def searchModel (cache : ZipAssetCache) (pinned : Bool)
    : List (Bool × String) → ZipAssetCache × String
  | [] => cache.fail "resource_not_found"
  | (fallback, candidate) :: rest =>
    if pinned && fallback then searchModel cache pinned rest
    else
      let resolution := cache.resolveEntry candidate fallback
      if resolution.1.lastError ≠ "" then (resolution.1, "")
      else if resolution.2 = "" then searchModel resolution.1 pinned rest
      else
        let extraction := resolution.1.ensureExtracted resolution.2
        if extraction.2 = "" then (extraction.1, "")
        else
          ({ extraction.1.extractModelDependencies resolution.2 with
             lastError := ""
             modelEntry := resolution.2
             modelQuality := modelQualityOf resolution.2 }, extraction.2)

def ensureModelExtracted (cache : ZipAssetCache) (reference : String) (gdtfBasename : Bool)
    (detail : GdtfModelDetail) : ZipAssetCache × String :=
  let cache := { cache with lastError := "", modelEntry := "", modelQuality := "" }
  let normalized := normalizePath reference
  if normalized = "" then cache.fail "invalid_resource_reference"
  else
    let candidates := modelCandidates normalized gdtfBasename detail
    searchModel cache (gdtfBasename = true ∧ '/' ∈ normalized.toList)
      (candidates.map (false, ·) ++ candidates.map (true, ·))

def ensureGdtfModelExtracted (cache : ZipAssetCache) (reference : String)
    (detail : GdtfModelDetail) : ZipAssetCache × String :=
  cache.ensureModelExtracted reference true detail

/-- The file under a path of the session directory, as far as this cache extracted it. -/
def readExtracted (cache : ZipAssetCache) (path : String) : Option (List UInt8) :=
  (cache.resolved.find? (fun entry => entry.2 = path)).bind (fun entry =>
    cache.archive.readFile entry.1)

end ZipAssetCache

end Peraviz.Gdtf
