import Peraviz.Gdtf.AssetCache
import Peraviz.Splitting.Basic

/-!
This module contains the shape of the paths that the archive reader normalizes to, and what a lookup
finds in an archive whose entries have normalized names that may be equal up to their letters' case.
-/

namespace Peraviz.Gdtf

def IsPathComponent (part : String) : Prop :=
  part ≠ "" ∧ part ≠ "." ∧ part ≠ ".." ∧ ∀ c ∈ part.toList, c ≠ '/' ∧ c ≠ '\\' ∧ c ≠ ':'

/-- A relative path in normal form, with a slash behind it if it names a directory. -/
structure CanonicalPath where
  parts : List String
  directory : Bool
  nonempty : parts ≠ []
  component : ∀ part ∈ parts, IsPathComponent part

namespace CanonicalPath

def text (path : CanonicalPath) : String :=
  if path.directory then "/".intercalate path.parts ++ "/" else "/".intercalate path.parts

theorem splitOn_text (path : CanonicalPath)
    : path.text.toList.splitOn '/'
        = path.parts.map String.toList ++ if path.directory then [[]] else [] := by
  have hparts : (['/'].intercalate (path.parts.map String.toList)).splitOn '/'
      = path.parts.map String.toList := by
    apply List.splitOn_intercalate
    . intro cs hcs hslash
      obtain ⟨part, hpart, rfl⟩ := List.mem_map.mp hcs
      exact ((path.component part hpart).2.2.2 '/' hslash).1 rfl
    . simpa using path.nonempty
  unfold text
  split
  . rw [String.toList_append, String.toList_intercalate]
    change (['/'].intercalate (path.parts.map String.toList) ++ ['/']).splitOn '/' = _
    rw [List.splitOn_append_cons_self, hparts]
    rfl
  . rw [String.toList_intercalate, List.append_nil]
    exact hparts

theorem pathParts_text (path : CanonicalPath)
    : pathParts path.text = path.parts ++ if path.directory then [""] else [] := by
  unfold pathParts
  rw [splitOn_text, List.map_append, List.map_map]
  congr 1
  . apply List.map_id''
    intro part
    exact String.ofList_toList
  . split <;> rfl

-- The first part is neither empty nor the current directory, so no text before it is dropped.
theorem head_splitOn_text (path : CanonicalPath) {first : List Char} {rest : List (List Char)}
    (h : path.text.toList.splitOn '/' = first :: rest) : IsPathComponent (String.ofList first) := by
  rw [splitOn_text] at h
  cases hparts : path.parts with
  | nil => exact absurd hparts path.nonempty
  | cons part parts =>
    rw [hparts] at h
    simp only [List.map_cons, List.cons_append, List.cons.injEq] at h
    rw [← h.1, String.ofList_toList]
    apply path.component
    rw [hparts]
    exact List.mem_cons_self

theorem mem_text (path : CanonicalPath) {c : Char} (h : c ∈ path.text.toList)
    : c ≠ '\\' ∧ c ≠ ':' := by
  by_cases hslash : c = '/'
  . rw [hslash]
    decide
  . obtain ⟨part, hpart, hc⟩ := List.exists_mem_splitOn_of_mem h hslash
    rw [splitOn_text, List.mem_append, List.mem_map] at hpart
    cases hpart with
    | inl hpart =>
      obtain ⟨component, hcomponent, rfl⟩ := hpart
      exact ((path.component component hcomponent).2.2.2 c hc).2
    | inr hpart =>
      split at hpart
      . rw [List.mem_singleton.mp hpart] at hc
        contradiction
      . contradiction

theorem dropCurrentDirectory_text (path : CanonicalPath)
    : dropCurrentDirectory path.text.toList = path.text.toList := by
  unfold dropCurrentDirectory
  split
  . next rest heq =>
    have hfirst := path.head_splitOn_text (by
      rw [heq]
      exact List.splitOn_append_cons_self_of_not_mem (show '/' ∉ ['.'] by decide) rest)
    exact absurd rfl hfirst.2.1
  . rfl

theorem text_ne_nil (path : CanonicalPath) : path.text.toList ≠ [] := by
  intro h
  have hfirst := path.head_splitOn_text (by
    rw [h]
    exact List.splitOn_nil '/')
  exact absurd rfl hfirst.1

theorem head?_text (path : CanonicalPath) : path.text.toList.head? ≠ some '/' := by
  intro h
  obtain ⟨rest, hrest⟩ := List.head?_eq_some_iff.mp h
  have hfirst := path.head_splitOn_text (by
    rw [hrest]
    exact List.splitOn_cons_self rest)
  exact absurd rfl hfirst.1

theorem getLast?_text (path : CanonicalPath)
    : path.text.toList.getLast? = some '/' ↔ path.directory = true := by
  constructor
  . intro h
    obtain ⟨front, hfront⟩ := List.getLast?_eq_some_iff.mp h
    have hsplit := path.splitOn_text
    rw [hfront, List.splitOn_concat_self] at hsplit
    by_contra hfile
    rw [if_neg hfile, List.append_nil] at hsplit
    have hempty : [] ∈ path.parts.map String.toList := by
      rw [← hsplit]
      simp
    obtain ⟨part, hpart, heq⟩ := List.mem_map.mp hempty
    exact (path.component part hpart).1 (String.toList_eq_nil_iff.mp heq)
  . intro h
    unfold text
    rw [if_pos h, String.toList_append]
    exact List.getLast?_concat

theorem slashes_text (path : CanonicalPath)
    : path.text.toList.map (fun c => if c = '\\' then '/' else c) = path.text.toList := by
  have hself : ∀ c ∈ path.text.toList, (if c = '\\' then '/' else c) = id c := by
    intro c hc
    exact if_neg (path.mem_text hc).1
  rw [List.map_congr_left hself, List.map_id]

theorem filter_pathParts_text (path : CanonicalPath)
    : (pathParts path.text).filter (fun part => part ≠ "" ∧ part ≠ ".") = path.parts := by
  rw [pathParts_text, List.filter_append]
  have hback : (if path.directory = true then [""] else []).filter
      (fun part : String => part ≠ "" ∧ part ≠ ".") = [] := by
    split <;> simp
  rw [hback, List.append_nil, List.filter_eq_self]
  intro part hpart
  have hcomponent := path.component part hpart
  simp [hcomponent.1, hcomponent.2.1]

theorem normalizePath_text (path : CanonicalPath) : normalizePath path.text = path.text := by
  have hparent : ".." ∉ pathParts path.text := by
    rw [pathParts_text, List.mem_append]
    intro h
    cases h with
    | inl h => exact (path.component ".." h).2.2.1 rfl
    | inr h => split at h <;> simp at h
  have hcolon : ':' ∉ path.text.toList := fun h => (path.mem_text h).2 rfl
  have hrelative : ¬ (path.text.toList = [] ∨ path.text.toList.head? = some '/'
      ∨ ':' ∈ path.text.toList) := by
    rw [not_or, not_or]
    exact ⟨path.text_ne_nil, path.head?_text, hcolon⟩
  have hresult : "/".intercalate path.parts ≠ "" := by
    intro h
    have hfile := text_ne_nil { path with directory := false }
    exact hfile (String.toList_eq_nil_iff.mpr h)
  unfold normalizePath
  dsimp only
  rw [slashes_text, dropCurrentDirectory_text, if_neg hrelative, String.ofList_toList,
    if_neg hparent, filter_pathParts_text]
  simp only [hresult, getLast?_text, ne_eq, not_false_eq_true, true_and]
  rfl

end CanonicalPath

theorem mem_dropCurrentDirectory {cs : List Char} {c : Char} (h : c ∈ dropCurrentDirectory cs)
    : c ∈ cs := by
  fun_induction dropCurrentDirectory cs with
  | case1 rest ih => exact List.mem_cons_of_mem _ (List.mem_cons_of_mem _ (ih h))
  | case2 => exact h

theorem not_backslash {path : String} {c : Char}
    (h : c ∈ dropCurrentDirectory (path.toList.map (fun c => if c = '\\' then '/' else c)))
    : c ≠ '\\' := by
  obtain ⟨d, _, hd⟩ := List.mem_map.mp (mem_dropCurrentDirectory h)
  rw [← hd]
  split
  . decide
  . assumption

theorem isPathComponent_of_mem_pathParts {cs : List Char} {part : String}
    (hcs : ∀ c ∈ cs, c ≠ '\\' ∧ c ≠ ':') (hpart : part ∈ pathParts (String.ofList cs))
    (hnonempty : part ≠ "") (hcurrent : part ≠ ".") (hparent : part ≠ "..")
    : IsPathComponent part := by
  refine ⟨hnonempty, hcurrent, hparent, ?_⟩
  intro c hc
  unfold pathParts at hpart
  rw [String.toList_ofList] at hpart
  obtain ⟨chars, hchars, rfl⟩ := List.mem_map.mp hpart
  rw [String.toList_ofList] at hc
  refine ⟨?_, hcs c (List.mem_of_mem_splitOn hchars hc)⟩
  intro hslash
  exact List.not_mem_of_mem_splitOn hchars (hslash ▸ hc)

theorem exists_canonicalPath {path : String} (h : normalizePath path ≠ "")
    : ∃ canonical : CanonicalPath, normalizePath path = canonical.text := by
  unfold normalizePath at h ⊢
  dsimp only at h ⊢
  split at h
  . exact absurd rfl h
  . next hrelative =>
    rw [if_neg hrelative]
    split at h
    . exact absurd rfl h
    . next hparent =>
      rw [if_neg hparent]
      generalize hcs : dropCurrentDirectory
        (path.toList.map (fun c => if c = '\\' then '/' else c)) = cs at *
      generalize hparts : (pathParts (String.ofList cs)).filter
        (fun part => part ≠ "" ∧ part ≠ ".") = parts at *
      have hresult : "/".intercalate parts ≠ "" := by
        intro hempty
        simp [hempty] at h
      have hcomponent : ∀ part ∈ parts, IsPathComponent part := by
        intro part hpart
        rw [← hparts, List.mem_filter, decide_eq_true_eq] at hpart
        apply isPathComponent_of_mem_pathParts _ hpart.1 hpart.2.1 hpart.2.2
        . intro heq
          exact hparent (heq ▸ hpart.1)
        . intro c hc
          refine ⟨not_backslash (hcs ▸ hc), ?_⟩
          intro hcolon
          exact hrelative (Or.inr (Or.inr (hcolon ▸ hc)))
      have hnonempty : parts ≠ [] := by
        intro hnil
        rw [hnil] at hresult
        exact hresult rfl
      refine ⟨⟨parts, cs.getLast? = some '/', hnonempty, hcomponent⟩, ?_⟩
      simp only [CanonicalPath.text, hresult, ne_eq, not_false_eq_true, true_and,
        decide_eq_true_eq]

theorem normalizePath_idempotent (path : String)
    : normalizePath (normalizePath path) = normalizePath path := by
  by_cases h : normalizePath path = ""
  . rw [h]
    rfl
  . obtain ⟨canonical, hcanonical⟩ := exists_canonicalPath h
    rw [hcanonical]
    exact canonical.normalizePath_text

def ZipEntry.foldedName (entry : ZipEntry) : String :=
  lowerAscii (normalizePath entry.name)

/-- Entries whose name does not normalize and directories are not in the index. -/
def ZipEntry.Indexed (entry : ZipEntry) : Prop :=
  normalizePath entry.name ≠ "" ∧ ¬ isDirectoryEntry (normalizePath entry.name) = true

instance ZipEntry.instDecidableIndexed (entry : ZipEntry) : Decidable entry.Indexed :=
  inferInstanceAs (Decidable (normalizePath entry.name ≠ ""
    ∧ ¬ isDirectoryEntry (normalizePath entry.name) = true))

/-- The entries of a listing that a folded name stands for. -/
def entriesNamed (listing : List ZipEntry) (folded : String) : List ZipEntry :=
  listing.filter (fun entry => entry.Indexed ∧ entry.foldedName = folded)

/-- The row of an entry that is alone under its folded name. -/
def loneRow : List ZipEntry → List (String × ZipEntry)
  | [entry] => [(normalizePath entry.name, entry)]
  | _ => []

theorem loneRow_of_two_le {entries : List ZipEntry} (h : 2 ≤ entries.length)
    : loneRow entries = [] := by
  match entries with
  | [] => rfl
  | [_] => simp at h
  | _ :: _ :: _ => rfl

theorem eq_singleton_of_loneRow {entries : List ZipEntry} (h : loneRow entries ≠ [])
    : ∃ entry, entries = [entry] := by
  match entries with
  | [] => exact absurd rfl h
  | [entry] => exact ⟨entry, rfl⟩
  | _ :: _ :: _ => exact absurd rfl h

theorem eq_nil_of_loneRow {entries : List ZipEntry} (h : loneRow entries = [])
    (hfew : ¬ 2 ≤ entries.length) : entries = [] := by
  match entries with
  | [] => rfl
  | [_] => simp [loneRow] at h
  | _ :: _ :: _ => simp at hfew

theorem entriesNamed_concat (listing : List ZipEntry) (entry : ZipEntry) (folded : String)
    : entriesNamed (listing ++ [entry]) folded
        = entriesNamed listing folded
          ++ if entry.Indexed ∧ entry.foldedName = folded then [entry] else [] := by
  unfold entriesNamed
  rw [List.filter_append]
  congr 1
  by_cases h : entry.Indexed ∧ entry.foldedName = folded
  . simp [h]
  . simp [h]

namespace ArchiveIndex

def rowsNamed (index : ArchiveIndex) (folded : String) : List (String × ZipEntry) :=
  index.entries.filter (fun row => lowerAscii row.1 = folded)

def dropNamed (index : ArchiveIndex) (folded : String) : ArchiveIndex :=
  { entries := index.entries.filter (fun row => lowerAscii row.1 ≠ folded)
    ambiguous := folded :: index.ambiguous }

def addRow (index : ArchiveIndex) (entry : ZipEntry) : ArchiveIndex :=
  { index with entries := (normalizePath entry.name, entry) :: index.entries }

theorem rowsNamed_dropNamed_self (index : ArchiveIndex) (folded : String)
    : (index.dropNamed folded).rowsNamed folded = [] := by
  unfold rowsNamed dropNamed
  rw [List.filter_filter, List.filter_eq_nil_iff]
  intro row _
  simp

theorem rowsNamed_dropNamed_ne (index : ArchiveIndex) {folded other : String} (h : folded ≠ other)
    : (index.dropNamed folded).rowsNamed other = index.rowsNamed other := by
  unfold rowsNamed dropNamed
  rw [List.filter_filter]
  apply List.filter_congr
  intro row _
  by_cases hrow : lowerAscii row.1 = other
  . simp [hrow, Ne.symm h]
  . simp [hrow]

theorem rowsNamed_addRow_self (index : ArchiveIndex) (entry : ZipEntry)
    : (index.addRow entry).rowsNamed entry.foldedName
        = (normalizePath entry.name, entry) :: index.rowsNamed entry.foldedName := by
  unfold rowsNamed addRow
  rw [List.filter_cons_of_pos]
  simp [ZipEntry.foldedName]

theorem rowsNamed_addRow_ne (index : ArchiveIndex) {entry : ZipEntry} {other : String}
    (h : entry.foldedName ≠ other)
    : (index.addRow entry).rowsNamed other = index.rowsNamed other := by
  unfold rowsNamed addRow
  rw [List.filter_cons_of_neg]
  simpa [ZipEntry.foldedName] using h

theorem add_cases (index : ArchiveIndex) (entry : ZipEntry)
    : (¬ entry.Indexed ∧ index.add entry = index)
      ∨ entry.Indexed
        ∧ ((entry.foldedName ∈ index.ambiguous ∧ index.add entry = index)
          ∨ entry.foldedName ∉ index.ambiguous
            ∧ ((index.rowsNamed entry.foldedName ≠ []
                ∧ index.add entry = index.dropNamed entry.foldedName)
              ∨ (index.rowsNamed entry.foldedName = []
                ∧ index.add entry = index.addRow entry))) := by
  unfold ZipEntry.Indexed ArchiveIndex.add
  dsimp only
  split
  . next h =>
    rcases h with hempty | hdirectory | hambiguous
    . exact Or.inl ⟨fun hentry => hentry.1 hempty, rfl⟩
    . exact Or.inl ⟨fun hentry => hentry.2 hdirectory, rfl⟩
    . by_cases hentry : normalizePath entry.name ≠ ""
          ∧ ¬ isDirectoryEntry (normalizePath entry.name) = true
      . exact Or.inr ⟨hentry, Or.inl ⟨hambiguous, rfl⟩⟩
      . exact Or.inl ⟨hentry, rfl⟩
  . next h =>
    rw [not_or, not_or] at h
    refine Or.inr ⟨⟨h.1, h.2.1⟩, Or.inr ⟨h.2.2, ?_⟩⟩
    have hrows : index.entries.any
        (fun prior => lowerAscii prior.1 = lowerAscii (normalizePath entry.name)) = true
          ↔ index.rowsNamed entry.foldedName ≠ [] := by
      unfold rowsNamed ZipEntry.foldedName
      rw [Ne, List.filter_eq_nil_iff]
      simp
    split
    . next hany => exact Or.inl ⟨hrows.mp hany, rfl⟩
    . next hany =>
      rw [hrows, not_not] at hany
      exact Or.inr ⟨hany, rfl⟩

structure IndexOf (listing : List ZipEntry) (index : ArchiveIndex) : Prop where
  rows : ∀ folded, index.rowsNamed folded = loneRow (entriesNamed listing folded)
  ambiguous : ∀ folded, folded ∈ index.ambiguous ↔ 2 ≤ (entriesNamed listing folded).length

namespace IndexOf

variable {listing : List ZipEntry} {index : ArchiveIndex}

theorem add_notIndexed (h : IndexOf listing index) {entry : ZipEntry} (hentry : ¬ entry.Indexed)
    : IndexOf (listing ++ [entry]) index := by
  have hsame : ∀ folded,
      entriesNamed (listing ++ [entry]) folded = entriesNamed listing folded := by
    intro folded
    rw [entriesNamed_concat, if_neg (fun hboth => hentry hboth.1), List.append_nil]
  constructor
  . intro folded
    rw [hsame]
    exact h.rows folded
  . intro folded
    rw [hsame]
    exact h.ambiguous folded

-- An entry only changes what its own name stands for.
theorem add_indexed (h : IndexOf listing index) {entry : ZipEntry} (hentry : entry.Indexed)
    {next : ArchiveIndex}
    (hother : ∀ folded, entry.foldedName ≠ folded → next.rowsNamed folded = index.rowsNamed folded)
    (hambiguous : ∀ folded, entry.foldedName ≠ folded
      → (folded ∈ next.ambiguous ↔ folded ∈ index.ambiguous))
    (hrows : next.rowsNamed entry.foldedName
      = loneRow (entriesNamed listing entry.foldedName ++ [entry]))
    (hnow : entry.foldedName ∈ next.ambiguous
      ↔ 2 ≤ (entriesNamed listing entry.foldedName ++ [entry]).length)
    : IndexOf (listing ++ [entry]) next := by
  constructor
  . intro folded
    rw [entriesNamed_concat]
    by_cases heq : entry.foldedName = folded
    . rw [if_pos ⟨hentry, heq⟩, ← heq]
      exact hrows
    . rw [if_neg (fun hboth => heq hboth.2), List.append_nil, hother folded heq]
      exact h.rows folded
  . intro folded
    rw [entriesNamed_concat]
    by_cases heq : entry.foldedName = folded
    . rw [if_pos ⟨hentry, heq⟩, ← heq]
      exact hnow
    . rw [if_neg (fun hboth => heq hboth.2), List.append_nil, hambiguous folded heq]
      exact h.ambiguous folded

theorem add (h : IndexOf listing index) (entry : ZipEntry)
    : IndexOf (listing ++ [entry]) (index.add entry) := by
  have hrows := h.rows entry.foldedName
  have hambiguous := h.ambiguous entry.foldedName
  rcases index.add_cases entry with ⟨hentry, heq⟩ | ⟨hentry, hcases⟩
  . rw [heq]
    exact h.add_notIndexed hentry
  . rcases hcases with ⟨hmem, heq⟩ | ⟨hfresh, ⟨hprior, heq⟩ | ⟨hnone, heq⟩⟩
    . rw [heq]
      have hmany := hambiguous.mp hmem
      have hmore : 2 ≤ (entriesNamed listing entry.foldedName ++ [entry]).length := by
        rw [List.length_append]
        omega
      apply h.add_indexed hentry (fun _ _ => rfl) (fun _ _ => Iff.rfl)
      . rw [hrows, loneRow_of_two_le hmany, loneRow_of_two_le hmore]
      . exact ⟨fun _ => hmore, fun _ => hmem⟩
    . -- A second entry under the name takes the row of the first one away.
      rw [heq]
      rw [hrows] at hprior
      obtain ⟨first, hfirst⟩ := eq_singleton_of_loneRow hprior
      apply h.add_indexed hentry
      . intro folded hne
        exact index.rowsNamed_dropNamed_ne hne
      . intro folded hne
        simp [dropNamed, Ne.symm hne]
      . rw [index.rowsNamed_dropNamed_self, hfirst]
        rfl
      . rw [hfirst]
        simp [dropNamed]
    . rw [heq]
      rw [hambiguous] at hfresh
      have hfirst := eq_nil_of_loneRow (hrows.symm.trans hnone) hfresh
      apply h.add_indexed hentry
      . intro folded hne
        exact index.rowsNamed_addRow_ne hne
      . exact fun _ _ => Iff.rfl
      . rw [index.rowsNamed_addRow_self, hnone, hfirst]
        rfl
      . rw [hfirst]
        constructor
        . intro hmem
          exact absurd (hambiguous.mp hmem) hfresh
        . simp

end IndexOf

end ArchiveIndex

theorem ZipArchive.indexOf_buildIndex (archive : ZipArchive)
    : ArchiveIndex.IndexOf archive.entries archive.buildIndex := by
  unfold ZipArchive.buildIndex
  induction archive.entries using List.reverseRecOn with
  | nil =>
    constructor
    . intro folded
      rfl
    . intro folded
      simp [entriesNamed]
  | append_singleton listing entry ih =>
    rw [List.foldl_append]
    exact ih.add entry

/-- The raw name that an entry is read under. -/
def ZipArchive.findEntryName (archive : ZipArchive) (archivePath : String) : String :=
  match archive.findEntry archivePath with
  | some entry => entry.name
  | none => ""

def loneEntry : List ZipEntry → Option ZipEntry
  | [entry] => some entry
  | _ => none

theorem head?_loneRow (entries : List ZipEntry)
    : (loneRow entries).head?.map Prod.snd = loneEntry entries := by
  match entries with
  | [] => rfl
  | [_] => rfl
  | _ :: _ :: _ => rfl

theorem mem_loneRow {entries : List ZipEntry} {row : String × ZipEntry} (h : row ∈ loneRow entries)
    : loneEntry entries = some row.2 := by
  match entries with
  | [] => contradiction
  | [_] =>
    rw [List.mem_singleton.mp h]
    rfl
  | _ :: _ :: _ => contradiction

-- An exact name is one of the rows under its folded name, and there is one row at most.
theorem ZipArchive.findEntry_eq (archive : ZipArchive) (archivePath : String)
    : archive.findEntry archivePath
        = loneEntry (entriesNamed archive.entries (lowerAscii (normalizePath archivePath))) := by
  have hrows := archive.indexOf_buildIndex.rows (lowerAscii (normalizePath archivePath))
  unfold ZipArchive.findEntry
  dsimp only
  cases hexact : archive.buildIndex.entries.lookup (normalizePath archivePath) with
  | none =>
    rw [← head?_loneRow, ← hrows, ArchiveIndex.rowsNamed, List.head?_filter]
    rfl
  | some entry =>
    obtain ⟨front, back, hsplit, _⟩ := List.lookup_eq_some_iff.mp hexact
    have hmem : (normalizePath archivePath, entry)
        ∈ archive.buildIndex.rowsNamed (lowerAscii (normalizePath archivePath)) := by
      unfold ArchiveIndex.rowsNamed
      rw [List.mem_filter, hsplit]
      simp
    rw [hrows] at hmem
    rw [mem_loneRow hmem]
    rfl

theorem loneEntry_eq_some {entries : List ZipEntry} {entry : ZipEntry}
    : loneEntry entries = some entry ↔ entries = [entry] := by
  match entries with
  | [] => simp [loneEntry]
  | [_] => simp [loneEntry]
  | _ :: _ :: _ => simp [loneEntry]

theorem name_ne_empty {entry : ZipEntry} (h : entry.Indexed) : entry.name ≠ "" := by
  intro hempty
  apply h.1
  rw [hempty]
  rfl

theorem ZipArchive.findEntryName_eq (archive : ZipArchive) {archivePath : String} {entry : ZipEntry}
    (h : entriesNamed archive.entries (lowerAscii (normalizePath archivePath)) = [entry])
    : archive.findEntryName archivePath = entry.name ∧ entry.name ≠ "" := by
  have hentry : entry ∈ entriesNamed archive.entries (lowerAscii (normalizePath archivePath)) := by
    rw [h]
    exact List.mem_singleton_self entry
  have hindexed := (List.mem_filter.mp hentry).2
  rw [decide_eq_true_eq] at hindexed
  unfold ZipArchive.findEntryName
  rw [archive.findEntry_eq, loneEntry_eq_some.mpr h]
  exact ⟨rfl, name_ne_empty hindexed.1⟩

theorem normalizePath_findEntryName
    : (∀ path, normalizePath (normalizePath path) = normalizePath path)
        ∧ (∀ path, normalizePath path ≠ ""
          → (normalizePath path).toList.head? ≠ some '/'
            ∧ (∀ c ∈ (normalizePath path).toList, c ≠ '\\' ∧ c ≠ ':')
            ∧ ∃ canonical : CanonicalPath, normalizePath path = canonical.text)
        ∧ ∀ (archive : ZipArchive) (archivePath : String),
            (archive.findEntryName archivePath ≠ ""
              ↔ ∃ entry, entriesNamed archive.entries (lowerAscii (normalizePath archivePath))
                  = [entry])
            ∧ ∀ entry,
                entriesNamed archive.entries (lowerAscii (normalizePath archivePath)) = [entry]
                → archive.findEntryName archivePath = entry.name := by
  refine ⟨normalizePath_idempotent, ?_, ?_⟩
  . intro path hpath
    obtain ⟨canonical, hcanonical⟩ := exists_canonicalPath hpath
    rw [hcanonical]
    exact ⟨canonical.head?_text, fun c => canonical.mem_text, canonical, rfl⟩
  . intro archive archivePath
    refine ⟨⟨?_, ?_⟩, fun entry h => (archive.findEntryName_eq h).1⟩
    . intro hfound
      unfold ZipArchive.findEntryName at hfound
      rw [archive.findEntry_eq] at hfound
      cases hlone : loneEntry
          (entriesNamed archive.entries (lowerAscii (normalizePath archivePath))) with
      | none =>
        rw [hlone] at hfound
        contradiction
      | some entry => exact ⟨entry, loneEntry_eq_some.mp hlone⟩
    . rintro ⟨entry, hentry⟩
      have hname := archive.findEntryName_eq hentry
      rw [hname.1]
      exact hname.2

end Peraviz.Gdtf
