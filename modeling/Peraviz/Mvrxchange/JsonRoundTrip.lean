import Peraviz.Mvrxchange.Json

/-!
This module contains the agreement of the JSON writer with the field reader: a message is a list of
members, the reader goes over all members in front of the one that it looks for, and what it returns
is the text that was written exactly when the text needs no escape.
-/

namespace Peraviz.Mvrxchange

open Pattern

/-- No character of a text ends it for the reader. -/
def QuoteFree (text : List UInt8) : Prop :=
  text.all isNotQuote = true

theorem quoteFree_iff {text : List UInt8} : QuoteFree text ↔ ∀ c ∈ text, isQuote c = false := by
  simp [QuoteFree, isNotQuote]

theorem QuoteFree.not_quote {text : List UInt8} (h : QuoteFree text) {c : UInt8} (hc : c ∈ text)
    : isQuote c = false :=
  quoteFree_iff.mp h c hc

theorem QuoteFree.of_cons {c : UInt8} {rest : List UInt8} (h : QuoteFree (c :: rest))
    : QuoteFree rest := by
  rw [QuoteFree, List.all_cons, Bool.and_eq_true] at h
  exact h.2

/-- Neither a quote of either kind nor a backslash. -/
def Plain (text : List UInt8) : Prop :=
  ∀ c ∈ text, c ≠ 34 ∧ c ≠ 39 ∧ c ≠ 92

theorem isQuote_eq_false_iff {c : UInt8} : isQuote c = false ↔ c ≠ 34 ∧ c ≠ 39 := by
  simp [isQuote]

theorem Plain.quoteFree {text : List UInt8} (h : Plain text) : QuoteFree text := by
  rw [quoteFree_iff]
  intro c hc
  rw [isQuote_eq_false_iff]
  exact ⟨(h c hc).1, (h c hc).2.1⟩

theorem isQuote_toLower (c : UInt8) : isQuote (toLower c) = isQuote c := by
  have hall : ∀ n < 256, isQuote (toLower (UInt8.ofNat n)) = isQuote (UInt8.ofNat n) := by
    decide +kernel
  exact @forall_byte (fun c => isQuote (toLower c) = isQuote c) hall c

theorem sameIgnoringCase_self (c : UInt8) : sameIgnoringCase c c = true :=
  beq_self_eq_true (toLower c)

theorem isQuote_of_sameIgnoringCase {a b : UInt8} (hsame : sameIgnoringCase a b = true)
    (hb : isQuote b = true)
    : isQuote a = true := by
  rw [← isQuote_toLower, eq_of_beq hsame, isQuote_toLower]
  exact hb

/-! ### Escapes -/

theorem jsonEscape_eq_self {text : List UInt8} (h : Plain text) : jsonEscape text = text := by
  induction text with
  | nil => rfl
  | cons c rest ih =>
    have hc := h c List.mem_cons_self
    have hrest := ih (fun d hd => h d (List.mem_cons_of_mem c hd))
    rw [jsonEscape] at hrest
    rw [jsonEscape, List.flatMap_cons, hrest, if_neg (by simp [hc.1, hc.2.2]),
      List.singleton_append]

theorem length_le_jsonEscape (text : List UInt8) : text.length ≤ (jsonEscape text).length := by
  induction text with
  | nil => exact Nat.le_refl 0
  | cons c rest ih =>
    rw [jsonEscape] at ih
    rw [jsonEscape, List.flatMap_cons, List.length_append, List.length_cons]
    split
    next =>
      simp only [List.length_cons, List.length_nil]
      omega
    next =>
      simp only [List.length_cons, List.length_nil]
      omega

theorem ne_backslash_of_jsonEscape_eq {text : List UInt8} (h : jsonEscape text = text)
    : ∀ c ∈ text, c ≠ 92 := by
  induction text with
  | nil => simp
  | cons c rest ih =>
    have hlength := length_le_jsonEscape rest
    rw [jsonEscape] at hlength
    rw [jsonEscape, List.flatMap_cons] at h
    split at h
    next =>
      have := congrArg List.length h
      simp only [List.length_append, List.length_cons, List.length_nil] at this
      omega
    next hc =>
      rw [List.singleton_append, List.cons.injEq] at h
      intro d hd
      cases List.mem_cons.mp hd with
      | inl heq =>
        rw [heq]
        intro hslash
        exact hc (.inl hslash)
      | inr hmem => exact ih h.2 d hmem

theorem quoteFree_jsonEscape {text : List UInt8} (h : QuoteFree text)
    : QuoteFree (jsonEscape text) := by
  rw [quoteFree_iff]
  intro c hc
  rw [jsonEscape, List.mem_flatMap] at hc
  obtain ⟨d, hd, hc⟩ := hc
  split at hc
  next hslash =>
    have hquote := isQuote_eq_false_iff.mp (h.not_quote hd)
    simp only [List.mem_cons, List.not_mem_nil, or_false] at hc
    cases hc with
    | inl hc =>
      rw [hc]
      decide
    | inr hc =>
      rw [hc]
      exact h.not_quote hd
  next =>
    rw [List.mem_singleton] at hc
    rw [hc]
    exact h.not_quote hd

/-- What the reader takes of an escaped text is the text exactly when it is plain. -/
theorem takeWhile_jsonEscape_iff {text : List UInt8} (rest : List UInt8)
    : (jsonEscape text ++ 34 :: rest).takeWhile isNotQuote = text ↔ Plain text := by
  have hquote : ¬ isNotQuote 34 = true := by decide
  have hall {l : List UInt8} (h : QuoteFree l)
      : (l ++ 34 :: rest).takeWhile isNotQuote = l := by
    rw [List.takeWhile_append_of_pos, List.takeWhile_cons_of_neg hquote, List.append_nil]
    intro c hc
    rw [isNotQuote, h.not_quote hc]
    rfl
  constructor
  . intro h
    have hfree : QuoteFree text := by
      rw [quoteFree_iff]
      intro c hc
      rw [← h] at hc
      have := List.mem_takeWhile_imp hc
      simpa [isNotQuote] using this
    rw [hall (quoteFree_jsonEscape hfree)] at h
    intro c hc
    have hc' := isQuote_eq_false_iff.mp (hfree.not_quote hc)
    exact ⟨hc'.1, hc'.2, ne_backslash_of_jsonEscape_eq h c hc⟩
  . intro h
    rw [jsonEscape_eq_self h]
    exact hall h.quoteFree

/-! ### Quoted words in front of the search -/

theorem dropWord_append {name word : List UInt8} (h : dropWord sameIgnoringCase name word = some [])
    (rest : List UInt8)
    : dropWord sameIgnoringCase name (word ++ rest) = some rest := by
  induction name generalizing word with
  | nil =>
    rw [dropWord, Option.some.injEq] at h
    rw [h, List.nil_append, dropWord]
  | cons letter letters ih =>
    cases word with
    | nil => simp [dropWord] at h
    | cons c word =>
      rw [dropWord] at h
      split at h
      next hsame =>
        rw [List.cons_append, dropWord, if_pos hsame]
        exact ih h
      next => contradiction

/-- A name without quotes that is followed by a quote can only end where the word does. -/
theorem dropWord_eq_nil {name word : List UInt8} (hname : QuoteFree name) (hword : QuoteFree word)
    {rest left : List UInt8} {c : UInt8}
    (h : dropWord sameIgnoringCase name (word ++ 34 :: rest) = some (c :: left))
    (hc : isQuote c = true)
    : dropWord sameIgnoringCase name word = some [] := by
  induction name generalizing word with
  | nil =>
    cases word with
    | nil => rfl
    | cons first word =>
      rw [dropWord, List.cons_append, Option.some.injEq, List.cons.injEq] at h
      have hfirst := hword.not_quote List.mem_cons_self
      rw [h.1, hc] at hfirst
      contradiction
  | cons letter letters ih =>
    cases word with
    | nil =>
      rw [List.nil_append, dropWord] at h
      split at h
      next hsame =>
        have hletter := hname.not_quote List.mem_cons_self
        rw [isQuote_of_sameIgnoringCase hsame (by decide)] at hletter
        contradiction
      next => contradiction
    | cons first word =>
      rw [List.cons_append, dropWord] at h
      split at h
      next hsame =>
        rw [dropWord, if_pos hsame]
        apply ih hname.of_cons hword.of_cons h
      next => contradiction

theorem results_fieldPattern (name : List UInt8) (value : Pattern UInt8) (c : UInt8)
    (rest : List UInt8)
    : (fieldPattern name value).results (c :: rest)
        =
      if isQuote c then
        (dropWord sameIgnoringCase name rest).elim []
          (seq (one isQuote) (colonPattern value)).results
      else [] := by
  rw [fieldPattern, results_seq_one, results_word]

theorem results_of_not_quote {name : List UInt8} {value : Pattern UInt8} {c : UInt8}
    (hc : isQuote c = false) (rest : List UInt8)
    : (fieldPattern name value).results (c :: rest) = [] := by
  rw [results_fieldPattern, hc]
  rfl

theorem search_quoteFree {front : List UInt8} (hfront : QuoteFree front) (name : List UInt8)
    (value : Pattern UInt8) (text : List UInt8)
    : (fieldPattern name value).search (front ++ text) = (fieldPattern name value).search text := by
  apply search_append
  intro c tail hsuffix
  apply results_of_not_quote
  apply hfront.not_quote
  apply hsuffix.subset
  exact List.mem_cons_self

theorem results_quotedWord {name word : List UInt8} (hname : QuoteFree name)
    (hword : QuoteFree word) (value : Pattern UInt8) (rest : List UInt8)
    : (fieldPattern name value).results (34 :: (word ++ 34 :: rest))
        =
      if dropWord sameIgnoringCase name word = some [] then (colonPattern value).results rest
      else [] := by
  rw [results_fieldPattern, if_pos (by decide)]
  cases Decidable.em (dropWord sameIgnoringCase name word = some []) with
  | inl h =>
    rw [dropWord_append h, if_pos h, Option.elim_some, results_seq_one, if_pos (by decide)]
  | inr h =>
    rw [if_neg h]
    cases hdrop : dropWord sameIgnoringCase name (word ++ 34 :: rest) with
    | none => rfl
    | some left =>
      cases left with
      | nil => simp
      | cons c left =>
        have hc : isQuote c = false := by
          cases hquote : isQuote c with
          | true => exact absurd (dropWord_eq_nil hname hword hdrop hquote) h
          | false => rfl
        simp [results_seq_one, hc]

theorem results_colonPattern (value : Pattern UInt8) (rest : List UInt8)
    : (colonPattern value).results rest
        =
      (seq (one (· == 58)) (seq (many isSpace) value)).results (rest.dropWhile isSpace) := by
  apply results_seq_many
  intro c tail hc
  rw [results_seq_one]
  split
  next hcolon =>
    rw [eq_of_beq hcolon] at hc
    exact absurd hc (by decide)
  next => rfl

theorem stringValue_refuses (c : UInt8) (rest : List UInt8) (hc : isSpace c = true)
    : stringValue.results (c :: rest) = [] := by
  rw [stringValue, results_seq_one, if_neg]
  intro hquote
  simp only [isQuote, Bool.or_eq_true, beq_iff_eq] at hquote
  cases hquote with
  | inl h =>
    rw [h] at hc
    exact absurd hc (by decide)
  | inr h =>
    rw [h] at hc
    exact absurd hc (by decide)

/-! ### Members in front of the search -/

inductive JsonValue where
  | text (value : List UInt8)
  | bare (value : List UInt8)

structure Member where
  key : List UInt8
  value : JsonValue

def JsonValue.written : JsonValue → List UInt8
  | text value => 34 :: (jsonEscape value ++ [34])
  | bare value => value

def JsonValue.content : JsonValue → List UInt8
  | text value => value
  | bare value => value

def Member.written (member : Member) : List UInt8 :=
  34 :: (member.key ++ 34 :: 58 :: member.value.written)

/-- The members of an object, each behind its delimiter, and the end of the object. -/
def writeMembers (delimiter : UInt8) : List Member → List UInt8
  | [] => [125]
  | member :: members => delimiter :: (member.written ++ writeMembers 44 members)

/-- What can stand in front of a member or behind its value. -/
def delimiters : List UInt8 := [123, 44, 125]

/-- A name that no delimiter and no colon begins. -/
structure IsFieldName (name : List UInt8) : Prop where
  quoteFree : QuoteFree name
  begins : ∀ c ∈ 58 :: delimiters, ∀ rest, dropWord sameIgnoringCase name (c :: rest) = none

theorem isFieldName_of_head {first : UInt8} {letters : List UInt8}
    (hfree : QuoteFree (first :: letters))
    (hfirst : (58 :: delimiters).all (fun c => !sameIgnoringCase first c) = true)
    : IsFieldName (first :: letters) := by
  constructor
  . exact hfree
  . intro c hc rest
    have hdiffers := List.all_eq_true.mp hfirst c hc
    rw [dropWord, if_neg (by simpa using hdiffers)]

theorem not_quote_of_delimiter {c : UInt8} (h : c ∈ delimiters) : isQuote c = false := by
  have hfree : QuoteFree delimiters := rfl
  exact hfree.not_quote h

theorem results_colonPattern_delimiter {c : UInt8} (h : c ∈ delimiters) (value : Pattern UInt8)
    (rest : List UInt8)
    : (colonPattern value).results (c :: rest) = [] := by
  have hall : delimiters.all (fun c => !isSpace c && !(c == 58)) = true := by decide
  have hc := List.all_eq_true.mp hall c h
  simp only [Bool.and_eq_true, Bool.not_eq_true'] at hc
  rw [results_colonPattern, List.dropWhile_cons_of_neg (by simp [hc.1]), results_seq_one, hc.2]
  rfl

section

variable {name : List UInt8} (hname : IsFieldName name) (value : Pattern UInt8)
include hname

/-- The search goes over a word in quotes, if it is another name or no colon follows. -/
theorem search_quotedWord {word : List UInt8} (hword : QuoteFree word) {c : UInt8}
    (rest : List UInt8) (hc : c ∈ 58 :: delimiters)
    (hmiss : dropWord sameIgnoringCase name word ≠ some [] ∨
      (colonPattern value).results (c :: rest) = [])
    : (fieldPattern name value).search (34 :: (word ++ 34 :: c :: rest))
        = (fieldPattern name value).search (c :: rest) := by
  have hopen : (fieldPattern name value).results (34 :: (word ++ 34 :: c :: rest)) = [] := by
    rw [results_quotedWord hname.quoteFree hword]
    split
    next h =>
      cases hmiss with
      | inl hmiss => exact absurd h hmiss
      | inr hmiss => exact hmiss
    next => rfl
  have hclose : (fieldPattern name value).results (34 :: c :: rest) = [] := by
    rw [results_fieldPattern, hname.begins c hc rest]
    simp
  rw [search_cons hopen, search_quoteFree hword, search_cons hclose]

theorem search_value {written : JsonValue} (hfree : QuoteFree written.content) {c : UInt8}
    (hc : c ∈ delimiters) (rest : List UInt8)
    : (fieldPattern name value).search (written.written ++ c :: rest)
        = (fieldPattern name value).search (c :: rest) := by
  cases written with
  | text text =>
    have hescaped := quoteFree_jsonEscape hfree
    have happend : (JsonValue.text text).written ++ c :: rest
        = 34 :: (jsonEscape text ++ 34 :: c :: rest) := by
      simp [JsonValue.written]
    rw [happend]
    apply search_quotedWord hname value hescaped rest (List.mem_cons_of_mem 58 hc)
    exact .inr (results_colonPattern_delimiter hc value rest)
  | bare text => exact search_quoteFree hfree name value (c :: rest)

/-- The search goes over a member with another name. -/
theorem search_member {member : Member} (hkey : QuoteFree member.key)
    (hother : dropWord sameIgnoringCase name member.key ≠ some []) (hfree : QuoteFree member.value.content)
    {delimiter c : UInt8} (hdelimiter : delimiter ∈ delimiters) (hc : c ∈ delimiters)
    (rest : List UInt8)
    : (fieldPattern name value).search (delimiter :: (member.written ++ c :: rest))
        = (fieldPattern name value).search (c :: rest) := by
  have hcolon : isQuote 58 = false := by decide
  have happend : member.written ++ c :: rest
      = 34 :: (member.key ++ 34 :: 58 :: (member.value.written ++ c :: rest)) := by
    simp [Member.written]
  rw [search_cons (results_of_not_quote (not_quote_of_delimiter hdelimiter) _), happend,
    search_quotedWord hname value hkey _ List.mem_cons_self (.inl hother),
    search_cons (results_of_not_quote hcolon _), search_value hname value hfree hc]

end

/-! ### The member that is found -/

theorem exists_dropWhile_quote (text rest : List UInt8)
    : ∃ c left, (text ++ 34 :: rest).dropWhile isNotQuote = c :: left ∧ isQuote c = true := by
  induction text with
  | nil =>
    rw [List.nil_append, List.dropWhile_cons_of_neg (by decide)]
    exact ⟨34, rest, rfl, rfl⟩
  | cons c text ih =>
    rw [List.cons_append]
    cases hc : isQuote c with
    | true =>
      rw [List.dropWhile_cons_of_neg (by simp [isNotQuote, hc])]
      exact ⟨c, _, rfl, hc⟩
    | false =>
      rw [List.dropWhile_cons_of_pos (by simp [isNotQuote, hc])]
      exact ih

theorem results_stringValue (text rest : List UInt8)
    : ∃ left, stringValue.results (34 :: (text ++ 34 :: rest))
        = [(some ((text ++ 34 :: rest).takeWhile isNotQuote), left)] := by
  obtain ⟨c, left, hdrop, hc⟩ := exists_dropWhile_quote text rest
  exists left
  rw [stringValue, results_seq_one, if_pos (by decide)]
  apply results_seq_group_many _ hdrop hc
  intro d hd
  simpa [isNotQuote] using hd

theorem search_found {name key : List UInt8} (hname : IsFieldName name) (hkey : QuoteFree key)
    (hsame : dropWord sameIgnoringCase name key = some []) {delimiter : UInt8}
    (hdelimiter : delimiter ∈ delimiters) (text rest : List UInt8)
    : (fieldPattern name stringValue).search
        (delimiter :: ((Member.mk key (.text text)).written ++ rest))
        = some (some ((jsonEscape text ++ 34 :: rest).takeWhile isNotQuote)) := by
  have happend : (Member.mk key (.text text)).written ++ rest
      = 34 :: (key ++ 34 :: 58 :: 34 :: (jsonEscape text ++ 34 :: rest)) := by
    simp [Member.written, JsonValue.written]
  have hvalue := results_stringValue (jsonEscape text) rest
  cases hvalue with
  | intro left hvalue =>
    have hresults : (fieldPattern name stringValue).results
        (34 :: (key ++ 34 :: 58 :: 34 :: (jsonEscape text ++ 34 :: rest)))
        = [(some ((jsonEscape text ++ 34 :: rest).takeWhile isNotQuote), left)] := by
      rw [results_quotedWord hname.quoteFree hkey, if_pos hsame, results_colonPattern,
        List.dropWhile_cons_of_neg (by decide), results_seq_one, if_pos (by decide),
        results_seq_many stringValue_refuses, List.dropWhile_cons_of_neg (by decide), hvalue]
    rw [search_cons (results_of_not_quote (not_quote_of_delimiter hdelimiter) _), happend]
    apply search_of_results
    rw [hresults, List.head?_cons]

/-- The search for `name` goes over the member. -/
def Member.passedBy (name : List UInt8) (member : Member) : Bool :=
  member.key.all isNotQuote && member.value.content.all isNotQuote &&
    dropWord sameIgnoringCase name member.key != some []

theorem passedBy_text {name key text : List UInt8}
    (hclosed : (Member.mk key (.bare [])).passedBy name = true) (htext : Plain text)
    : (Member.mk key (.text text)).passedBy name = true := by
  have hfree : text.all isNotQuote = true := htext.quoteFree
  simp only [Member.passedBy, JsonValue.content, Bool.and_eq_true] at *
  exact ⟨⟨hclosed.1.1, hfree⟩, hclosed.2⟩

theorem exists_writeMembers (members : List Member)
    : ∃ c rest, writeMembers 44 members = c :: rest ∧ c ∈ delimiters := by
  cases members with
  | nil => exact ⟨125, [], rfl, by decide⟩
  | cons member members => exact ⟨44, _, rfl, by decide⟩

theorem search_writeMembers {name key : List UInt8} (hname : IsFieldName name)
    (hkey : QuoteFree key) (hsame : dropWord sameIgnoringCase name key = some [])
    {before : List Member} (hbefore : before.all (Member.passedBy name) = true) {delimiter : UInt8}
    (hdelimiter : delimiter ∈ delimiters) (text : List UInt8) (behind : List Member)
    : (fieldPattern name stringValue).search
        (writeMembers delimiter (before ++ Member.mk key (.text text) :: behind))
        = some (some ((jsonEscape text ++ 34 :: writeMembers 44 behind).takeWhile isNotQuote)) := by
  induction before generalizing delimiter with
  | nil => exact search_found hname hkey hsame hdelimiter text (writeMembers 44 behind)
  | cons member before ih =>
    rw [List.all_cons, Bool.and_eq_true] at hbefore
    have hmember := hbefore.1
    simp only [Member.passedBy, Bool.and_eq_true, bne_iff_ne] at hmember
    have hrest := exists_writeMembers (before ++ Member.mk key (.text text) :: behind)
    obtain ⟨c, rest, hwritten, hc⟩ := hrest
    have hcomma : 44 ∈ delimiters := by decide
    have ih' := ih hbefore.2 hcomma
    rw [hwritten] at ih'
    rw [List.cons_append, writeMembers, hwritten, search_member hname stringValue
      hmember.1.1 hmember.2 hmember.1.2 hdelimiter hc]
    exact ih'

/-- A field comes back exactly when its text is plain. -/
theorem jsonStringValue_writeMembers_iff {name key : List UInt8} (hname : IsFieldName name)
    (hkey : QuoteFree key) (hsame : dropWord sameIgnoringCase name key = some [])
    {before : List Member} (hbefore : before.all (Member.passedBy name) = true) (text : List UInt8)
    (behind : List Member)
    : jsonStringValue (writeMembers 123 (before ++ Member.mk key (.text text) :: behind)) [name]
        = text ↔ Plain text := by
  rw [jsonStringValue, search_writeMembers hname hkey hsame hbefore (by decide)]
  dsimp only [Option.getD_some]
  exact takeWhile_jsonEscape_iff (writeMembers 44 behind)

/-! ### The messages -/

def joinMembers (stationName stationUuid : List UInt8) : List Member :=
  [⟨ascii "Type", .text (ascii "MVR_JOIN")⟩, ⟨ascii "Provider", .text (ascii "Peraviz")⟩,
    ⟨ascii "verMajor", .bare (ascii "1")⟩, ⟨ascii "verMinor", .bare (ascii "6")⟩,
    ⟨ascii "StationUUID", .text stationUuid⟩, ⟨ascii "StationName", .text stationName⟩,
    ⟨ascii "Commits", .bare (ascii "[]")⟩]

def joinRetMembers (stationName stationUuid : List UInt8) (ok : Bool) (message : List UInt8)
    : List Member :=
  [⟨ascii "Type", .text (ascii "MVR_JOIN_RET")⟩,
    ⟨ascii "OK", .bare (if ok then ascii "true" else ascii "false")⟩,
    ⟨ascii "Message", .text message⟩, ⟨ascii "Provider", .text (ascii "Peraviz")⟩,
    ⟨ascii "verMajor", .bare (ascii "1")⟩, ⟨ascii "verMinor", .bare (ascii "6")⟩,
    ⟨ascii "StationUUID", .text stationUuid⟩, ⟨ascii "StationName", .text stationName⟩,
    ⟨ascii "Commits", .bare (ascii "[]")⟩]

theorem buildJoinMessage_eq (stationName stationUuid : List UInt8)
    : buildJoinMessage stationName stationUuid
        = writeMembers 123 (joinMembers stationName stationUuid) := by
  simp only [buildJoinMessage, joinMembers, writeMembers, Member.written, JsonValue.written,
    List.append_assoc, List.cons_append, List.nil_append]
  rfl

theorem buildJoinRetMessage_eq (stationName stationUuid : List UInt8) (ok : Bool)
    (message : List UInt8)
    : buildJoinRetMessage stationName stationUuid ok message
        = writeMembers 123 (joinRetMembers stationName stationUuid ok message) := by
  simp only [buildJoinRetMessage, joinRetMembers, writeMembers, Member.written, JsonValue.written,
    List.append_assoc, List.cons_append, List.nil_append]
  cases ok with
  | true => rfl
  | false => rfl

theorem isFieldName_stationName : IsFieldName (ascii "StationName") :=
  isFieldName_of_head rfl rfl

theorem isFieldName_stationUuid : IsFieldName (ascii "StationUUID") :=
  isFieldName_of_head rfl rfl

theorem isFieldName_message : IsFieldName (ascii "Message") :=
  isFieldName_of_head rfl rfl

/-- The member `index` of an object is found if the search goes over those in front of it. -/
theorem jsonStringValue_member_iff {members : List Member} {index : Nat} {name text : List UInt8}
    (hname : IsFieldName name) (hmember : members[index]? = some ⟨name, .text text⟩)
    (hbefore : (members.take index).all (Member.passedBy name) = true)
    : jsonStringValue (writeMembers 123 members) [name] = text ↔ Plain text := by
  have hlen := (List.getElem?_eq_some_iff.mp hmember).1
  have hget := (List.getElem?_eq_some_iff.mp hmember).2
  have hsplit : members = members.take index ++ ⟨name, .text text⟩ :: members.drop (index + 1) := by
    rw [← hget, List.getElem_cons_drop, List.take_append_drop]
  have hsame := dropWord_self sameIgnoringCase_self name
  rw [hsplit]
  exact jsonStringValue_writeMembers_iff hname hname.quoteFree hsame hbefore text _

def fieldNames : List (List UInt8) := [ascii "StationName", ascii "StationUUID", ascii "Message"]

/-- The members that do not depend on the texts of a message. -/
def fixedMembers : List Member :=
  [⟨ascii "Type", .text (ascii "MVR_JOIN")⟩, ⟨ascii "Type", .text (ascii "MVR_JOIN_RET")⟩,
    ⟨ascii "Provider", .text (ascii "Peraviz")⟩, ⟨ascii "verMajor", .bare (ascii "1")⟩,
    ⟨ascii "verMinor", .bare (ascii "6")⟩, ⟨ascii "OK", .bare (ascii "true")⟩,
    ⟨ascii "OK", .bare (ascii "false")⟩]

-- The search for a field goes over every fixed member, and over every field in front of it.
theorem passedBy_constants
    : fieldNames.all (fun name => fixedMembers.all (Member.passedBy name)) = true
      ∧ (Member.mk (ascii "Message") (.bare [])).passedBy (ascii "StationUUID") = true
      ∧ (Member.mk (ascii "Message") (.bare [])).passedBy (ascii "StationName") = true
      ∧ (Member.mk (ascii "StationUUID") (.bare [])).passedBy (ascii "StationName") = true := by
  decide +kernel

theorem passedBy_fixed {name : List UInt8} (hname : name ∈ fieldNames)
    : fixedMembers.all (Member.passedBy name) = true :=
  List.all_eq_true.mp passedBy_constants.1 name hname

section

variable (stationName stationUuid message : List UInt8) (ok : Bool)

theorem message_joinRet_iff
    : jsonStringValue (buildJoinRetMessage stationName stationUuid ok message) [ascii "Message"]
        = message ↔ Plain message := by
  have hfixed := passedBy_fixed (by simp [fieldNames] : ascii "Message" ∈ fieldNames)
  simp only [fixedMembers, List.all_cons, List.all_nil, Bool.and_eq_true] at hfixed
  rw [buildJoinRetMessage_eq]
  apply @jsonStringValue_member_iff _ 2 _ _ isFieldName_message rfl
  cases ok with
  | true => simp [joinRetMembers, hfixed]
  | false => simp [joinRetMembers, hfixed]

theorem stationUuid_joinRet_iff (hmessage : Plain message)
    : jsonStringValue (buildJoinRetMessage stationName stationUuid ok message)
        [ascii "StationUUID"] = stationUuid ↔ Plain stationUuid := by
  have hfixed := passedBy_fixed (by simp [fieldNames] : ascii "StationUUID" ∈ fieldNames)
  simp only [fixedMembers, List.all_cons, List.all_nil, Bool.and_eq_true] at hfixed
  have hpassed := passedBy_text passedBy_constants.2.1 hmessage
  rw [buildJoinRetMessage_eq]
  apply @jsonStringValue_member_iff _ 6 _ _ isFieldName_stationUuid rfl
  cases ok with
  | true => simp [joinRetMembers, hfixed, hpassed]
  | false => simp [joinRetMembers, hfixed, hpassed]

theorem stationName_joinRet_iff (hmessage : Plain message) (huuid : Plain stationUuid)
    : jsonStringValue (buildJoinRetMessage stationName stationUuid ok message)
        [ascii "StationName"] = stationName ↔ Plain stationName := by
  have hfixed := passedBy_fixed (by simp [fieldNames] : ascii "StationName" ∈ fieldNames)
  simp only [fixedMembers, List.all_cons, List.all_nil, Bool.and_eq_true] at hfixed
  have hpassed := passedBy_text passedBy_constants.2.2.1 hmessage
  have hpassed' := passedBy_text passedBy_constants.2.2.2 huuid
  rw [buildJoinRetMessage_eq]
  apply @jsonStringValue_member_iff _ 7 _ _ isFieldName_stationName rfl
  cases ok with
  | true => simp [joinRetMembers, hfixed, hpassed, hpassed']
  | false => simp [joinRetMembers, hfixed, hpassed, hpassed']

theorem stationUuid_join_iff
    : jsonStringValue (buildJoinMessage stationName stationUuid) [ascii "StationUUID"]
        = stationUuid ↔ Plain stationUuid := by
  have hfixed := passedBy_fixed (by simp [fieldNames] : ascii "StationUUID" ∈ fieldNames)
  simp only [fixedMembers, List.all_cons, List.all_nil, Bool.and_eq_true] at hfixed
  rw [buildJoinMessage_eq]
  apply @jsonStringValue_member_iff _ 4 _ _ isFieldName_stationUuid rfl
  simp [joinMembers, hfixed]

theorem stationName_join_iff (huuid : Plain stationUuid)
    : jsonStringValue (buildJoinMessage stationName stationUuid) [ascii "StationName"]
        = stationName ↔ Plain stationName := by
  have hfixed := passedBy_fixed (by simp [fieldNames] : ascii "StationName" ∈ fieldNames)
  simp only [fixedMembers, List.all_cons, List.all_nil, Bool.and_eq_true] at hfixed
  have hpassed := passedBy_text passedBy_constants.2.2.2 huuid
  rw [buildJoinMessage_eq]
  apply @jsonStringValue_member_iff _ 5 _ _ isFieldName_stationName rfl
  simp [joinMembers, hfixed, hpassed]

/-- All fields come back from both messages exactly when no text has a quote, an apostrophe or a
backslash. -/
theorem joinMessages_roundTrip_iff
    : ((jsonStringValue (buildJoinRetMessage stationName stationUuid ok message)
            [ascii "StationName"] = stationName
          ∧ jsonStringValue (buildJoinRetMessage stationName stationUuid ok message)
              [ascii "StationUUID"] = stationUuid
          ∧ jsonStringValue (buildJoinRetMessage stationName stationUuid ok message)
              [ascii "Message"] = message)
        ∧ jsonStringValue (buildJoinMessage stationName stationUuid) [ascii "StationName"]
            = stationName
        ∧ jsonStringValue (buildJoinMessage stationName stationUuid) [ascii "StationUUID"]
            = stationUuid)
      ↔ Plain stationName ∧ Plain stationUuid ∧ Plain message := by
  constructor
  . intro h
    have hmessage := (message_joinRet_iff stationName stationUuid message ok).mp h.1.2.2
    have huuid := (stationUuid_joinRet_iff stationName stationUuid message ok hmessage).mp h.1.2.1
    have hname := (stationName_joinRet_iff stationName stationUuid message ok hmessage huuid).mp
      h.1.1
    exact ⟨hname, huuid, hmessage⟩
  . intro h
    obtain ⟨hname, huuid, hmessage⟩ := h
    rw [message_joinRet_iff, stationUuid_joinRet_iff _ _ _ _ hmessage,
      stationName_joinRet_iff _ _ _ _ hmessage huuid, stationUuid_join_iff,
      stationName_join_iff _ _ huuid]
    exact ⟨⟨hname, huuid, hmessage⟩, hname, huuid⟩

end

/-- An apostrophe in the name of the station ends the name that is read. -/
theorem apostrophe_cut
    : jsonStringValue (buildJoinRetMessage (ascii "O'Neill") (ascii "a-1") true [])
        [ascii "StationName"] = ascii "O" ∧ ascii "O" ≠ ascii "O'Neill" := by
  decide +kernel

end Peraviz.Mvrxchange
