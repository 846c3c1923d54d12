import Mathlib.Data.List.Basic

/-!
This module contains the patterns of a backtracking matcher with one capture group: all the ways in
which a pattern matches at the front of a text, in the order in which they are tried, the search
for the first place with a match, and the rules for patterns that leave no choice.
-/

inductive Pattern (α : Type) where
  | one (p : α → Bool)
  | many (p : α → Bool)
  | group (body : Pattern α)
  | seq (first second : Pattern α)

namespace Pattern

variable {α : Type}

/-- What a greedy repetition can leave of a text, the longest repetition first. -/
def repeats (p : α → Bool) : List α → List (List α)
  | [] => [[]]
  | c :: rest => if p c then repeats p rest ++ [c :: rest] else [c :: rest]

/-- The matches at the front of a text: what the group has captured, and what is left. -/
def results : Pattern α → List α → List (Option (List α) × List α)
  | one _, [] => []
  | one p, c :: rest => if p c then [(none, rest)] else []
  | many p, text => (repeats p text).map (fun rest => (none, rest))
  | group body, text =>
    (body.results text).map (fun x => (some (text.take (text.length - x.2.length)), x.2))
  | seq first second, text =>
    (first.results text).flatMap (fun x => (second.results x.2).map (fun y => (y.1.or x.1, y.2)))

/-- The capture of the first match, `none` where the pattern matches nowhere. -/
def search (pattern : Pattern α) : List α → Option (Option (List α))
  | [] => (pattern.results []).head?.map Prod.fst
  | c :: rest =>
    match (pattern.results (c :: rest)).head? with
    | some found => some found.1
    | none => pattern.search rest

/-- The letters of a word, each up to `same`, and then `next`. -/
def word (same : α → α → Bool) (next : Pattern α) : List α → Pattern α
  | [] => next
  | letter :: letters => seq (one (same letter)) (word same next letters)

/-- What is left of a text behind a word. -/
def dropWord (same : α → α → Bool) : List α → List α → Option (List α)
  | [], text => some text
  | _ :: _, [] => none
  | letter :: letters, c :: rest => if same letter c then dropWord same letters rest else none

theorem dropWord_self {same : α → α → Bool} (h : ∀ c, same c c = true) (word : List α)
    : dropWord same word word = some [] := by
  induction word with
  | nil => rfl
  | cons c word ih =>
    rw [dropWord, if_pos (h c)]
    exact ih

/-! ### Patterns without a choice -/

theorem results_seq_one (p : α → Bool) (next : Pattern α) (c : α) (rest : List α)
    : (seq (one p) next).results (c :: rest) = if p c then next.results rest else [] := by
  rw [results, results]
  split
  next => simp
  next => rfl

@[simp]
theorem results_seq_one_nil (p : α → Bool) (next : Pattern α)
    : (seq (one p) next).results [] = [] := rfl

theorem results_word (same : α → α → Bool) (next : Pattern α) (letters text : List α)
    : (word same next letters).results text
        = (dropWord same letters text).elim [] next.results := by
  induction letters generalizing text with
  | nil => rfl
  | cons letter letters ih =>
    cases text with
    | nil => rfl
    | cons c rest =>
      rw [word, results_seq_one, dropWord]
      split
      next => exact ih rest
      next => rfl

theorem flatMap_repeats {β : Type} {p : α → Bool} {f : List α → List β}
    (hf : ∀ c rest, p c = true → f (c :: rest) = []) (text : List α)
    : (repeats p text).flatMap f = f (text.dropWhile p) := by
  induction text with
  | nil => simp [repeats]
  | cons c rest ih =>
    rw [repeats]
    split
    next hc =>
      rw [List.flatMap_append, ih, List.dropWhile_cons_of_pos hc, List.flatMap_singleton,
        hf c rest hc, List.append_nil]
    next hc => rw [List.flatMap_singleton, List.dropWhile_cons_of_neg hc]

/-- A repetition leaves no choice when what follows refuses its characters. -/
theorem results_seq_many {p : α → Bool} {next : Pattern α}
    (hnext : ∀ c rest, p c = true → next.results (c :: rest) = []) (text : List α)
    : (seq (many p) next).results text = next.results (text.dropWhile p) := by
  have hpair (rest : List α)
      : (next.results rest).map (fun y => (y.1.or none, y.2)) = next.results rest := by
    simp
  rw [results, results, List.flatMap_map]
  simp only [hpair]
  exact flatMap_repeats hnext text

theorem take_sub_length_dropWhile (p : α → Bool) (text : List α)
    : text.take (text.length - (text.dropWhile p).length) = text.takeWhile p := by
  have hlength := congrArg List.length (List.takeWhile_append_dropWhile (p := p) (l := text))
  rw [List.length_append] at hlength
  have hsub : text.length - (text.dropWhile p).length = (text.takeWhile p).length := by omega
  rw [hsub]
  conv => lhs; rw [← List.takeWhile_append_dropWhile (p := p) (l := text)]
  rw [List.take_left']
  simp

/-- A captured repetition and the character that ends it. -/
theorem results_seq_group_many {p q : α → Bool} (hpq : ∀ c, p c = true → q c = false)
    {text rest : List α} {c : α} (htext : text.dropWhile p = c :: rest) (hc : q c = true)
    : (seq (group (many p)) (one q)).results text = [(some (text.takeWhile p), rest)] := by
  have hrefuse (c : α) (tail : List α) (hc : p c = true) : (one q).results (c :: tail) = [] := by
    rw [results, hpq c hc]
    rfl
  have hcapture := take_sub_length_dropWhile p text
  rw [htext, List.length_cons] at hcapture
  rw [results, results, results, List.map_map, List.flatMap_map, flatMap_repeats]
  . simp [htext, hcapture, results, hc]
  . intro c tail hc
    simp [hrefuse c tail hc]

/-! ### The first place with a match -/

theorem search_of_results {pattern : Pattern α} {text : List α} {captured : Option (List α)}
    {left : List α} (h : (pattern.results text).head? = some (captured, left))
    : pattern.search text = some captured := by
  cases text with
  | nil => rw [search, h, Option.map_some]
  | cons c rest => rw [search, h]

theorem search_cons {pattern : Pattern α} {c : α} {rest : List α}
    (h : pattern.results (c :: rest) = [])
    : pattern.search (c :: rest) = pattern.search rest := by
  rw [search, h]
  rfl

theorem search_append {pattern : Pattern α} {front text : List α}
    (h : ∀ c tail, c :: tail <:+ front → pattern.results (c :: (tail ++ text)) = [])
    : pattern.search (front ++ text) = pattern.search text := by
  induction front with
  | nil => rfl
  | cons c front ih =>
    rw [List.cons_append, search_cons (h c front List.suffix_rfl)]
    apply ih
    intro d tail hsuffix
    apply h
    exact hsuffix.trans (List.suffix_cons c front)

end Pattern
