import Mathlib.Data.List.Basic
import Mathlib.Tactic.Common

/-!
# Patterns of words and separators

A pattern is a sequence of groups, each for one or more symbols of a class, and of symbols that stand for
themselves. `regexMatch` matches a whole text as a backtracking engine does, the longest word first, and
gives what the groups have captured. `Fits` says what a match is, and where each group ends at a symbol
that its class has not got there is one match at most (`regexMatch_eq_some_iff`).
-/

namespace Pattern

inductive Piece (α : Type*)
  /-- `([…]+)`. -/
  | group (cls : α → Bool)
  | literal (a : α)

variable {α : Type*}

/-- Pieces for a text. -/
def literals (l : List α) : List (Piece α) := l.map .literal

/-- The words in the class that a text begins with, each with the rest, the longest first. -/
def splits (cls : α → Bool) : List α → List (List α × List α)
  | [] => []
  | a :: text =>
    if cls a then (splits cls text).map (fun (word, rest) => (a :: word, rest)) ++ [([a], text)]
    else []

/-- What the groups capture, match by match in the order in which they are tried. -/
def allMatches [DecidableEq α] : List (Piece α) → List α → List (List (List α))
  | [], text => if text = [] then [[]] else []
  | .literal a :: ps, text =>
    match text with
    | [] => []
    | b :: text => if a = b then allMatches ps text else []
  | .group cls :: ps, text =>
    (splits cls text).flatMap fun (word, rest) => (allMatches ps rest).map (word :: ·)

/-- The captures of the first match. -/
def regexMatch [DecidableEq α] (ps : List (Piece α)) (text : List α) : Option (List (List α)) :=
  (allMatches ps text).head?

/-- One or more symbols of the class. -/
def Word (cls : α → Bool) (word : List α) : Prop := word ≠ [] ∧ ∀ a ∈ word, cls a = true

instance (cls : α → Bool) (word : List α) [DecidableEq α] : Decidable (Word cls word) :=
  inferInstanceAs (Decidable (_ ∧ _))

/-- The text is put together of the pieces, with these words for the groups. -/
def Fits : List (Piece α) → List (List α) → List α → Prop
  | [], words, text => words = [] ∧ text = []
  | .literal a :: ps, words, text => ∃ rest, text = a :: rest ∧ Fits ps words rest
  | .group cls :: ps, words, text => ∃ word words' rest, words = word :: words' ∧ text = word ++ rest ∧
    Word cls word ∧ Fits ps words' rest

/-- The next piece ends the group. -/
def EndsGroup : Piece α → List (Piece α) → Prop
  | .literal _, _ | .group _, [] => True
  | .group cls, .literal a :: _ => cls a = false
  | .group _, .group _ :: _ => False

/-- Every group but one at the end ends at a symbol that is not in its class. -/
def Separated : List (Piece α) → Prop
  | [] => True
  | p :: ps => EndsGroup p ps ∧ Separated ps

variable {ps : List (Piece α)} {words words' : List (List α)} {text : List α}

/-! ### Matches fit -/

theorem mem_splits {cls : α → Bool} {rest : List α} :
    ∀ {text word : List α}, (word, rest) ∈ splits cls text ↔
      text = word ++ rest ∧ Word cls word := by
  intro text
  induction text with
  | nil =>
    intro word
    refine iff_of_false List.not_mem_nil ?_
    rintro ⟨htext, hne, -⟩
    exact hne (List.append_eq_nil_iff.1 htext.symm).1
  | cons a text ih =>
    intro word
    unfold splits
    split
    · rename_i ha
      simp only [List.mem_append, List.mem_map, Prod.mk.injEq, List.mem_singleton, Prod.exists]
      constructor
      · rintro (⟨word', rest', hmem, rfl, rfl⟩ | ⟨rfl, rfl⟩)
        · obtain ⟨rfl, -, hcls⟩ := ih.1 hmem
          exact ⟨rfl, List.cons_ne_nil _ _, List.forall_mem_cons.2 ⟨ha, hcls⟩⟩
        · exact ⟨rfl, List.cons_ne_nil _ _, by simpa using ha⟩
      · rintro ⟨htext, hne, hcls⟩
        cases word with
        | nil => exact absurd rfl hne
        | cons b word =>
          obtain ⟨rfl, rfl⟩ := List.cons.inj htext
          cases word with
          | nil => exact .inr ⟨rfl, rfl⟩
          | cons c word =>
            have hmem := ih.2 ⟨rfl, List.cons_ne_nil c word, (List.forall_mem_cons.1 hcls).2⟩
            exact .inl ⟨c :: word, rest, hmem, rfl, rfl⟩
    · rename_i ha
      refine iff_of_false List.not_mem_nil ?_
      rintro ⟨htext, hne, hcls⟩
      cases word with
      | nil => exact hne rfl
      | cons b word =>
        obtain ⟨rfl, -⟩ := List.cons.inj htext
        exact ha (hcls a List.mem_cons_self)

theorem mem_allMatches [DecidableEq α] (ps : List (Piece α)) :
    ∀ {words : List (List α)} {text : List α}, words ∈ allMatches ps text ↔ Fits ps words text := by
  induction ps with
  | nil =>
    intro words text
    unfold allMatches
    split
    · rename_i h
      simp [Fits, h]
    · rename_i h
      simp [Fits, h]
  | cons p ps ih =>
    intro words text
    cases p with
    | literal a =>
      cases text with
      | nil => simp [allMatches, Fits]
      | cons b text =>
        by_cases hab : a = b
        · subst hab
          simp [allMatches, Fits, ih]
        · have hba : ¬ b = a := fun h => hab h.symm
          simp [allMatches, Fits, hab, hba]
    | group cls =>
      simp only [allMatches, List.mem_flatMap, List.mem_map, Prod.exists, mem_splits, ih, Fits]
      constructor
      · rintro ⟨word, rest, ⟨htext, hword⟩, words', hfits, rfl⟩
        exact ⟨word, words', rest, rfl, htext, hword, hfits⟩
      · rintro ⟨word, words', rest, rfl, htext, hword, hfits⟩
        exact ⟨word, rest, ⟨htext, hword⟩, words', hfits, rfl⟩

/-! ### One match at most -/

theorem takeWhile_word {cls : α → Bool} {word : List α} (hcls : ∀ b ∈ word, cls b = true) {a : α}
    (ha : cls a = false) (rest : List α) : (word ++ a :: rest).takeWhile cls = word := by
  rw [List.takeWhile_append_of_pos hcls, List.takeWhile_cons_of_neg (by simp [ha]), List.append_nil]

theorem Fits.unique (hsep : Separated ps) (h : Fits ps words text) (h' : Fits ps words' text) :
    words = words' := by
  induction ps generalizing words words' text with
  | nil => rw [h.1, h'.1]
  | cons p ps ih =>
    cases p with
    | literal a =>
      obtain ⟨rest, rfl, h⟩ := h
      obtain ⟨rest', hrest, h'⟩ := h'
      obtain ⟨-, rfl⟩ := List.cons.inj hrest
      exact ih hsep.2 h h'
    | group cls =>
      obtain ⟨word, words, rest, rfl, rfl, hcls, h⟩ := h
      obtain ⟨word', words', rest', rfl, htext, hcls', h'⟩ := h'
      cases ps with
      | nil =>
        obtain ⟨rfl, rfl⟩ := h
        obtain ⟨rfl, rfl⟩ := h'
        rw [List.append_nil, List.append_nil] at htext
        rw [htext]
      | cons next ps =>
        cases next with
        | group _ => exact hsep.1.elim
        | literal a =>
          have ha : cls a = false := hsep.1
          obtain ⟨tail, rfl, -⟩ := id h
          obtain ⟨tail', rfl, -⟩ := id h'
          -- both words end where the text leaves the class
          have hword : word = word' := by
            rw [← takeWhile_word hcls.2 ha tail, htext, takeWhile_word hcls'.2 ha]
          rw [hword] at htext
          rw [← List.append_cancel_left htext] at h'
          rw [hword, ih hsep.2 h h']

/-- **The captures of a separated pattern are the words that fit.** -/
theorem regexMatch_eq_some_iff [DecidableEq α] (hsep : Separated ps) :
    regexMatch ps text = some words ↔ Fits ps words text := by
  constructor
  · intro h
    exact (mem_allMatches ps).1 (List.mem_of_mem_head? h)
  · intro h
    cases hmatch : regexMatch ps text with
    | none =>
      have hmem := (mem_allMatches ps).2 h
      rw [List.head?_eq_none_iff.1 hmatch] at hmem
      cases hmem
    | some words' =>
      have h' := (mem_allMatches ps).1 (List.mem_of_mem_head? hmatch)
      rw [h.unique hsep h']

/-! ### One word or two before a text -/

theorem separated_literals (l : List α) : Separated (literals l) := by
  induction l with
  | nil => trivial
  | cons a l ih => exact ⟨trivial, ih⟩

theorem fits_literals {l : List α} : Fits (literals l) words text ↔ words = [] ∧ text = l := by
  induction l generalizing text with
  | nil => exact Iff.rfl
  | cons a l ih =>
    show (∃ rest, text = a :: rest ∧ Fits (literals l) words rest) ↔ _
    simp only [ih]
    constructor
    · rintro ⟨rest, rfl, hwords, rfl⟩
      exact ⟨hwords, rfl⟩
    · rintro ⟨hwords, rfl⟩
      exact ⟨l, rfl, hwords, rfl⟩

variable [DecidableEq α] {cls cls' : α → Bool} {a : α} {l : List α}

theorem regexMatch_word_iff (ha : cls a = false) :
    regexMatch (.group cls :: literals (a :: l)) text = some words ↔
      ∃ word, words = [word] ∧ text = word ++ a :: l ∧ Word cls word := by
  have hsep : Separated (.group cls :: literals (a :: l)) := ⟨ha, separated_literals (a :: l)⟩
  rw [regexMatch_eq_some_iff hsep]
  constructor
  · rintro ⟨word, words, rest, rfl, rfl, hword, hrest⟩
    obtain ⟨rfl, rfl⟩ := fits_literals.1 hrest
    exact ⟨word, rfl, rfl, hword⟩
  · rintro ⟨word, rfl, rfl, hword⟩
    exact ⟨word, [], a :: l, rfl, rfl, hword, fits_literals.2 ⟨rfl, rfl⟩⟩

theorem regexMatch_words_iff (ha : cls a = false) (ha' : cls' a = false) :
    regexMatch (.group cls :: .literal a :: .group cls' :: literals (a :: l)) text = some words ↔
      ∃ word word', words = [word, word'] ∧ text = word ++ a :: (word' ++ a :: l) ∧ Word cls word ∧
        Word cls' word' := by
  have hsep : Separated (.group cls :: .literal a :: .group cls' :: literals (a :: l)) :=
    ⟨ha, trivial, ha', separated_literals (a :: l)⟩
  rw [regexMatch_eq_some_iff hsep]
  constructor
  · rintro ⟨word, words, rest, rfl, rfl, hword, rest', rfl, word', words', rest, rfl, rfl, hword', hrest⟩
    obtain ⟨rfl, rfl⟩ := fits_literals.1 hrest
    exact ⟨word, word', rfl, rfl, hword, hword'⟩
  · rintro ⟨word, word', rfl, rfl, hword, hword'⟩
    exact ⟨word, [word'], a :: (word' ++ a :: l), rfl, rfl, hword, _, rfl, word', [], a :: l, rfl,
      rfl, hword', fits_literals.2 ⟨rfl, rfl⟩⟩

omit [DecidableEq α]

theorem not_mem_word (ha : cls a = false) {word : List α} (hword : Word cls word) : a ∉ word :=
  fun hmem => absurd (hword.2 a hmem) (by simp [ha])

/-- What is put together of words is taken apart where they end, whatever the parts are. -/
theorem append_cons_eq_words_iff (ha : cls a = false) (ha' : cls' a = false) {part part' word word' : List α}
    (hword : Word cls word) (hword' : Word cls' word') :
    part ++ a :: part' = word ++ a :: word' ↔ part = word ∧ part' = word' := by
  rw [eq_comm, List.append_cons_inj_of_notMem (not_mem_word ha hword) (not_mem_word ha' hword')]
  constructor
  · rintro ⟨rfl, -, rfl⟩
    exact ⟨rfl, rfl⟩
  · rintro ⟨rfl, rfl⟩
    exact ⟨rfl, rfl, rfl⟩

end Pattern
