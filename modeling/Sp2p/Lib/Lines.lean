import Mathlib.Tactic.Common

/-!
# Lines of text

Reading a text line by line (`getline`), and breaking a text into lines of a width (`wrap`). A line
that was written with its end is read back, what is broken into lines is the text with line ends
added, and a text shorter than the width is one line.
-/

namespace Lines

variable {α : Type*}

/-- The text up to the first `nl`, and what comes after that. -/
def getline [DecidableEq α] (nl : α) (text : List α) : List α × List α :=
  (text.takeWhile (· ≠ nl), (text.dropWhile (· ≠ nl)).tail)

theorem getline_append [DecidableEq α] {nl : α} {line : List α} (h : nl ∉ line) (rest : List α) :
    getline nl (line ++ nl :: rest) = (line, rest) := by
  have hline : ∀ c ∈ line, decide (c ≠ nl) = true := by
    intro c hc
    apply decide_eq_true
    intro he
    exact h (he ▸ hc)
  unfold getline
  rw [List.takeWhile_append_of_pos hline, List.dropWhile_append_of_pos hline]
  simp

/-- Break a text into lines, with `room` symbols left in the first; a last line that is not full is
ended too. -/
def wrapFrom (nl : α) (width : Nat) : Nat → List α → List α
  | room, [] => if room = width then [] else [nl]
  | room, c :: cs =>
    if room ≤ 1 then c :: nl :: wrapFrom nl width width cs
    else c :: wrapFrom nl width (room - 1) cs

/-- Break a text into lines of this width. -/
def wrap (nl : α) (width : Nat) (text : List α) : List α := wrapFrom nl width width text

theorem filter_wrapFrom {nl : α} {width : Nat} {p : α → Bool} (hnl : p nl = false) {text : List α} :
    ∀ {room : Nat}, (∀ c ∈ text, p c = true) → (wrapFrom nl width room text).filter p = text := by
  induction text with
  | nil =>
    intro room _
    unfold wrapFrom
    split
    · rfl
    · simp [hnl]
  | cons c cs ih =>
    intro room h
    have hc := h c (by simp)
    have hcs : ∀ c ∈ cs, p c = true := fun c hc => h c (by simp [hc])
    unfold wrapFrom
    split
    · rw [List.filter_cons_of_pos hc, List.filter_cons_of_neg (by simp [hnl]), ih hcs]
    · rw [List.filter_cons_of_pos hc, ih hcs]

/-- The line ends are all that is added. -/
theorem filter_wrap {nl : α} {width : Nat} {p : α → Bool} (hnl : p nl = false) {text : List α}
    (h : ∀ c ∈ text, p c = true) : (wrap nl width text).filter p = text :=
  filter_wrapFrom hnl h

theorem wrapFrom_of_length_lt {nl : α} {width : Nat} {text : List α} :
    ∀ {room : Nat}, room < width → text.length < room →
      wrapFrom nl width room text = text ++ [nl] := by
  induction text with
  | nil =>
    intro room hroom _
    unfold wrapFrom
    rw [if_neg (by omega)]
    rfl
  | cons c cs ih =>
    intro room hroom hlen
    rw [List.length_cons] at hlen
    unfold wrapFrom
    rw [if_neg (by omega), ih (by omega) (by omega)]
    rfl

/-- A short text is one line. -/
theorem wrap_of_length_lt {nl : α} {width : Nat} {text : List α} (hne : text ≠ [])
    (hlen : text.length < width) : wrap nl width text = text ++ [nl] := by
  cases text with
  | nil => exact absurd rfl hne
  | cons c cs =>
    rw [List.length_cons] at hlen
    unfold wrap wrapFrom
    rw [if_neg (by omega), wrapFrom_of_length_lt (by omega) (by omega)]
    rfl

end Lines
