import Mathlib.Data.List.DropRight

/-!
# Column types

What PostgreSQL does with the text it is given for a `char(n)` or `varchar(n)` column, and what
`utils::toString` reads back. A text is taken whole here; on its way to PostgreSQL it ends at its first
NUL, and `Sp2p.Tracker.NulFree` is about that.
-/

namespace Sp2p.Tracker

/-- Text without its trailing blanks. -/
def rstrip (s : String) : String := String.ofList (s.toList.rdropWhile (· = ' '))

@[simp] theorem rstrip_rstrip (s : String) : rstrip (rstrip s) = rstrip s := by
  simp [rstrip, List.rdropWhile_idempotent]

/-- A `char(n)` value. Trailing blanks are not significant in it, so it is held without them. -/
@[ext] structure BpChar (n : Nat) where
  text : String
  trimmed : rstrip text = text
  fits : text.length ≤ n
  deriving DecidableEq

/-- Assignment to a `char(n)` column: an error when more than blanks would be cut off. -/
def BpChar.ofText (n : Nat) (s : String) : Option (BpChar n) :=
  if h : (rstrip s).length ≤ n then some ⟨rstrip s, rstrip_rstrip s, h⟩ else none

/-- The value as a `SELECT` delivers it, padded to the column's width. -/
def BpChar.out {n : Nat} (b : BpChar n) : String :=
  String.ofList (b.text.toList ++ List.replicate (n - b.text.length) ' ')

theorem BpChar.ofText_eq_some {n : Nat} {s : String} {b : BpChar n} :
    BpChar.ofText n s = some b ↔ b.text = rstrip s := by
  unfold BpChar.ofText
  split
  · rename_i h
    simp only [Option.some.injEq]
    exact ⟨fun e => e ▸ rfl, fun e => by ext1; exact e.symm⟩
  · rename_i h
    simp only [reduceCtorEq, false_iff]
    exact fun e => h (e ▸ b.fits)

theorem BpChar.exists_ofText {n : Nat} {s : String} :
    (∃ b, BpChar.ofText n s = some b) ↔ (rstrip s).length ≤ n := by
  unfold BpChar.ofText
  split <;> simp [*]

/-- Assignment to a `varchar(n)` column: blanks beyond the width are cut off, anything else there
is an error. -/
def varchar (n : Nat) (s : String) : Option String :=
  if s.length ≤ n then some s
  else if (s.toList.drop n).all (· = ' ') then some (String.ofList (s.toList.take n)) else none

/-- `std::isspace` in the C locale: the blank, and the codes from tab to carriage return. -/
def isSpace (c : Char) : Bool := c = ' ' || (9 ≤ c.toNat && c.toNat ≤ 13)

theorem rstrip_of_noSpace {s : String} (h : ∀ c ∈ s.toList, isSpace c = false) : rstrip s = s := by
  have hself : s.toList.rdropWhile (· = ' ') = s.toList := by
    refine List.rdropWhile_eq_self_iff.2 fun hne hlast => ?_
    have hspace := h _ (List.getLast_mem hne)
    rw [of_decide_eq_true hlast] at hspace
    exact absurd hspace (by decide)
  rw [rstrip, hself, String.ofList_toList]

/-- `utils::toString`: the field is written to a stream and the first word is extracted. -/
def toStdString (field : String) : String :=
  String.ofList ((field.toList.dropWhile isSpace).takeWhile (!isSpace ·))

theorem toStdString_of_noSpace {s : String} (h : ∀ c ∈ s.toList, isSpace c = false) :
    toStdString s = s := by
  have hdrop : s.toList.dropWhile isSpace = s.toList := by
    cases hs : s.toList with
    | nil => rfl
    | cons c cs => simp [h c (by simp [hs])]
  rw [toStdString, hdrop, List.takeWhile_eq_self_iff.2 (by simpa using h), String.ofList_toList]

/-- A word comes back from a `char(n)` column as it was stored: the padding is not read. -/
theorem toStdString_out {n : Nat} {b : BpChar n} (h : ∀ c ∈ b.text.toList, isSpace c = false) :
    toStdString b.out = b.text := by
  have key : ∀ (l : List Char) (k : Nat), (∀ c ∈ l, isSpace c = false) →
      ((l ++ List.replicate k ' ').dropWhile isSpace).takeWhile (!isSpace ·) = l := by
    intro l k hl
    cases l with
    | nil =>
      have : (List.replicate k ' ').dropWhile isSpace = [] :=
        List.dropWhile_eq_nil_iff.2 fun c hc => by rw [List.eq_of_mem_replicate hc]; decide
      simp [this]
    | cons c cs =>
      rw [List.cons_append, List.dropWhile_cons, hl c (by simp), ← List.cons_append]
      simp only [Bool.false_eq_true, if_false]
      rw [List.takeWhile_append_of_pos (by simpa using hl)]
      cases k with
      | zero => simp
      | succ k => simp [List.replicate_succ, isSpace]
  rw [toStdString, BpChar.out, String.toList_ofList, key _ _ h, String.ofList_toList]

/-- There is no white space in the text. -/
def NoSpace (s : String) : Prop := ∀ c ∈ s.toList, isSpace c = false

instance (s : String) : Decidable (NoSpace s) :=
  List.decidableBAll (fun c => isSpace c = false) s.toList

theorem noSpace_toStdString (field : String) : NoSpace (toStdString field) := by
  intro c hc
  rw [toStdString, String.toList_ofList] at hc
  simpa using List.mem_takeWhile_imp hc

/-- What was stored in a `char(n)` column is read back exactly when there is no white space in it. -/
theorem toStdString_out_ofText {n : Nat} {s : String} {b : BpChar n}
    (h : BpChar.ofText n s = some b) : toStdString b.out = s ↔ NoSpace s := by
  constructor
  · intro he
    rw [← he]
    exact noSpace_toStdString _
  · intro hs
    have htext : b.text = s := (BpChar.ofText_eq_some.1 h).trans (rstrip_of_noSpace hs)
    rw [toStdString_out (by rw [htext]; exact hs), htext]

/-- And in a `varchar(n)` column. -/
theorem toStdString_varchar {n : Nat} {s stored : String} (h : varchar n s = some stored) :
    toStdString stored = s ↔ NoSpace s := by
  constructor
  · intro he
    rw [← he]
    exact noSpace_toStdString _
  · intro hs
    unfold varchar at h
    by_cases hlen : s.length ≤ n
    · rw [if_pos hlen, Option.some_inj] at h
      rw [← h, toStdString_of_noSpace hs]
    · -- what is beyond the width would have to be blanks
      rw [if_neg hlen] at h
      obtain ⟨hblank, -⟩ := Option.ite_none_right_eq_some.1 h
      have hlen' : n < s.toList.length := by rw [String.length_toList]; omega
      have hmem : s.toList[n] ∈ s.toList.drop n :=
        List.mem_drop_iff_getElem.2 ⟨0, by simpa using hlen', by simp⟩
      have hspace := hs _ (List.getElem_mem hlen')
      rw [of_decide_eq_true (List.all_eq_true.1 hblank _ hmem)] at hspace
      exact absurd hspace (by decide)

end Sp2p.Tracker
