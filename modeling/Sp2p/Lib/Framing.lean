import Mathlib.Algebra.Ring.Int.Defs
import Mathlib.Algebra.Ring.Nat
import Mathlib.Data.List.Infix
import Mathlib.Tactic.Common

/-!
# Length-prefixed frames, read piece by piece

A frame is a 32-bit length in the byte order of the host, and a body of that length. The bytes of a
stream reach a reader in non-empty pieces (`Cutting`), cut anywhere, and a reader is a step that
takes the next piece and gives a verdict or asks for more; `readLoop` runs it until the verdict.

`readLoop_cutting` is the rule for a reader whose state is a function of the bytes so far: if it asks
for more on every proper prefix of a stream and answers at its end, it answers so for every cutting.
-/

namespace Framing

abbrev Byte := UInt8

/-- The order in which a host keeps the bytes of an integer. -/
inductive ByteOrder
  | little | big
  deriving DecidableEq, Repr

namespace ByteOrder

/-- The four bytes of a 32-bit unsigned integer, from the lowest. -/
def lowFirst (n : Nat) : List Byte :=
  [n, n / 2 ^ 8, n / 2 ^ 16, n / 2 ^ 24].map fun k => UInt8.ofNat (k % 256)

/-- The integer whose bytes these are, from the lowest. -/
def ofLowFirst : List Byte → Nat
  | [] => 0
  | b :: bs => b.toNat + 256 * ofLowFirst bs

/-- The bytes of the integer as they lie in memory. -/
def encode (o : ByteOrder) (n : Nat) : List Byte :=
  match o with
  | little => lowFirst n
  | big => (lowFirst n).reverse

/-- The integer that lies in memory as these bytes. -/
def decode (o : ByteOrder) (bs : List Byte) : Nat :=
  match o with
  | little => ofLowFirst bs
  | big => ofLowFirst bs.reverse

@[simp] theorem length_encode (o : ByteOrder) (n : Nat) : (o.encode n).length = 4 := by
  cases o <;> simp [encode, lowFirst]

theorem ofLowFirst_lowFirst {n : Nat} (h : n < 2 ^ 32) : ofLowFirst (lowFirst n) = n := by
  simp only [lowFirst, List.map_cons, List.map_nil, ofLowFirst, UInt8.toNat_ofNat']
  omega

/-- What was written is read back. -/
theorem decode_encode (o : ByteOrder) {n : Nat} (h : n < 2 ^ 32) : o.decode (o.encode n) = n := by
  cases o with
  | little => exact ofLowFirst_lowFirst h
  | big => rw [decode, encode, List.reverse_reverse]; exact ofLowFirst_lowFirst h

theorem ofLowFirst_lt (bs : List Byte) : ofLowFirst bs < 256 ^ bs.length := by
  induction bs with
  | nil => simp [ofLowFirst]
  | cons b bs ih =>
    have hb : b.toNat < 256 := b.toNat_lt
    rw [ofLowFirst, List.length_cons, Nat.pow_succ]
    omega

theorem ofLowFirst_append (bs cs : List Byte) :
    ofLowFirst (bs ++ cs) = ofLowFirst bs + 256 ^ bs.length * ofLowFirst cs := by
  induction bs with
  | nil => simp [ofLowFirst]
  | cons b bs ih =>
    rw [List.cons_append, ofLowFirst, ih, ofLowFirst, List.length_cons, Nat.pow_succ', Nat.mul_add,
      Nat.mul_assoc, Nat.add_assoc]

theorem ofLowFirst_eq_zero_iff {bs : List Byte} : ofLowFirst bs = 0 ↔ ∀ b ∈ bs, b = 0 := by
  induction bs with
  | nil => simp [ofLowFirst]
  | cons b bs ih =>
    have hb : b = 0 ↔ b.toNat = 0 := UInt8.toNat_inj.symm
    rw [ofLowFirst, List.forall_mem_cons, ← ih, hb]
    omega

theorem decode_lt (o : ByteOrder) {bs : List Byte} (h : bs.length = 4) : o.decode bs < 2 ^ 32 := by
  cases o with
  | little => simpa [decode, h] using ofLowFirst_lt bs
  | big => simpa [decode, h] using ofLowFirst_lt bs.reverse

end ByteOrder

/-- A number held in a 32-bit signed integer. -/
def toInt32 (x : Int) : Int := Int.bmod x (2 ^ 32)

/-- A number held in a 32-bit unsigned integer. -/
def toUInt32 (x : Int) : Nat := (x % 2 ^ 32).toNat

/-- A length survives a signed integer. -/
theorem toUInt32_toInt32 {n : Nat} (h : n < 2 ^ 32) : toUInt32 (toInt32 n) = n := by
  have hmod : Int.bmod n (2 ^ 32) % ((2 ^ 32 : Nat) : Int) = n % ((2 ^ 32 : Nat) : Int) :=
    Int.bmod_emod
  unfold toUInt32 toInt32
  omega

/-- A length below `2 ^ 31` is not changed by one. -/
theorem toInt32_of_lt {n : Nat} (h : n < 2 ^ 31) : toInt32 n = n := by
  refine Int.bmod_eq_of_le ?_ ?_ <;> omega

/-- The low 32 bits are those of a number in the range exactly when the two differ by a multiple of
`2 ^ 32`. -/
theorem toInt32_eq_iff {x y : Int} (hlow : -2 ^ 31 ≤ y) (hhigh : y < 2 ^ 31) :
    toInt32 x = y ↔ (2 ^ 32 : Int) ∣ x - y := by
  unfold toInt32
  rw [Int.bmod_def]
  split <;> omega

/-- A length from `2 ^ 31` on becomes negative. -/
theorem toInt32_of_ge {n : Nat} (hlow : 2 ^ 31 ≤ n) (hhigh : n < 2 ^ 32) :
    toInt32 n = (n : Int) - 2 ^ 32 := by
  apply (toInt32_eq_iff (by omega) (by omega)).2
  exact ⟨1, by omega⟩

/-- A length does not grow. -/
theorem toInt32_le (n : Nat) : toInt32 n ≤ n := by
  unfold toInt32
  rw [Int.bmod_def]
  split <;> omega

-- Their values are known by the lemmas above only.
attribute [irreducible] toInt32 toUInt32

/-- A message format: the bytes of a message, and the message some bytes are of. -/
structure Codec (μ : Type) where
  serialize : μ → List Byte
  parse : List Byte → Option μ

/-- The frame of a message: its length, and its bytes. -/
def Codec.frame {μ : Type} (c : Codec μ) (o : ByteOrder) (m : μ) : List Byte :=
  o.encode (c.serialize m).length ++ c.serialize m

section Frame

variable {μ : Type} {c : Codec μ} {o : ByteOrder} {m : μ}

@[simp] theorem length_frame : (c.frame o m).length = 4 + (c.serialize m).length := by
  simp [Codec.frame]

@[simp] theorem take_frame : (c.frame o m).take 4 = o.encode (c.serialize m).length :=
  List.take_left' (o.length_encode _)

@[simp] theorem drop_frame : (c.frame o m).drop 4 = c.serialize m :=
  List.drop_left' (o.length_encode _)

end Frame

/-! ### Reading in pieces -/

variable {α σ β : Type}

/-- The pieces in which a stream can arrive, none longer than a buffer. -/
structure Cutting (size : Nat) (s : List α) (reads : List (List α)) : Prop where
  joined : reads.flatten = s
  nonempty : ∀ r ∈ reads, r ≠ []
  sized : ∀ r ∈ reads, r.length ≤ size

theorem Cutting.append {size : Nat} {s s' : List α} {reads reads' : List (List α)}
    (h : Cutting size s reads) (h' : Cutting size s' reads') :
    Cutting size (s ++ s') (reads ++ reads') where
  joined := by rw [List.flatten_append, h.joined, h'.joined]
  nonempty r hr := (List.mem_append.1 hr).elim (h.nonempty r) (h'.nonempty r)
  sized r hr := (List.mem_append.1 hr).elim (h.sized r) (h'.sized r)

theorem Cutting.cons {size : Nat} {r s : List α} {reads : List (List α)} (hr : r ≠ [])
    (hsize : r.length ≤ size) (h : Cutting size s reads) : Cutting size (r ++ s) (r :: reads) where
  joined := by rw [List.flatten_cons, h.joined]
  nonempty := by simpa [hr] using h.nonempty
  sized := by simpa [hsize] using h.sized

/-- Feed the pieces to the step until it gives a verdict. -/
def readLoop (step : σ → List α → σ × Option β) : σ → List (List α) → σ × Option β
  | s, [] => (s, none)
  | s, r :: rs =>
    match step s r with
    | (s', none) => readLoop step s' rs
    | (s', some v) => (s', some v)

variable {step : σ → List α → σ × Option β}

theorem readLoop_cons_none {s s' : σ} {r : List α} {rs : List (List α)} (h : step s r = (s', none)) :
    readLoop step s (r :: rs) = readLoop step s' rs := by
  rw [readLoop, h]

theorem readLoop_cons_some {s s' : σ} {r : List α} {rs : List (List α)} {v : β}
    (h : step s r = (s', some v)) : readLoop step s (r :: rs) = (s', some v) := by
  rw [readLoop, h]

/-- Without a verdict the loop goes on where it was. -/
theorem readLoop_append {s s' : σ} {rs rs' : List (List α)} (h : readLoop step s rs = (s', none)) :
    readLoop step s (rs ++ rs') = readLoop step s' rs' := by
  induction rs generalizing s with
  | nil => cases h; rfl
  | cons r rs ih =>
    rcases hr : step s r with ⟨s₁, _ | v⟩
    · rw [readLoop_cons_none hr] at h
      rw [List.cons_append, readLoop_cons_none hr]
      exact ih h
    · rw [readLoop_cons_some hr] at h
      cases h

/-- One element at a time. -/
def singles (s : List α) : List (List α) := s.map ([·])

@[simp] theorem flatten_singles (s : List α) : (singles s).flatten = s := by
  induction s with
  | nil => rfl
  | cons b s ih => exact congrArg (b :: ·) ih

theorem cutting_singles {size : Nat} (hsize : 0 < size) (s : List α) :
    Cutting size s (singles s) where
  joined := flatten_singles s
  nonempty := by simp [singles]
  sized := by
    simp only [singles, List.mem_map]
    rintro r ⟨b, -, rfl⟩
    exact hsize

/-- **Any cutting of a stream gets the answer at its last piece.** `state p` is the state the reader
is in after the bytes `p`, in whatever pieces they came. -/
theorem readLoop_cutting (state : List α → σ) {size : Nat} {s : List α} {final : σ} {v : β}
    (hne : s ≠ [])
    (hmore : ∀ p r, r ≠ [] → p ++ r <+: s → p ++ r ≠ s → step (state p) r = (state (p ++ r), none))
    (hdone : ∀ p r, r ≠ [] → p ++ r = s → step (state p) r = (final, some v))
    {reads : List (List α)} (hcut : Cutting size s reads) :
    ∃ early last, reads = early ++ [last] ∧ (readLoop step (state []) early).2 = none ∧
      readLoop step (state []) reads = (final, some v) := by
  have key : ∀ (rs : List (List α)) (p : List α), (∀ r ∈ rs, r ≠ []) → p ++ rs.flatten = s →
      p ≠ s → ∃ early last, rs = early ++ [last] ∧ (readLoop step (state p) early).2 = none ∧
        readLoop step (state p) rs = (final, some v) := by
    intro rs
    induction rs with
    | nil =>
      intro p _ hjoin hp
      exact absurd (by simpa using hjoin) hp
    | cons r rs ih =>
      intro p hrs hjoin _
      have hr : r ≠ [] := hrs r (by simp)
      by_cases hend : p ++ r = s
      · have hrest : rs = [] := by
          have hflat : rs.flatten = [] := by
            have : (p ++ r) ++ rs.flatten = s := by rw [← hjoin]; simp
            rw [hend] at this
            simpa using this
          cases rs with
          | nil => rfl
          | cons r' rs =>
            exact absurd (List.flatten_eq_nil_iff.1 hflat r' (by simp)) (hrs r' (by simp))
        subst hrest
        exact ⟨[], r, rfl, rfl, readLoop_cons_some (hdone p r hr hend)⟩
      · have hpre : p ++ r <+: s := ⟨rs.flatten, by rw [← hjoin]; simp⟩
        have hstep := hmore p r hr hpre hend
        obtain ⟨early, last, rfl, hearly, hloop⟩ :=
          ih (p ++ r) (fun r' hr' => hrs r' (by simp [hr'])) (by rw [← hjoin]; simp) hend
        refine ⟨r :: early, last, rfl, ?_, ?_⟩
        · rw [readLoop_cons_none hstep, hearly]
        · rw [readLoop_cons_none hstep, hloop]
  exact key reads [] hcut.nonempty (by simpa using hcut.joined) (Ne.symm hne)

end Framing
