import Sp2p.Sercli.Parser

/-!
# The ends of frames

What the client's parser makes of an arbitrary stream. It gives its verdict on all that is in the
buffer, and it compares lengths as signed 32-bit integers: a length from `2 ^ 31` on is negative and
reached at once, the length `2 ^ 32 - 1` is taken for no length at all and dropped, and a buffer of
`2 ^ 31` bytes or more has a negative size and is never long enough. `endsRight_iff` says for which
streams and cuttings the first verdict is nevertheless the one on the first frame.
-/

namespace Sp2p.Sercli

open Framing Protocol

/-- The length that a stream begins with. -/
def declared (o : ByteOrder) (bytes : List Byte) : Nat := o.decode (bytes.take 4)

/-- The bytes of the first frame behind its length. -/
def payload (o : ByteOrder) (bytes : List Byte) : List Byte := (bytes.drop 4).take (declared o bytes)

/-- The verdict `v` after `bytes`, which leaves the parser as `p`, is the one on the first frame. -/
structure EndsRight (o : ByteOrder) (codec : Codec NodeMessage) (bytes : List Byte)
    (p : NodeResponseParser) (v : ParseResult) : Prop where
  arrived : 4 + declared o bytes ≤ bytes.length
  verdict : v = (codec.parse (payload o bytes)).elim .bad .good
  kept : ∀ message, v = .good message → p = ⟨-1, bytes.drop (4 + declared o bytes)⟩

/-- The first verdict on a stream that is read in these pieces, if there is one, is right. -/
def RespectsFrames (o : ByteOrder) (codec : Codec NodeMessage) (reads : List (List Byte)) : Prop :=
  ∀ early r later p v, reads = early ++ r :: later → (readMessage o codec {} early).2 = none →
    readMessage o codec {} (early ++ [r]) = (p, some v) →
    EndsRight o codec (early ++ [r]).flatten p v

namespace NodeResponseParser

/-- The parser when the bytes of a call are in the buffer and the length has been looked for. -/
def fill (o : ByteOrder) (p : NodeResponseParser) (data : List Byte) : NodeResponseParser :=
  readSize o ⟨p.messageSize, p.sb ++ data⟩

/-- The buffer does not overflow and has fewer bytes than the length says, as far as the parser can
see. -/
def Quiet (o : ByteOrder) (p : NodeResponseParser) (data : List Byte) : Prop :=
  (p.sb ++ data).length ≤ max_buffer_size ∧
    ((fill o p data).messageSize = -1 ∨ toInt32 (fill o p data).sb.length < (fill o p data).messageSize)

/-- Every read is. -/
def Silent (o : ByteOrder) : NodeResponseParser → List (List Byte) → Prop
  | _, [] => True
  | p, r :: rs => Quiet o p r ∧ Silent o (fill o p r) rs

variable {o : ByteOrder} {codec : Codec NodeMessage} {p : NodeResponseParser} {r : List Byte}

theorem parse_of_quiet (h : Quiet o p r) : p.parse o codec r = (fill o p r, none) := by
  have hnot : ¬ ((fill o p r).messageSize ≤ toInt32 (fill o p r).sb.length ∧
      (fill o p r).messageSize ≠ -1) := by
    rintro ⟨hle, hne⟩
    rcases h.2 with heq | hlt
    · exact hne heq
    · omega
  rw [parse, if_neg (Nat.not_lt.2 h.1)]
  exact if_neg hnot

theorem parse_of_overflow (h : max_buffer_size < (p.sb ++ r).length) :
    p.parse o codec r = (reset, some .bad) := by
  rw [parse, if_pos h]

/-- A call that finds the buffer long enough reads all of it. -/
theorem parse_of_not_quiet (h : ¬ Quiet o p r) (hfits : (p.sb ++ r).length ≤ max_buffer_size) :
    p.parse o codec r =
      (⟨-1, []⟩, some ((codec.parse (fill o p r).sb).elim .bad .good)) := by
  have hready : (fill o p r).messageSize ≤ toInt32 (fill o p r).sb.length ∧
      (fill o p r).messageSize ≠ -1 := by
    by_contra hnot
    apply h
    refine ⟨hfits, ?_⟩
    by_cases heq : (fill o p r).messageSize = -1
    · exact .inl heq
    · right
      by_contra hle
      exact hnot ⟨by omega, heq⟩
  rw [parse, if_neg (Nat.not_lt.2 hfits)]
  unfold parseBuffer
  rw [show readSize o ⟨p.messageSize, p.sb ++ r⟩ = fill o p r from rfl, if_pos hready]
  cases codec.parse (fill o p r).sb <;> rfl

theorem parse_eq_none_iff : (p.parse o codec r).2 = none ↔ Quiet o p r := by
  constructor
  · intro h
    by_contra hnot
    by_cases hfits : (p.sb ++ r).length ≤ max_buffer_size
    · rw [parse_of_not_quiet hnot hfits] at h
      cases h
    · rw [parse_of_overflow (Nat.not_le.1 hfits)] at h
      cases h
  · intro h
    rw [parse_of_quiet h]

/-- The parser after reads without a verdict. -/
def filled (o : ByteOrder) (reads : List (List Byte)) : NodeResponseParser := reads.foldl (fill o) {}

theorem filled_append (reads : List (List Byte)) (r : List Byte) :
    filled o (reads ++ [r]) = fill o (filled o reads) r := by
  rw [filled, List.foldl_append]
  rfl

theorem silent_append {reads : List (List Byte)} :
    ∀ {p : NodeResponseParser}, Silent o p (reads ++ [r]) ↔
      Silent o p reads ∧ Quiet o (reads.foldl (fill o) p) r := by
  induction reads with
  | nil =>
    intro p
    exact ⟨fun h => ⟨trivial, h.1⟩, fun h => ⟨h.2, trivial⟩⟩
  | cons r' rs ih =>
    intro p
    constructor
    · rintro ⟨hquiet, hrest⟩
      obtain ⟨hsilent, hlast⟩ := ih.1 hrest
      exact ⟨⟨hquiet, hsilent⟩, hlast⟩
    · rintro ⟨⟨hquiet, hsilent⟩, hlast⟩
      exact ⟨hquiet, ih.2 ⟨hsilent, hlast⟩⟩

theorem readMessage_of_silent {reads : List (List Byte)} :
    ∀ {p : NodeResponseParser}, Silent o p reads →
      readMessage o codec p reads = (reads.foldl (fill o) p, none) := by
  induction reads with
  | nil =>
    intro p _
    rfl
  | cons r rs ih =>
    intro p h
    rw [readMessage, readLoop_cons_none (parse_of_quiet h.1)]
    exact ih h.2

theorem readMessage_eq_none_iff {reads : List (List Byte)} :
    ∀ {p : NodeResponseParser}, (readMessage o codec p reads).2 = none ↔ Silent o p reads := by
  induction reads with
  | nil =>
    intro p
    exact ⟨fun _ => trivial, fun _ => rfl⟩
  | cons r rs ih =>
    intro p
    constructor
    · intro h
      by_cases hquiet : Quiet o p r
      · rw [readMessage, readLoop_cons_none (parse_of_quiet hquiet)] at h
        exact ⟨hquiet, ih.1 h⟩
      · have hsome : (p.parse o codec r).2 ≠ none := mt parse_eq_none_iff.1 hquiet
        obtain ⟨v, hv⟩ := Option.ne_none_iff_exists'.1 hsome
        rw [readMessage, readLoop_cons_some (Prod.ext rfl hv)] at h
        cases h
    · intro h
      rw [readMessage_of_silent h]

/-! ### Where the reads have brought the parser -/

theorem declared_append {bytes : List Byte} (h : 4 ≤ bytes.length) (r : List Byte) :
    declared o (bytes ++ r) = declared o bytes := by
  rw [declared, List.take_append_of_le_length h, declared]

theorem declared_lt {bytes : List Byte} (h : 4 ≤ bytes.length) : declared o bytes < 2 ^ 32 :=
  o.decode_lt (by rw [List.length_take]; omega)

theorem toInt32_declared_ne {bytes : List Byte} (h : 4 ≤ bytes.length)
    (hn : declared o bytes ≠ 2 ^ 32 - 1) : toInt32 (declared o bytes) ≠ -1 := by
  have hlt := declared_lt (o := o) h
  by_cases hlow : declared o bytes < 2 ^ 31
  · rw [toInt32_of_lt hlow]
    omega
  · rw [toInt32_of_ge (by omega) hlt]
    omega

/-- As long as the length is not dropped. -/
theorem fill_after {bytes : List Byte} (h : 4 ≤ bytes.length → declared o bytes ≠ 2 ^ 32 - 1)
    (r : List Byte) : fill o (after o bytes) r = after o (bytes ++ r) := by
  refine readSize_after r fun h4 => ?_
  rw [after_long h4]
  exact toInt32_declared_ne h4 (h h4)

theorem fill_of_low {bytes : List Byte} (hn : declared o (bytes ++ r) < 2 ^ 31) :
    fill o (after o bytes) r = after o (bytes ++ r) := by
  refine fill_after (fun h4 => ?_) r
  rw [← declared_append h4 r]
  omega

/-- Where reads without a verdict bring the parser. -/
structure Waits (o : ByteOrder) (bytes : List Byte) (p : NodeResponseParser) : Prop where
  state : (4 ≤ bytes.length → declared o bytes ≠ 2 ^ 32 - 1) → p = after o bytes
  length : 4 ≤ bytes.length → declared o bytes < 2 ^ 31 ∨ declared o bytes = 2 ^ 32 - 1

/-- A negative length is reached by any buffer that is not too long to be seen. -/
theorem not_quiet_negative {bytes : List Byte} (hshort : bytes.length < 4) (hr : r.length < 2 ^ 31)
    (h4 : 4 ≤ (bytes ++ r).length) (hlow : 2 ^ 31 ≤ declared o (bytes ++ r))
    (hn : declared o (bytes ++ r) ≠ 2 ^ 32 - 1) : ¬ Quiet o (after o bytes) r := by
  have hlt := declared_lt (o := o) h4
  have hlen : (bytes ++ r).length = bytes.length + r.length := List.length_append
  rintro ⟨-, hquiet⟩
  rw [fill_after (fun h => absurd h (by omega)), after_long h4] at hquiet
  rcases hquiet with heq | hless
  · exact toInt32_declared_ne h4 hn heq
  · have hbuf : toInt32 ((bytes ++ r).drop 4).length = ((bytes ++ r).drop 4).length :=
      toInt32_of_lt (by rw [List.length_drop]; omega)
    rw [show o.decode ((bytes ++ r).take 4) = declared o (bytes ++ r) from rfl,
      toInt32_of_ge hlow hlt] at hless
    simp only [hbuf] at hless
    omega

theorem Waits.read {bytes : List Byte} (h : Waits o bytes p) (hr : r.length < 2 ^ 31)
    (hquiet : Quiet o p r) : Waits o (bytes ++ r) (fill o p r) := by
  have hlen : (bytes ++ r).length = bytes.length + r.length := List.length_append
  constructor
  · intro hn
    have hn' : 4 ≤ bytes.length → declared o bytes ≠ 2 ^ 32 - 1 := by
      intro h4
      rw [← declared_append h4 r]
      exact hn (by omega)
    rw [h.state hn', fill_after hn']
  · intro h4'
    by_cases h4 : 4 ≤ bytes.length
    · rw [declared_append h4]
      exact h.length h4
    · by_contra hnot
      rw [h.state fun hc => absurd hc h4] at hquiet
      exact not_quiet_negative (by omega) hr h4' (by omega) (by omega) hquiet

theorem waits_filled (reads : List (List Byte)) (hreads : ∀ r ∈ reads, r.length < 2 ^ 31)
    (h : Silent o {} reads) : Waits o reads.flatten (filled o reads) := by
  induction reads using List.reverseRecOn with
  | nil => exact ⟨fun _ => (after_short (by simp)).symm, fun h4 => by simp at h4⟩
  | append_singleton reads r ih =>
    obtain ⟨hsilent, hquiet⟩ := silent_append.1 h
    have hwaits := ih (fun r' hr' => hreads r' (List.mem_append_left _ hr')) hsilent
    rw [List.flatten_append, List.flatten_singleton, filled_append]
    exact hwaits.read (hreads r (by simp)) hquiet

/-! ### The verdict -/

/-- How a verdict on all of the buffer can be the one on the first frame, for the read `r` that
brings the bytes to `bytes`. -/
inductive EndsWell (o : ByteOrder) (codec : Codec NodeMessage) (p : NodeResponseParser)
    (r bytes : List Byte) : Prop
  /-- The read ends where the frame does. -/
  | exact (hn : declared o bytes < 2 ^ 31) (hend : bytes.length = 4 + declared o bytes)
  /-- The read goes on behind the frame, and neither the frame nor all that is there is a message. -/
  | unparsable (hn : declared o bytes < 2 ^ 31) (hend : 4 + declared o bytes ≤ bytes.length)
      (hseen : bytes.length < 4 + 2 ^ 31) (hall : codec.parse (bytes.drop 4) = none)
      (hframe : codec.parse (payload o bytes) = none)
  /-- A buffer that was too long to be seen overflows, and the frame is no message. -/
  | overflow (hn : declared o bytes < 2 ^ 31) (hend : 4 + max_buffer_size < bytes.length)
      (hframe : codec.parse (payload o bytes) = none)
  /-- The length was dropped, and what is read as a message later, when there are as many bytes, is
  what the frame is. -/
  | dropped (hn : declared o bytes = 2 ^ 32 - 1) (hend : 4 + declared o bytes ≤ bytes.length)
      (hverdict : if max_buffer_size < (p.sb ++ r).length then codec.parse (payload o bytes) = none
        else codec.parse (fill o p r).sb = codec.parse (payload o bytes) ∧
          (codec.parse (payload o bytes) = none ∨ bytes.length = 4 + declared o bytes))

/-- The read that completes the first frame for the parser, if there is one, ends it well. -/
def EndsClean (o : ByteOrder) (codec : Codec NodeMessage) (reads : List (List Byte)) : Prop :=
  ∀ early r later, reads = early ++ r :: later → Silent o {} early → ¬ Quiet o (filled o early) r →
    EndsWell o codec (filled o early) r (early ++ [r]).flatten

theorem verdict_eq_iff {message message' : Option NodeMessage} :
    message.elim ParseResult.bad .good = message'.elim .bad .good ↔ message = message' := by
  cases message <;> cases message' <;> simp

/-- A verdict on all of the buffer. -/
theorem endsRight_all_iff {bytes all : List Byte} (hend : 4 + declared o bytes ≤ bytes.length) :
    EndsRight o codec bytes ⟨-1, []⟩ ((codec.parse all).elim .bad .good) ↔
      codec.parse all = codec.parse (payload o bytes) ∧
        (codec.parse (payload o bytes) = none ∨ bytes.length = 4 + declared o bytes) := by
  constructor
  · rintro ⟨-, hverdict, hkept⟩
    have hsame := verdict_eq_iff.1 hverdict
    refine ⟨hsame, ?_⟩
    cases hframe : codec.parse (payload o bytes) with
    | none => exact .inl rfl
    | some message =>
      right
      rw [hsame, hframe] at hkept
      have hrest := congrArg (fun p => p.sb.length) (hkept message rfl)
      simp only [List.length_nil, List.length_drop] at hrest
      omega
  · rintro ⟨hsame, hor⟩
    refine ⟨hend, verdict_eq_iff.2 hsame, ?_⟩
    intro message hmessage
    rcases hor with hnone | hlen
    · rw [hsame, hnone] at hmessage
      cases hmessage
    · rw [List.drop_eq_nil_of_le (by omega)]

/-- The verdict on a buffer that overflows. -/
theorem endsRight_overflow_iff {bytes : List Byte} (hend : 4 + declared o bytes ≤ bytes.length) :
    EndsRight o codec bytes reset .bad ↔ codec.parse (payload o bytes) = none := by
  constructor
  · rintro ⟨-, hverdict, -⟩
    cases hframe : codec.parse (payload o bytes) with
    | none => rfl
    | some message =>
      rw [hframe] at hverdict
      cases hverdict
  · intro hframe
    refine ⟨hend, by rw [hframe]; rfl, ?_⟩
    intro message h
    cases h

theorem quiet_of_short {bytes : List Byte} (h : (bytes ++ r).length < 4) :
    Quiet o (after o bytes) r := by
  have hlen : (bytes ++ r).length = bytes.length + r.length := List.length_append
  have hstate : after o bytes = ⟨-1, bytes⟩ := after_short (by omega)
  rw [hstate]
  refine ⟨?_, .inl ?_⟩
  · show (bytes ++ r).length ≤ max_buffer_size
    rw [max_buffer_size]
    omega
  · show (after o (bytes ++ r)).messageSize = -1
    rw [after_short h]

/-- The buffer overflows when the bytes behind the length are too many. -/
theorem overflow_iff {bytes : List Byte} (hr : r.length < 2 ^ 31) :
    max_buffer_size < ((after o bytes).sb ++ r).length ↔
      4 + max_buffer_size < (bytes ++ r).length := by
  rw [List.length_append, List.length_append, max_buffer_size]
  by_cases h4 : 4 ≤ bytes.length
  · rw [after_long h4, List.length_drop]
    omega
  · rw [after_short (by omega)]
    simp only
    omega

/-- A length below `2 ^ 31` is reached by the buffers that have it and can be seen. -/
theorem ready_of_not_quiet {bytes : List Byte} (hr : r.length < 2 ^ 31)
    (h4 : 4 ≤ (bytes ++ r).length) (hn : declared o (bytes ++ r) < 2 ^ 31)
    (hfits : ¬ 4 + max_buffer_size < (bytes ++ r).length) (h : ¬ Quiet o (after o bytes) r) :
    4 + declared o (bytes ++ r) ≤ (bytes ++ r).length ∧ (bytes ++ r).length < 4 + 2 ^ 31 := by
  have hsize : o.decode ((bytes ++ r).take 4) = declared o (bytes ++ r) := rfl
  have hsb : ((bytes ++ r).drop 4).length = (bytes ++ r).length - 4 := List.length_drop
  rw [max_buffer_size] at hfits
  by_contra hnot
  refine h ⟨Nat.not_lt.1 (mt (overflow_iff hr).1 (by rw [max_buffer_size]; omega)), .inr ?_⟩
  rw [fill_of_low hn, after_long h4, hsize, toInt32_of_lt hn]
  simp only [hsb]
  by_cases hseen : (bytes ++ r).length - 4 < 2 ^ 31
  · rw [toInt32_of_lt hseen]
    omega
  · rw [toInt32_of_ge (by omega) (by omega)]
    omega

/-- A frame of less than `2 ^ 31` bytes. -/
theorem endsRight_iff_low {bytes : List Byte} {v : ParseResult} {p' : NodeResponseParser}
    (hr : r.length < 2 ^ 31) (h4 : 4 ≤ (bytes ++ r).length)
    (hn : declared o (bytes ++ r) < 2 ^ 31) (hspeaks : ¬ Quiet o (after o bytes) r)
    (hparse : (after o bytes).parse o codec r = (p', some v)) :
    EndsRight o codec (bytes ++ r) p' v ↔ EndsWell o codec (after o bytes) r (bytes ++ r) := by
  have hstate : fill o (after o bytes) r = after o (bytes ++ r) := fill_of_low hn
  by_cases hover : 4 + max_buffer_size < (bytes ++ r).length
  · rw [parse_of_overflow ((overflow_iff hr).2 hover)] at hparse
    cases hparse
    rw [max_buffer_size] at hover
    rw [endsRight_overflow_iff (by omega)]
    constructor
    · intro hframe
      exact .overflow hn (by rw [max_buffer_size]; exact hover) hframe
    · rintro (⟨-, hend⟩ | ⟨-, -, hseen, -, -⟩ | ⟨-, -, hframe⟩ | ⟨hmax, -, -⟩)
      · omega
      · omega
      · exact hframe
      · omega
  · obtain ⟨hend, hseen⟩ := ready_of_not_quiet hr h4 hn hover hspeaks
    rw [parse_of_not_quiet hspeaks (Nat.not_lt.1 (mt (overflow_iff hr).1 hover)), hstate,
      after_long h4] at hparse
    cases hparse
    rw [endsRight_all_iff hend]
    constructor
    · rintro ⟨hsame, hnone | hlen⟩
      · exact .unparsable hn hend hseen (hsame.trans hnone) hnone
      · exact .exact hn hlen
    · rintro (⟨-, hlen⟩ | ⟨-, -, -, hall, hframe⟩ | ⟨-, hmax, -⟩ | ⟨hmax, -, -⟩)
      · have hall : payload o (bytes ++ r) = (bytes ++ r).drop 4 :=
          List.take_of_length_le (by rw [List.length_drop]; omega)
        rw [hall]
        exact ⟨rfl, .inr hlen⟩
      · exact ⟨hall.trans hframe.symm, .inl hframe⟩
      · exact absurd hmax hover
      · omega

/-- A frame whose length is taken for none. -/
theorem endsRight_iff_dropped {bytes : List Byte} {v : ParseResult} {p' : NodeResponseParser}
    (hn : declared o bytes = 2 ^ 32 - 1) (hspeaks : ¬ Quiet o p r)
    (hparse : p.parse o codec r = (p', some v)) :
    EndsRight o codec bytes p' v ↔ EndsWell o codec p r bytes := by
  by_cases hend : 4 + declared o bytes ≤ bytes.length
  · have hwell : EndsWell o codec p r bytes ↔
        if max_buffer_size < (p.sb ++ r).length then codec.parse (payload o bytes) = none
        else codec.parse (fill o p r).sb = codec.parse (payload o bytes) ∧
          (codec.parse (payload o bytes) = none ∨ bytes.length = 4 + declared o bytes) := by
      constructor
      · rintro (⟨hlow, -⟩ | ⟨hlow, -, -, -, -⟩ | ⟨hlow, -, -⟩ | ⟨-, -, hverdict⟩)
        · omega
        · omega
        · omega
        · exact hverdict
      · exact .dropped hn hend
    rw [hwell]
    by_cases hover : max_buffer_size < (p.sb ++ r).length
    · rw [parse_of_overflow hover] at hparse
      cases hparse
      rw [if_pos hover, endsRight_overflow_iff hend]
    · rw [parse_of_not_quiet hspeaks (Nat.not_lt.1 hover)] at hparse
      cases hparse
      rw [if_neg hover, endsRight_all_iff hend]
  · constructor
    · intro hright
      exact absurd hright.arrived hend
    · rintro (⟨hlow, -⟩ | ⟨hlow, -, -, -, -⟩ | ⟨hlow, -, -⟩ | ⟨-, hend', -⟩)
      · omega
      · omega
      · omega
      · exact absurd hend' hend

/-- The first verdict is right exactly when the read that brings it ends the frame well. -/
theorem endsRight_iff {bytes : List Byte} {v : ParseResult} {p' : NodeResponseParser}
    (hwaits : Waits o bytes p) (hr : r.length < 2 ^ 31) (hspeaks : ¬ Quiet o p r)
    (hparse : p.parse o codec r = (p', some v)) :
    EndsRight o codec (bytes ++ r) p' v ↔ EndsWell o codec p r (bytes ++ r) := by
  have hlen : (bytes ++ r).length = bytes.length + r.length := List.length_append
  by_cases hmax : declared o (bytes ++ r) = 2 ^ 32 - 1
  · exact endsRight_iff_dropped hmax hspeaks hparse
  · have hstate : p = after o bytes := by
      refine hwaits.state fun h4 => ?_
      rwa [declared_append h4] at hmax
    subst hstate
    have h4 : 4 ≤ (bytes ++ r).length := by
      by_contra hshort
      exact hspeaks (quiet_of_short (by omega))
    by_cases hn : declared o (bytes ++ r) < 2 ^ 31
    · exact endsRight_iff_low hr h4 hn hspeaks hparse
    · -- the verdict comes with the read that brings the length
      have hshort : bytes.length < 4 := by
        by_contra hlong
        have hcases := hwaits.length (by omega)
        rw [← declared_append (by omega) r] at hcases
        omega
      constructor
      · intro hright
        have harrived := hright.arrived
        omega
      · rintro (⟨hlow, -⟩ | ⟨hlow, -, -, -, -⟩ | ⟨hlow, -, -⟩ | ⟨heq, -, -⟩)
        · omega
        · omega
        · omega
        · omega

/-- Where the parser speaks. -/
theorem exists_verdict (codec : Codec NodeMessage) {early : List (List Byte)}
    (hearly : ∀ r' ∈ early, r'.length < 2 ^ 31) (hr : r.length < 2 ^ 31) (hsilent : Silent o {} early) (hspeaks : ¬ Quiet o (filled o early) r) :
    ∃ p v, readMessage o codec {} (early ++ [r]) = (p, some v) ∧
      (EndsRight o codec (early ++ [r]).flatten p v ↔
        EndsWell o codec (filled o early) r (early ++ [r]).flatten) := by
  have hsome : ((filled o early).parse o codec r).2 ≠ none := mt parse_eq_none_iff.1 hspeaks
  obtain ⟨v, hv⟩ := Option.ne_none_iff_exists'.1 hsome
  generalize hparse : (filled o early).parse o codec r = answer at hv
  obtain ⟨p, verdict⟩ := answer
  obtain rfl : verdict = some v := hv
  refine ⟨p, v, ?_, ?_⟩
  · rw [readMessage, readLoop_append (readMessage_of_silent hsilent)]
    exact readLoop_cons_some hparse
  · rw [List.flatten_append, List.flatten_singleton]
    exact endsRight_iff (waits_filled early hearly hsilent) hr hspeaks hparse

/-- A stream that has no more than one frame is fine in any cutting, whether the frame is a message
or not. -/
theorem endsClean_of_length_le {reads : List (List Byte)} (hreads : ∀ r ∈ reads, r.length < 2 ^ 31)
    (hn : declared o reads.flatten < 2 ^ 31)
    (hend : reads.flatten.length ≤ 4 + declared o reads.flatten) : EndsClean o codec reads := by
  rintro early r later rfl hsilent hspeaks
  have hwaits := waits_filled early (fun r' hr' => hreads r' (List.mem_append_left _ hr')) hsilent
  have hr : r.length < 2 ^ 31 := hreads r (by simp)
  have hall : (early ++ r :: later).flatten = (early.flatten ++ r) ++ later.flatten := by simp
  have hlen : (early.flatten ++ r).length = early.flatten.length + r.length := List.length_append
  rw [List.flatten_append, List.flatten_singleton]
  rw [hall] at hn hend
  have hdeclared : 4 ≤ (early.flatten ++ r).length →
      declared o (early.flatten ++ r ++ later.flatten) = declared o (early.flatten ++ r) := fun h4 =>
    declared_append h4 _
  rw [List.length_append] at hend
  have hstate : filled o early = after o early.flatten := by
    refine hwaits.state fun h4 => ?_
    rw [← declared_append h4 r, ← hdeclared (by omega)]
    omega
  rw [hstate] at hspeaks ⊢
  have h4 : 4 ≤ (early.flatten ++ r).length := by
    by_contra hshort
    exact hspeaks (quiet_of_short (by omega))
  rw [hdeclared h4] at hn hend
  have hready := ready_of_not_quiet hr h4 hn (by rw [max_buffer_size]; omega) hspeaks
  exact .exact hn (by omega)

/-- **The first verdict is the one on the first frame exactly when the read that brings it ends the
frame well.** The length may be any 32-bit value; a single call has less than `2 ^ 31` bytes, the
type of its length being `int`. -/
theorem respectsFrames_iff (o : ByteOrder) (codec : Codec NodeMessage) {reads : List (List Byte)}
    (hreads : ∀ r ∈ reads, r.length < 2 ^ 31) :
    RespectsFrames o codec reads ↔ EndsClean o codec reads := by
  have hparts {early later : List (List Byte)} {r : List Byte} (heq : reads = early ++ r :: later) :
      (∀ r' ∈ early, r'.length < 2 ^ 31) ∧ r.length < 2 ^ 31 := by
    subst heq
    exact ⟨fun r' hr' => hreads r' (List.mem_append_left _ hr'), hreads r (by simp)⟩
  constructor
  · intro hrespects early r later heq hsilent hspeaks
    obtain ⟨hearly, hr⟩ := hparts heq
    obtain ⟨p, v, hrun, hiff⟩ := exists_verdict codec hearly hr hsilent hspeaks
    exact hiff.1 (hrespects early r later p v heq (readMessage_eq_none_iff.2 hsilent) hrun)
  · intro hclean early r later p v heq hnone hrun
    obtain ⟨hearly, hr⟩ := hparts heq
    have hsilent : Silent o {} early := readMessage_eq_none_iff.1 hnone
    have hspeaks : ¬ Quiet o (filled o early) r := by
      intro hquiet
      have hall : Silent o {} (early ++ [r]) := silent_append.2 ⟨hsilent, hquiet⟩
      rw [readMessage_of_silent hall] at hrun
      cases hrun
    obtain ⟨p', v', hrun', hiff⟩ := exists_verdict codec hearly hr hsilent hspeaks
    obtain ⟨rfl, hv⟩ := Prod.mk.inj (hrun'.symm.trans hrun)
    obtain rfl := Option.some_inj.1 hv
    exact hiff.2 (hclean early r later heq hsilent hspeaks)

/-- The format on one message, the bare status `OK`. -/
def okCodec : Codec NodeMessage where
  serialize m := if m = { responseType := some .ok } then [0x08, 0xC8, 0x01] else []
  parse bytes := if bytes = [0x08, 0xC8, 0x01] then some { responseType := some .ok } else none

/-- One frame, cut in the body. -/
theorem respectsFrames_one : RespectsFrames .little okCodec [[3, 0, 0, 0, 0x08], [0xC8, 0x01]] := by
  have hreads : ∀ r ∈ ([[3, 0, 0, 0, 0x08], [0xC8, 0x01]] : List (List Byte)), r.length < 2 ^ 31 := by
    decide
  apply (respectsFrames_iff .little okCodec hreads).2
  exact endsClean_of_length_le hreads (by decide) (by decide)

/-- Two frames in one read: neither message is delivered. -/
theorem not_respectsFrames_two :
    ¬ ∀ reads : List (List Byte), (∀ r ∈ reads, r.length < 2 ^ 31) →
      RespectsFrames .little okCodec reads := by
  intro h
  have hright := h [[3, 0, 0, 0, 0x08, 0xC8, 0x01, 3, 0, 0, 0, 0x08, 0xC8, 0x01]] (by decide)
    [] _ [] reset .bad rfl rfl (by decide +kernel)
  exact absurd hright.verdict (by decide +kernel)

end NodeResponseParser

end Sp2p.Sercli
