import Sp2p.Lib.Framing
import Sp2p.Protocol

/-!
# Receiving a request

`RequestParser::parse` and the reads of `Connection::handle_read` that feed it. Between two calls the
parser keeps the length it read and nothing else: the bytes of a call go into a buffer that dies with
the call. So a request arrives when the socket delivers it whole, or cut exactly behind the header,
and for every other frame the outcome depends on the cuts. `uniform_iff` says which streams fare the
same however they are cut: those that no cutting gets an answer for.
-/

namespace Sp2p.Tracker

open Framing Protocol

/-! ### The parser -/

/-- What `parse` leaves for `handle_read`, when it is not indeterminate: a message to handle, or
`false`. -/
inductive Verdict
  | dispatch (m : ClientMessage)
  | reject
  deriving DecidableEq

/-- The parser between two calls. -/
structure RequestParser where
  len : Int := -1
  deriving DecidableEq

namespace RequestParser

/-- The comparison of the buffer's size with the length, and the parsing of what is in the buffer. -/
def parseBody (codec : Codec ClientMessage) (len : Int) (streambuf : List Byte) : Option Verdict :=
  if streambuf.length < toUInt32 len then none
  else if streambuf.length = toUInt32 len then
    match codec.parse streambuf with
    | some m => some (.dispatch m)
    | none => some .reject
  else some .reject

/-- `none` is indeterminate. -/
def parse (o : ByteOrder) (codec : Codec ClientMessage) (p : RequestParser) (data : List Byte) :
    RequestParser × Option Verdict :=
  if p.len = -1 ∧ data.length < 4 then (p, none)
  else if p.len = -1 then
    let len := toInt32 (o.decode (data.take 4))
    (⟨len⟩, parseBody codec len (data.drop 4))
  else (p, parseBody codec p.len data)

end RequestParser

/-- The size of `buffer_`. -/
def READ_SIZE : Nat := 8192

/-- What comes of a connection whose socket delivers these pieces: after the handshake `handle_read`
is called with no bytes, and then with each piece until one gets an answer. `none` is a connection
that still waits. -/
def serve (o : ByteOrder) (codec : Codec ClientMessage) (reads : List (List Byte)) : Option Verdict :=
  (readLoop (RequestParser.parse o codec) {} ([] :: reads)).2

variable {o : ByteOrder} {codec : Codec ClientMessage}

namespace RequestParser

/-! ### One call -/

theorem parse_short {data : List Byte} (h : data.length < 4) : parse o codec {} data = ({}, none) := by
  simp [parse, h]

/-- The first call with a whole header reads the length. -/
theorem parse_header {data : List Byte} (h : 4 ≤ data.length) :
    parse o codec {} data =
      (⟨toInt32 (o.decode (data.take 4))⟩,
        parseBody codec (toInt32 (o.decode (data.take 4))) (data.drop 4)) := by
  have hlt : ¬ data.length < 4 := by omega
  simp [parse, hlt]

/-- Later calls compare what they are given with the length. -/
theorem parse_body {p : RequestParser} (h : p.len ≠ -1) (data : List Byte) :
    parse o codec p data = (p, parseBody codec p.len data) := by
  simp [parse, h]

theorem parseBody_full {body : List Byte} (h : body.length < 2 ^ 32) :
    parseBody codec (toInt32 body.length) body =
      some (match codec.parse body with | some m => .dispatch m | none => .reject) := by
  rw [parseBody, toUInt32_toInt32 h, if_neg (Nat.lt_irrefl _), if_pos rfl]
  split <;> rfl

theorem parseBody_eq_none {len : Int} {streambuf : List Byte} :
    parseBody codec len streambuf = none ↔ streambuf.length < toUInt32 len := by
  unfold parseBody
  split
  · simp [*]
  · split
    · split <;> simp [*]
    · simp [*]

end RequestParser

/-- The call after the handshake does nothing. -/
theorem serve_eq (reads : List (List Byte)) :
    serve o codec reads = (readLoop (RequestParser.parse o codec) {} reads).2 := by
  rw [serve, readLoop_cons_none (RequestParser.parse_short (by simp))]

/-! ### Streams that fare the same -/

/-- The message is dispatched at the last piece, and before that nothing happens. -/
def DispatchedAtEnd (o : ByteOrder) (codec : Codec ClientMessage) (m : ClientMessage)
    (reads : List (List Byte)) : Prop :=
  ∃ early last, reads = early ++ [last] ∧ serve o codec early = none ∧
    serve o codec reads = some (.dispatch m)

/-- The bytes `Connection::send` of a client writes for a message. -/
def IsClientFrame (o : ByteOrder) (codec : Codec ClientMessage) (m : ClientMessage)
    (s : List Byte) : Prop :=
  m.isInitialized = true ∧ (codec.serialize m).length < 2 ^ 31 ∧ s = codec.frame o m

/-- How the stream is cut makes no difference, and if it is the frame of a message every cutting
dispatches the message at its end. -/
structure Uniform (o : ByteOrder) (codec : Codec ClientMessage) (s : List Byte) : Prop where
  same : ∀ reads reads', Cutting READ_SIZE s reads → Cutting READ_SIZE s reads' →
    serve o codec reads = serve o codec reads'
  frame : ∀ m, IsClientFrame o codec m s → ∀ reads, Cutting READ_SIZE s reads →
    DispatchedAtEnd o codec m reads

/-- The number in the four bytes at a place of the stream. -/
def lengthAt (o : ByteOrder) (s : List Byte) (i : Nat) : Nat := o.decode ((s.drop i).take 4)

/-- Wherever a length is read, no later read can be as long. -/
def Unanswered (o : ByteOrder) (s : List Byte) : Prop :=
  ∀ i, i + 4 ≤ s.length → min READ_SIZE (s.length - i - 4) < lengthAt o s i

variable {s : List Byte}

theorem lengthAt_lt {i : Nat} (h : i + 4 ≤ s.length) : lengthAt o s i < 2 ^ 32 :=
  o.decode_lt (by simp; omega)

/-- Bytes that come one at a time never make a header. -/
theorem readLoop_singles (s : List Byte) :
    readLoop (RequestParser.parse o codec) {} (singles s) = ({}, none) := by
  induction s with
  | nil => rfl
  | cons b s ih =>
    have hstep : RequestParser.parse o codec {} [b] = ({}, none) :=
      RequestParser.parse_short (by simp)
    rw [singles, List.map_cons, readLoop_cons_none hstep]
    exact ih

/-- What the parser can hold after some bytes of the stream: nothing, or the number in four of
them. -/
def Holds (o : ByteOrder) (s : List Byte) (seen : Nat) (p : RequestParser) : Prop :=
  p = {} ∨ p.len ≠ -1 ∧ ∃ i, i + 4 ≤ seen ∧ toUInt32 p.len = lengthAt o s i

theorem holds_header {i seen : Nat} (hi : i + 4 ≤ s.length) (hseen : i + 4 ≤ seen) {len : Int}
    (hlen : len = toInt32 (lengthAt o s i)) : Holds o s seen ⟨len⟩ := by
  by_cases hm : len = -1
  · exact .inl (congrArg RequestParser.mk hm)
  · have hval : toUInt32 len = lengthAt o s i := by rw [hlen, toUInt32_toInt32 (lengthAt_lt hi)]
    exact .inr ⟨hm, i, hseen, hval⟩

/-- In an unanswered stream no read gets an answer. -/
theorem parse_unanswered (hs : Unanswered o s) {p : RequestParser} {seen r rest : List Byte}
    (hjoin : seen ++ (r ++ rest) = s) (hsize : r.length ≤ READ_SIZE)
    (hp : Holds o s seen.length p) :
    ∃ p', RequestParser.parse o codec p r = (p', none) ∧ Holds o s (seen ++ r).length p' := by
  have hlen : s.length = seen.length + (r.length + rest.length) := by rw [← hjoin]; simp
  rcases hp with rfl | ⟨hne, i, hi, hval⟩
  · by_cases hr : r.length < 4
    · exact ⟨_, RequestParser.parse_short hr, .inl rfl⟩
    · have hr : 4 ≤ r.length := by omega
      have hat : o.decode (r.take 4) = lengthAt o s seen.length := by
        rw [lengthAt, ← hjoin, List.drop_left, List.take_append_of_le_length hr]
      have hun := hs seen.length (by omega)
      have hbody : RequestParser.parseBody codec (toInt32 (lengthAt o s seen.length)) (r.drop 4) =
          none := by
        rw [RequestParser.parseBody_eq_none, toUInt32_toInt32 (lengthAt_lt (by omega)),
          List.length_drop]
        omega
      rw [RequestParser.parse_header hr, hat, hbody]
      exact ⟨_, rfl, holds_header (by omega) (by simp; omega) rfl⟩
  · have hun := hs i (by omega)
    have hbody : RequestParser.parseBody codec p.len r = none := by
      rw [RequestParser.parseBody_eq_none, hval]
      omega
    rw [RequestParser.parse_body hne, hbody]
    exact ⟨p, rfl, .inr ⟨hne, i, by simp; omega, hval⟩⟩

theorem serve_unanswered (hs : Unanswered o s) {reads : List (List Byte)}
    (hcut : Cutting READ_SIZE s reads) : serve o codec reads = none := by
  rw [serve_eq]
  have key : ∀ (rs : List (List Byte)) (seen : List Byte) (p : RequestParser),
      seen ++ rs.flatten = s → (∀ r ∈ rs, r.length ≤ READ_SIZE) → Holds o s seen.length p →
      (readLoop (RequestParser.parse o codec) p rs).2 = none := by
    intro rs
    induction rs with
    | nil => intro _ _ _ _ _; rfl
    | cons r rs ih =>
      intro seen p hjoin hsize hp
      obtain ⟨p', hstep, hp'⟩ :=
        parse_unanswered hs (by simpa using hjoin) (hsize r (by simp)) hp
      rw [readLoop_cons_none hstep]
      exact ih (seen ++ r) p' (by simpa using hjoin) (fun r' hr' => hsize r' (by simp [hr'])) hp'
  exact key reads [] {} (by simpa using hcut.joined) hcut.sized (.inl rfl)

/-- All of a body in one piece, if there is any. -/
def onePiece (body : List Byte) : List (List Byte) := if body = [] then [] else [body]

theorem cutting_onePiece {body : List Byte} (h : body.length ≤ READ_SIZE) :
    Cutting READ_SIZE body (onePiece body) := by
  unfold onePiece
  split
  · rename_i hbody
    exact ⟨hbody.symm, by simp, by simp⟩
  · rename_i hbody
    exact ⟨by simp, by simpa using hbody, by simpa using h⟩

theorem toInt32_ne_neg_one {n : Nat} (h : n ≤ READ_SIZE) : toInt32 n ≠ -1 := by
  rw [toInt32_of_lt (h.trans_lt (by decide))]
  omega

/-- A header and its body that come as two pieces get their answer, also behind bytes that come one
at a time. -/
theorem serve_header_body (before header body : List Byte) (rest : List (List Byte))
    (hheader : header.length = 4) (hlen : o.decode header = body.length)
    (hbody : body.length ≤ READ_SIZE) :
    serve o codec (singles before ++ header :: (onePiece body ++ rest)) =
      some (match codec.parse body with | some m => .dispatch m | none => .reject) := by
  have hlt : body.length < 2 ^ 32 := hbody.trans_lt (by decide)
  have hstep : RequestParser.parse o codec {} header =
      (⟨toInt32 body.length⟩, RequestParser.parseBody codec (toInt32 body.length) []) := by
    rw [RequestParser.parse_header hheader.ge, List.take_of_length_le hheader.le, hlen,
      List.drop_of_length_le hheader.le]
  rw [serve_eq, readLoop_append (readLoop_singles _), onePiece]
  by_cases hempty : body = []
  · -- An empty body is complete with its header.
    subst hempty
    rw [RequestParser.parseBody_full hlt] at hstep
    rw [readLoop_cons_some hstep]
  · have hpos : 0 < body.length := List.length_pos_iff.2 hempty
    have hnone : RequestParser.parseBody codec (toInt32 body.length) [] = none := by
      rw [RequestParser.parseBody_eq_none, toUInt32_toInt32 hlt]
      exact hpos
    have hnext : RequestParser.parse o codec ⟨toInt32 body.length⟩ body =
        (⟨toInt32 body.length⟩, RequestParser.parseBody codec (toInt32 body.length) body) := by
      apply RequestParser.parse_body
      exact toInt32_ne_neg_one hbody
    rw [hnone] at hstep
    rw [RequestParser.parseBody_full hlt] at hnext
    rw [readLoop_cons_none hstep, if_neg hempty, List.cons_append, readLoop_cons_some hnext]

/-- A frame that comes whole is dispatched. -/
theorem serve_whole {m : ClientMessage} (hframe : IsClientFrame o codec m s)
    (hsize : s.length ≤ READ_SIZE) (hround : codec.parse (codec.serialize m) = some m) :
    serve o codec [s] = some (.dispatch m) := by
  obtain ⟨-, hlt, rfl⟩ := hframe
  have hlt : (codec.serialize m).length < 2 ^ 32 := by omega
  have hstep : RequestParser.parse o codec {} (codec.frame o m) =
      (⟨toInt32 (codec.serialize m).length⟩, some (.dispatch m)) := by
    rw [RequestParser.parse_header (by simp), take_frame, drop_frame, o.decode_encode hlt,
      RequestParser.parseBody_full hlt, hround]
  rw [serve_eq, readLoop_cons_some hstep]

/-- Wherever a length can be read and satisfied, some cutting gets an answer. -/
theorem exists_answered (hs : ¬ Unanswered o s) :
    ∃ reads, Cutting READ_SIZE s reads ∧ serve o codec reads ≠ none := by
  obtain ⟨i, hi, hn⟩ : ∃ i, i + 4 ≤ s.length ∧ lengthAt o s i ≤ min READ_SIZE (s.length - i - 4) := by
    simpa [Unanswered] using hs
  obtain ⟨before, header, body, rest, hsplit, hheader, hlen, hbody⟩ :
      ∃ before header body rest : List Byte, before ++ (header ++ (body ++ rest)) = s ∧
        header.length = 4 ∧ o.decode header = body.length ∧ body.length ≤ READ_SIZE := by
    refine ⟨s.take i, (s.drop i).take 4, ((s.drop i).drop 4).take (lengthAt o s i),
      ((s.drop i).drop 4).drop (lengthAt o s i), ?_, ?_, ?_, ?_⟩
    · simp only [List.take_append_drop]
    · rw [List.length_take, List.length_drop]
      omega
    · rw [List.length_take, List.length_drop, List.length_drop, Nat.min_eq_left (by omega)]
      rfl
    · rw [List.length_take]
      omega
  refine ⟨singles before ++ header :: (onePiece body ++ singles rest), ?_, ?_⟩
  · have hne : header ≠ [] := by
      rintro rfl
      simp at hheader
    have hsize : header.length ≤ READ_SIZE := by
      rw [hheader]
      decide
    rw [← hsplit]
    exact (cutting_singles (by decide) before).append
      (Cutting.cons hne hsize ((cutting_onePiece hbody).append (cutting_singles (by decide) rest)))
  · rw [serve_header_body before header body (singles rest) hheader hlen hbody]
    simp

/-- **How a stream is cut makes no difference exactly when it is no client's frame and no cutting
gets an answer.** -/
theorem uniform_iff (o : ByteOrder) (codec : Codec ClientMessage) (s : List Byte) :
    Uniform o codec s ↔ Unanswered o s ∧ ∀ m, ¬ IsClientFrame o codec m s := by
  have hsingles : Cutting READ_SIZE s (singles s) := cutting_singles (by decide) s
  have hwaits : serve o codec (singles s) = none := by rw [serve_eq, readLoop_singles]
  constructor
  · intro h
    constructor
    · by_contra hs
      obtain ⟨reads, hcut, hans⟩ := @exists_answered o codec s hs
      exact hans ((h.same _ _ hcut hsingles).trans hwaits)
    · intro m hm
      obtain ⟨early, last, -, -, hdone⟩ := h.frame m hm _ hsingles
      rw [hwaits] at hdone
      cases hdone
  · rintro ⟨hs, hframe⟩
    refine ⟨fun reads reads' hcut hcut' => ?_, fun m hm => absurd hm (hframe m)⟩
    rw [serve_unanswered hs hcut, serve_unanswered hs hcut']

/-- The frame of a LOGOUT with the cookie `c`. -/
def logoutFrame : List Byte := [7, 0, 0, 0, 0x08, 0x03, 0x2A, 0x03, 0x0A, 0x01, 0x63]

/-- It gets its answer when it comes in two pieces, and none when it comes byte by byte. -/
theorem not_uniform_logoutFrame : ¬ ∃ codec, Uniform .little codec logoutFrame := by
  rintro ⟨codec, h⟩
  have htwo : Cutting READ_SIZE logoutFrame [logoutFrame.take 4, logoutFrame.drop 4] :=
    ⟨by decide, by decide, by decide⟩
  have hsame := h.same _ _ htwo (cutting_singles (by decide) logoutFrame)
  have hans : serve .little codec [logoutFrame.take 4, logoutFrame.drop 4] = some _ :=
    serve_header_body [] (logoutFrame.take 4) (logoutFrame.drop 4) [] (by decide) (by decide)
      (by decide)
  rw [serve_eq (singles logoutFrame), readLoop_singles] at hsame
  exact absurd (hans.symm.trans hsame) (by simp)

end Sp2p.Tracker
