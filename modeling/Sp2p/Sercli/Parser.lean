import Sp2p.Lib.Framing
import Sp2p.Protocol

/-!
# Receiving a reply

`NodeResponseParser::parse` and the reads of the client's `Connection::readMessage` that feed it. The
parser keeps what it was given in a buffer of its own, so what it knows depends on the bytes so far
and not on the pieces they came in: `NodeResponseParser.after` says what. The frame of a message is
therefore received in whatever pieces it comes, and the parser is then as it was before.
-/

namespace Sp2p.Sercli

open Framing Protocol

/-- `parse_result`; `INDETERMINATE` is `none`. -/
inductive ParseResult
  | good (message : NodeMessage)
  | bad
  deriving DecidableEq

/-- `global::max_buffer_size`. -/
def max_buffer_size : Nat := 2 ^ 32 - 1

/-- The parser between two calls. -/
structure NodeResponseParser where
  messageSize : Int := -1
  sb : List Byte := []
  deriving DecidableEq

namespace NodeResponseParser

def reset : NodeResponseParser where
  messageSize := -1
  sb := []

/-- The length is taken from the buffer once. -/
def readSize (o : ByteOrder) (p : NodeResponseParser) : NodeResponseParser :=
  if p.messageSize = -1 ∧ 4 ≤ p.sb.length then
    ⟨toInt32 (o.decode (p.sb.take 4)), p.sb.drop 4⟩
  else p

/-- `ParseFromIstream` reads the buffer to its end. -/
def parseBuffer (codec : Codec NodeMessage) (p : NodeResponseParser) :
    NodeResponseParser × Option ParseResult :=
  if p.messageSize ≤ toInt32 p.sb.length ∧ p.messageSize ≠ -1 then
    match codec.parse p.sb with
    | some message => (⟨-1, []⟩, some (.good message))
    | none => (reset, some .bad)
  else (p, none)

def parse (o : ByteOrder) (codec : Codec NodeMessage) (p : NodeResponseParser) (data : List Byte) :
    NodeResponseParser × Option ParseResult :=
  if max_buffer_size < (p.sb ++ data).length then (reset, some .bad)
  else parseBuffer codec (readSize o ⟨p.messageSize, p.sb ++ data⟩)

variable {o : ByteOrder} {codec : Codec NodeMessage}

/-- The parser when it has been given these bytes and waits for more. -/
def after (o : ByteOrder) (bytes : List Byte) : NodeResponseParser := readSize o ⟨-1, bytes⟩

theorem after_short {bytes : List Byte} (h : bytes.length < 4) : after o bytes = ⟨-1, bytes⟩ := by
  have hn : ¬ 4 ≤ bytes.length := by omega
  simp [after, readSize, hn]

theorem after_long {bytes : List Byte} (h : 4 ≤ bytes.length) :
    after o bytes = ⟨toInt32 (o.decode (bytes.take 4)), bytes.drop 4⟩ := by
  simp [after, readSize, h]

/-- Bytes behind the header only go into the buffer. -/
theorem readSize_after {bytes : List Byte} (r : List Byte)
    (h : 4 ≤ bytes.length → (after o bytes).messageSize ≠ -1) :
    readSize o ⟨(after o bytes).messageSize, (after o bytes).sb ++ r⟩ = after o (bytes ++ r) := by
  by_cases hlen : 4 ≤ bytes.length
  · have hlen' : 4 ≤ (bytes ++ r).length := by
      rw [List.length_append]
      omega
    have hsize := h hlen
    rw [after_long hlen] at hsize ⊢
    rw [after_long hlen', readSize, if_neg (fun hc => hsize hc.1),
      List.take_append_of_le_length hlen, List.drop_append_of_le_length hlen]
  · rw [after_short (by omega)]
    rfl

theorem length_sb_after_le (bytes : List Byte) : (after o bytes).sb.length ≤ bytes.length := by
  unfold after readSize
  split <;> simp

end NodeResponseParser

/-- The client's `readMessage` loop. -/
def readMessage (o : ByteOrder) (codec : Codec NodeMessage) (p : NodeResponseParser)
    (reads : List (List Byte)) : NodeResponseParser × Option ParseResult :=
  readLoop (NodeResponseParser.parse o codec) p reads

/-- The client gets this message at the last of the reads, nothing before it, and its parser is as
in the beginning. -/
def Delivers (o : ByteOrder) (codec : Codec NodeMessage) (reads : List (List Byte))
    (message : NodeMessage) : Prop :=
  ∃ early last, reads = early ++ [last] ∧ (readMessage o codec {} early).2 = none ∧
    readMessage o codec {} reads = ({}, some (.good message))

/-! ### One frame -/

section Frame

variable {o : ByteOrder} {codec : Codec NodeMessage} {message : NodeMessage}

open NodeResponseParser

/-- Within a frame the parser knows its length as soon as it has the header. -/
theorem after_initial (hsize : (codec.serialize message).length < 2 ^ 31) {bytes : List Byte}
    (hpre : bytes <+: codec.frame o message) (hlen : 4 ≤ bytes.length) :
    after o bytes = ⟨(codec.serialize message).length, bytes.drop 4⟩ := by
  have htake : bytes.take 4 = o.encode (codec.serialize message).length := by
    obtain ⟨rest, hrest⟩ := hpre
    rw [← take_frame (c := codec), ← hrest, List.take_append_of_le_length hlen]
  rw [after_long hlen, htake, o.decode_encode (by omega), toInt32_of_lt hsize]

/-- A read within a frame brings the parser where the bytes so far would have. -/
theorem parse_initial (hsize : (codec.serialize message).length < 2 ^ 31) {bytes r : List Byte}
    (hpre : bytes ++ r <+: codec.frame o message) :
    NodeResponseParser.parse o codec (after o bytes) r = parseBuffer codec (after o (bytes ++ r)) := by
  have hlen := hpre.length_le
  rw [length_frame, List.length_append] at hlen
  have hbuf := length_sb_after_le (o := o) bytes
  have hfits : ¬ max_buffer_size < ((after o bytes).sb ++ r).length := by
    rw [List.length_append, max_buffer_size]
    omega
  rw [NodeResponseParser.parse, if_neg hfits, readSize_after]
  intro h4
  rw [after_initial hsize ((List.prefix_append bytes r).trans hpre) h4]
  simp

/-- **A reply is received in whatever pieces it comes, and the parser is ready for the next.** -/
theorem readMessage_frame {size : Nat} {reads : List (List Byte)}
    (hround : codec.parse (codec.serialize message) = some message)
    (hsize : (codec.serialize message).length < 2 ^ 31)
    (hcut : Cutting size (codec.frame o message) reads) :
    Delivers o codec reads message := by
  have hne : codec.frame o message ≠ [] := by
    intro h
    have := congrArg List.length h
    rw [length_frame] at this
    simp at this
  have hfresh : after o [] = {} := after_short (by simp)
  unfold Delivers
  rw [← hfresh]
  refine readLoop_cutting (after o) hne ?_ ?_ hcut
  · intro bytes r _ hpre hmore
    have hshort : (bytes ++ r).length < 4 + (codec.serialize message).length := by
      rw [← length_frame (o := o)]
      exact lt_of_le_of_ne hpre.length_le fun h => hmore (hpre.eq_of_length h)
    rw [parse_initial hsize hpre]
    by_cases h4 : 4 ≤ (bytes ++ r).length
    · have hwait : ¬ ((codec.serialize message).length : Int) ≤
          toInt32 ((bytes ++ r).drop 4).length := by
        rw [toInt32_of_lt (by rw [List.length_drop]; omega), List.length_drop]
        omega
      rw [after_initial hsize hpre h4, parseBuffer, if_neg fun h => hwait h.1]
    · rw [after_short (by omega), parseBuffer, if_neg fun h => h.2 rfl]
  · rintro bytes r - hall
    have h4 : 4 ≤ (codec.frame o message).length := by simp
    have hready : ((codec.serialize message).length : Int) ≤
        toInt32 (codec.serialize message).length ∧
        ((codec.serialize message).length : Int) ≠ -1 := by
      rw [toInt32_of_lt hsize]
      omega
    rw [parse_initial hsize (hall ▸ List.prefix_rfl), hall, after_initial hsize List.prefix_rfl h4,
      drop_frame, parseBuffer, if_pos hready, hround, hfresh]

end Frame

end Sp2p.Sercli
