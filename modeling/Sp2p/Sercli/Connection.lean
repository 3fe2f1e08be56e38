import Sp2p.Lib.Framing
import Sp2p.Lib.Runs

/-!
# What a connection sends

`Connection::sendMessage` posts to the strand, and `send`, run there, appends the frame of the request
to `send_buf` and starts an `async_write` of the buffer. The write hands the socket the bytes that are
in the buffer when it is started, and takes as many out of it when it completes; its completion runs
on the strand as well. `framesOnce_iff` says in which runs the socket gets each frame once.
-/

namespace Sp2p.Sercli

open Framing Runs

/-- The sending half of a `Connection`: the sends posted to its strand, `send_buf`, and the lengths of
the writes that have not completed. `handed` is all that the socket was given and `sent` are the
requests whose `send` has run. -/
structure SendState (Request : Type) where
  posted : List Request := []
  sendBuf : List Byte := []
  writes : List Nat := []
  handed : List Byte := []
  sent : List Request := []

inductive SendEvent (Request : Type)
  /-- A caller posts a request. -/
  | sendMessage (request : Request)
  /-- The strand runs the next posted `send`. -/
  | send
  /-- The handler of the `i`-th write that is under way. -/
  | complete (i : Nat)

namespace SendState

variable {Request : Type} (o : ByteOrder) (codec : Codec Request)

def sendMessage (s : SendState Request) (request : Request) : SendState Request :=
  { s with posted := s.posted ++ [request] }

/-- `send`: the frame goes to the end of `send_buf`, and all of `send_buf` to the socket. -/
def send (s : SendState Request) (request : Request) : SendState Request where
  posted := s.posted.tail
  sendBuf := s.sendBuf ++ codec.frame o request
  writes := s.writes ++ [(s.sendBuf ++ codec.frame o request).length]
  handed := s.handed ++ (s.sendBuf ++ codec.frame o request)
  sent := s.sent ++ [request]

/-- `send_buf.consume(length)`, which stops at the end of the buffer. -/
def complete (s : SendState Request) (i length : Nat) : SendState Request :=
  { s with sendBuf := s.sendBuf.drop length, writes := s.writes.eraseIdx i }

def step (s : SendState Request) : SendEvent Request → Option (SendState Request)
  | .sendMessage request => some (s.sendMessage request)
  | .send => s.posted.head?.map (s.send o codec)
  | .complete i => s.writes[i]?.map (s.complete i)

def requests (events : List (SendEvent Request)) : List Request :=
  events.filterMap fun
    | .sendMessage request => some request
    | _ => none

variable {o codec} {s s' : SendState Request}

/-- The sends run in the order of the calls. -/
theorem sent_append_posted {events : List (SendEvent Request)} :
    ∀ {s s' : SendState Request}, run (step o codec) s events = some s' →
      s'.sent ++ s'.posted = s.sent ++ s.posted ++ requests events := by
  induction events with
  | nil =>
    intro s s' hrun
    obtain rfl := Option.some_inj.1 hrun
    simp [requests]
  | cons e events ih =>
    intro s s' hrun
    obtain ⟨t, ht, hrest⟩ := Option.bind_eq_some_iff.1 hrun
    rw [ih hrest]
    cases e with
    | sendMessage request =>
      obtain rfl := Option.some_inj.1 ht
      simp [sendMessage, requests]
    | send =>
      obtain ⟨request, hhead, rfl⟩ := Option.map_eq_some_iff.1 ht
      obtain ⟨posted, hposted⟩ := List.head?_eq_some_iff.1 hhead
      simp [send, requests, hposted]
    | complete i =>
      obtain ⟨length, -, rfl⟩ := Option.map_eq_some_iff.1 ht
      simp [complete, requests]

/-! ### Sends that keep apart -/

/-- A `send` starts when no write is under way. -/
def Spaced (s : SendState Request) (e : SendEvent Request) : Prop :=
  match e with
  | .send => s.writes = []
  | _ => True

/-- The socket was given each frame once, and all of them in order. -/
def FramesOnce (o : ByteOrder) (codec : Codec Request) (s : SendState Request) : Prop :=
  s.handed = s.sent.flatMap (codec.frame o)

instance : Decidable (s.FramesOnce o codec) := inferInstanceAs (Decidable (_ = _))

/-- At most one write is under way, and it is of all that is in the buffer. -/
structure OneWrite (o : ByteOrder) (codec : Codec Request) (s : SendState Request) : Prop where
  once : s.FramesOnce o codec
  writes : s.writes = [] ∧ s.sendBuf = [] ∨ s.writes = [s.sendBuf.length] ∧ s.sendBuf ≠ []

/-- More was handed to the socket than the frames. -/
def Excess (o : ByteOrder) (codec : Codec Request) (s : SendState Request) : Prop :=
  (s.sent.flatMap (codec.frame o)).length < s.handed.length

theorem Excess.not_framesOnce (h : s.Excess o codec) : ¬ s.FramesOnce o codec := by
  intro honce
  rw [Excess, ← honce] at h
  exact absurd h (lt_irrefl _)

theorem OneWrite.step {e : SendEvent Request} (h : s.OneWrite o codec) (hspaced : s.Spaced e)
    (hstep : s.step o codec e = some s') : s'.OneWrite o codec := by
  obtain ⟨honce, hwrites⟩ := h
  cases e with
  | sendMessage request =>
    obtain rfl := Option.some_inj.1 hstep
    exact ⟨honce, hwrites⟩
  | send =>
    obtain ⟨request, -, rfl⟩ := Option.map_eq_some_iff.1 hstep
    have hnone : s.writes = [] := hspaced
    have hbuf : s.sendBuf = [] := by
      rcases hwrites with ⟨-, hbuf⟩ | ⟨hone, -⟩
      · exact hbuf
      · rw [hnone] at hone
        cases hone
    refine ⟨?_, .inr ⟨?_, ?_⟩⟩
    · rw [FramesOnce, send, hbuf, honce, List.flatMap_append]
      simp
    · simp [send, hnone]
    · apply List.ne_nil_of_length_pos
      simp only [send, List.length_append, length_frame]
      omega
  | complete i =>
    obtain ⟨length, hlength, rfl⟩ := Option.map_eq_some_iff.1 hstep
    refine ⟨honce, .inl ?_⟩
    rcases hwrites with ⟨hnone, -⟩ | ⟨hone, -⟩
    · rw [hnone] at hlength
      cases hlength
    · have hi : i = 0 := by
        have hlt := (List.getElem?_eq_some_iff.1 hlength).1
        rw [hone] at hlt
        simpa using hlt
      subst hi
      rw [hone] at hlength
      obtain rfl := Option.some_inj.1 hlength
      simp [complete, hone]

/-- A `send` while a write is under way hands out again what that write was of. -/
theorem OneWrite.slip {e : SendEvent Request} (h : s.OneWrite o codec) (hspaced : ¬ s.Spaced e)
    (hstep : s.step o codec e = some s') : s'.Excess o codec := by
  obtain ⟨honce, hwrites⟩ := h
  cases e with
  | sendMessage request => exact absurd trivial hspaced
  | complete i => exact absurd trivial hspaced
  | send =>
    obtain ⟨request, -, rfl⟩ := Option.map_eq_some_iff.1 hstep
    have hbuf : 0 < s.sendBuf.length := by
      rcases hwrites with ⟨hnone, -⟩ | ⟨-, hbuf⟩
      · exact absurd hnone hspaced
      · exact List.length_pos_of_ne_nil hbuf
    have hlen : s.handed.length = (s.sent.flatMap (codec.frame o)).length := by rw [honce]
    simp only [Excess, send, List.flatMap_append, List.flatMap_cons, List.flatMap_nil,
      List.append_nil, List.length_append]
    omega

/-- Nothing takes back what the socket has. -/
theorem Excess.step {e : SendEvent Request} (h : s.Excess o codec)
    (hstep : s.step o codec e = some s') : s'.Excess o codec := by
  cases e with
  | sendMessage request =>
    obtain rfl := Option.some_inj.1 hstep
    exact h
  | send =>
    obtain ⟨request, -, rfl⟩ := Option.map_eq_some_iff.1 hstep
    simp only [Excess, send, List.flatMap_append, List.flatMap_cons, List.flatMap_nil,
      List.append_nil, List.length_append] at h ⊢
    omega
  | complete i =>
    obtain ⟨length, -, rfl⟩ := Option.map_eq_some_iff.1 hstep
    exact h

/-- **The socket gets each frame once and in order exactly in the runs in which no send starts while a
write is under way.** -/
theorem framesOnce_iff {events : List (SendEvent Request)}
    (hrun : run (SendState.step o codec) {} events = some s) :
    s.FramesOnce o codec ↔ Along (SendState.step o codec) Spaced {} events := by
  have hinit : OneWrite o codec ({} : SendState Request) := ⟨rfl, .inl ⟨rfl, rfl⟩⟩
  constructor
  · intro honce
    refine along_of_not_bad (fun s e s' => OneWrite.step) (fun s e s' => OneWrite.slip)
      (fun s e s' => Excess.step) hinit hrun ?_
    exact fun hexcess => hexcess.not_framesOnce honce
  · intro hspaced
    exact (run_inv (fun s e s' => OneWrite.step) hinit hspaced hrun).once

/-- Requests whose bytes are a number. -/
def byteCodec : Codec Byte where
  serialize b := [b]
  parse
    | [b] => some b
    | _ => none

/-- A request is sent, its write completes, and another is sent. -/
theorem framesOnce_iff_spaced :
    FramesOnce .little byteCodec
        ({ sendBuf := [1, 0, 0, 0, 8], writes := [5], handed := [1, 0, 0, 0, 7, 1, 0, 0, 0, 8],
           sent := [7, 8] } : SendState Byte) ↔
      Along (SendState.step .little byteCodec) Spaced {}
        [.sendMessage 7, .send, .complete 0, .sendMessage 8, .send] :=
  framesOnce_iff rfl

/-- Two requests sent before the first write completes: the first goes out twice. -/
theorem not_framesOnce_overlapping :
    ∃ s, run (SendState.step .little byteCodec) {} [.sendMessage 7, .sendMessage 8, .send, .send] =
        some s ∧ ¬ s.FramesOnce .little byteCodec := by
  refine ⟨_, rfl, ?_⟩
  decide

end SendState

end Sp2p.Sercli
