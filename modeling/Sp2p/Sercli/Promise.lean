import Mathlib.Data.List.Basic
import Sp2p.Lib.Runs
import Sp2p.Sercli.Parser

/-!
# The promise of a request

`Connection::sendRequest` hands a promise down through `sendMessage`, `send`, `sendHandler` and
`readHandler`; at any time one operation of the connection has it in its handler, or nobody. Any
number of requests may be under way, and their reads go through one parser. The handlers run on the
strand of the connection, so one runs after the other.

`completions` says what was completed for a request in a run, and does not look at the handlers: its
write, its reads with an error, and what the parser makes of the bytes of each other read, when it has
been given the bytes of all reads before. `future_settled` compares a promise with that. A write or a
read may end with an error, and a read may bring any bytes.
-/

namespace Sp2p.Sercli

open Framing Protocol Runs

/-- The operation whose handler has the promise. -/
inductive Pending
  | post | write | read
  deriving DecidableEq

/-- What is done to a promise. A value is a pointer; the exception is a `SendException`. -/
inductive Settle
  | set_value (response : Option NodeMessage)
  | set_exception
  deriving DecidableEq

/-- A request under way. `promise` has every attempt to set it. -/
structure Outstanding where
  pending : Option Pending := some .post
  promise : List Settle := []
  deriving DecidableEq

namespace Outstanding

def set (r : Outstanding) (settle : Settle) : Outstanding :=
  { r with promise := r.promise ++ [settle] }

def readHandler (r : Outstanding) (response : Option NodeMessage) (ec : Bool) : Outstanding :=
  if ec then r.set .set_exception else r.set (.set_value response)

def readMessage (r : Outstanding) : Outstanding := { r with pending := some .read }

def sendHandler (r : Outstanding) (ec : Bool) : Outstanding :=
  if ec then r.set .set_exception else r.readMessage

/-- The handler of `async_read_some`. A message that could not be parsed is handed on as well, with
an error, and nobody looks at it. -/
def onRead (o : ByteOrder) (codec : Codec NodeMessage) (parser : NodeResponseParser)
    (r : Outstanding) (ec : Bool) (data : List Byte) : NodeResponseParser × Outstanding :=
  if ec then (parser, r.readHandler none true)
  else
    match parser.parse o codec data with
    | (parser, some (.good message)) => (parser, r.readHandler (some message) false)
    | (parser, some .bad) => (parser, r.readHandler none true)
    | (parser, none) => (parser, r.readMessage)

end Outstanding

/-- The requests of a connection and its parser. -/
structure Requests where
  parser : NodeResponseParser := {}
  requests : List Outstanding := []
  deriving DecidableEq

inductive RequestEvent
  | sendRequest
  /-- The strand runs `send` for the `i`-th request, which starts its write. -/
  | send (i : Nat)
  | written (i : Nat) (ec : Bool)
  | read (i : Nat) (ec : Bool) (data : List Byte)

namespace Requests

variable (o : ByteOrder) (codec : Codec NodeMessage)

/-- The handler of the operation `p` of the `i`-th request runs; what it starts is pending then. -/
def handle (s : Requests) (i : Nat) (p : Pending)
    (f : Outstanding → NodeResponseParser × Outstanding) : Option Requests :=
  match s.requests[i]? with
  | some r =>
    if r.pending = some p then
      let (parser, r') := f { r with pending := none }
      some { parser, requests := s.requests.set i r' }
    else none
  | none => none

def step (s : Requests) : RequestEvent → Option Requests
  | .sendRequest => some { s with requests := s.requests ++ [{}] }
  | .send i => s.handle i .post fun r => (s.parser, { r with pending := some .write })
  | .written i ec => s.handle i .write fun r => (s.parser, r.sendHandler ec)
  | .read i ec data => s.handle i .read fun r => r.onRead o codec s.parser ec data

end Requests

/-! ### What is completed in a run -/

/-- The outcome of a write or a read of a request: whether there is an error, and what the parser says
of the bytes. -/
inductive Completion
  | write (ec : Bool)
  | readError
  | parse (result : Option ParseResult)
  deriving DecidableEq

namespace Requests

variable (o : ByteOrder) (codec : Codec NodeMessage)

/-- What an event completes for the `i`-th request, when the parser is `p`. -/
def completion (p : NodeResponseParser) (i : Nat) : RequestEvent → Option Completion
  | .written j ec => if j = i then some (.write ec) else none
  | .read j ec data =>
    if j = i then some (if ec then .readError else .parse (p.parse o codec data).2) else none
  | _ => none

/-- The parser after an event: it is given the bytes of every read, of whatever request. -/
def parsed (p : NodeResponseParser) : RequestEvent → NodeResponseParser
  | .read _ ec data => if ec then p else (p.parse o codec data).1
  | _ => p

/-- All that is completed for the `i`-th request in the course of the events. -/
def completions (i : Nat) : NodeResponseParser → List RequestEvent → List Completion
  | _, [] => []
  | p, e :: events => (completion o codec p i e).toList ++ completions i (parsed o codec p e) events

theorem completions_concat (i : Nat) (e : RequestEvent) {events : List RequestEvent} :
    ∀ p, completions o codec i p (events ++ [e]) = completions o codec i p events ++
      (completion o codec (events.foldl (parsed o codec) p) i e).toList := by
  induction events with
  | nil =>
    intro p
    simp [completions]
  | cons e' events ih =>
    intro p
    rw [List.cons_append, completions, ih, completions, List.append_assoc, List.foldl_cons]

end Requests

/-- What a completion settles the promise with, if it is the last. -/
def Completion.settle : Completion → Option Settle
  | write ec => if ec then some .set_exception else none
  | readError => some .set_exception
  | parse (some (.good message)) => some (.set_value (some message))
  | parse (some .bad) => some .set_exception
  | parse none => none

namespace Outstanding

/-- The invariant: the promise was set by the one completion that settles it, with what that one says,
and until then an operation has it. -/
structure Kept (r : Outstanding) (completions : List Completion) : Prop where
  promise : r.promise = completions.filterMap Completion.settle
  once : r.promise.length ≤ 1
  pending : r.pending.isSome ↔ r.promise = []

/-- The promise is set at most once, and exactly when the write failed, a read failed or the parser
gave a verdict: to the message of a `GOOD`, to the exception otherwise. Until then an operation is
pending whose handler has it. -/
structure Truthful (r : Outstanding) (completions : List Completion) : Prop where
  once : r.promise.length ≤ 1
  set_iff : r.promise ≠ [] ↔ .write true ∈ completions ∨ .readError ∈ completions ∨
    ∃ verdict, .parse (some verdict) ∈ completions
  value_iff : ∀ response, .set_value response ∈ r.promise ↔
    ∃ message, response = some message ∧ .parse (some (.good message)) ∈ completions
  exception_iff : .set_exception ∈ r.promise ↔ .write true ∈ completions ∨
    .readError ∈ completions ∨ .parse (some .bad) ∈ completions
  pending_iff : r.pending.isSome ↔ r.promise = []

/-- `r'` is what the handler should make of `r` when it is called with the completion `c`. -/
structure Handles (c : Completion) (r r' : Outstanding) : Prop where
  promise : r'.promise = r.promise ++ c.settle.toList
  pending : r'.pending.isSome ↔ c.settle = none

variable {r r' : Outstanding} {o : ByteOrder} {codec : Codec NodeMessage} {cs : List Completion}

theorem handles_readMessage {c : Completion} (hc : c.settle = none) : Handles c r r.readMessage where
  promise := by
    rw [hc]
    exact (List.append_nil _).symm
  pending := by simp [readMessage, hc]

theorem handles_set {c : Completion} {settle : Settle} (hr : r.pending = none)
    (hc : c.settle = some settle) : Handles c r (r.set settle) where
  promise := by
    rw [hc]
    rfl
  pending := by
    rw [hc, show (r.set settle).pending = r.pending from rfl, hr]
    simp

theorem handles_sendHandler (hr : r.pending = none) (ec : Bool) :
    Handles (.write ec) r (r.sendHandler ec) := by
  cases ec with
  | true => exact handles_set hr rfl
  | false => exact handles_readMessage rfl

/-- The handler of a read does what the error or the parser says. -/
theorem handles_onRead (hr : r.pending = none) (parser : NodeResponseParser) (ec : Bool)
    (data : List Byte) :
    Handles (if ec then .readError else .parse (parser.parse o codec data).2) r
      (r.onRead o codec parser ec data).2 := by
  cases ec with
  | true => exact handles_set hr rfl
  | false =>
    unfold onRead
    rcases parser.parse o codec data with ⟨parser', _ | message | _⟩
    · exact handles_readMessage rfl
    · exact handles_set hr rfl
    · exact handles_set hr rfl

theorem onRead_fst (parser : NodeResponseParser) (ec : Bool) (data : List Byte) :
    (r.onRead o codec parser ec data).1 = if ec then parser else (parser.parse o codec data).1 := by
  cases ec with
  | true => rfl
  | false =>
    unfold onRead
    rcases parser.parse o codec data with ⟨parser', _ | message | _⟩ <;> rfl

theorem Kept.handles {c : Completion} (h : r.Kept cs) (hr : r.pending.isSome)
    (hc : Handles c { r with pending := none } r') : r'.Kept (cs ++ [c]) := by
  have hempty : r.promise = [] := h.pending.1 hr
  have hpromise : r'.promise = c.settle.toList := by
    rw [hc.promise, hempty, List.nil_append]
  have hfilter : cs.filterMap Completion.settle = [] := h.promise.symm.trans hempty
  refine ⟨?_, ?_, ?_⟩
  · rw [hpromise, List.filterMap_append, hfilter, List.nil_append]
    cases hs : c.settle <;> simp [hs]
  · rw [hpromise]
    cases c.settle <;> simp
  · rw [hc.pending, hpromise]
    cases c.settle <;> simp

theorem Kept.mem_promise (h : r.Kept cs) (settle : Settle) :
    settle ∈ r.promise ↔ ∃ c ∈ cs, c.settle = some settle := by
  rw [h.promise, List.mem_filterMap]

theorem settle_eq_value_iff {c : Completion} {response : Option NodeMessage} :
    c.settle = some (.set_value response) ↔
      ∃ message, response = some message ∧ c = .parse (some (.good message)) := by
  rcases c with (_ | _) | _ | (_ | message | _) <;> simp [Completion.settle, eq_comm]

theorem settle_eq_exception_iff {c : Completion} :
    c.settle = some .set_exception ↔ c = .write true ∨ c = .readError ∨ c = .parse (some .bad) := by
  rcases c with (_ | _) | _ | (_ | message | _) <;> simp [Completion.settle]

theorem Kept.truthful (h : r.Kept cs) : r.Truthful cs := by
  have hvalue : ∀ response, .set_value response ∈ r.promise ↔
      ∃ message, response = some message ∧ .parse (some (.good message)) ∈ cs := by
    intro response
    simp only [h.mem_promise, settle_eq_value_iff]
    constructor
    · rintro ⟨c, hc, message, rfl, rfl⟩
      exact ⟨message, rfl, hc⟩
    · rintro ⟨message, rfl, hc⟩
      exact ⟨_, hc, message, rfl, rfl⟩
  have hexception : .set_exception ∈ r.promise ↔ .write true ∈ cs ∨
      .readError ∈ cs ∨ .parse (some .bad) ∈ cs := by
    simp only [h.mem_promise, settle_eq_exception_iff]
    constructor
    · rintro ⟨c, hc, rfl | rfl | rfl⟩
      · exact .inl hc
      · exact .inr (.inl hc)
      · exact .inr (.inr hc)
    · rintro (hc | hc | hc)
      · exact ⟨_, hc, .inl rfl⟩
      · exact ⟨_, hc, .inr (.inl rfl)⟩
      · exact ⟨_, hc, .inr (.inr rfl)⟩
  refine ⟨h.once, ⟨?_, ?_⟩, hvalue, hexception, h.pending⟩
  · intro hne
    obtain ⟨settle, hsettle⟩ := List.exists_mem_of_ne_nil _ hne
    cases settle with
    | set_value response =>
      obtain ⟨message, -, hc⟩ := (hvalue response).1 hsettle
      exact .inr (.inr ⟨.good message, hc⟩)
    | set_exception =>
      rcases hexception.1 hsettle with hc | hc | hc
      · exact .inl hc
      · exact .inr (.inl hc)
      · exact .inr (.inr ⟨.bad, hc⟩)
  · rintro (hc | hc | ⟨_ | _, hc⟩)
    · exact List.ne_nil_of_mem (hexception.2 (.inl hc))
    · exact List.ne_nil_of_mem (hexception.2 (.inr (.inl hc)))
    · exact List.ne_nil_of_mem ((hvalue _).2 ⟨_, rfl, hc⟩)
    · exact List.ne_nil_of_mem (hexception.2 (.inr (.inr hc)))

end Outstanding

namespace Requests

variable {s s' : Requests} {o : ByteOrder} {codec : Codec NodeMessage}

theorem handle_cases {i : Nat} {p : Pending} {f : Outstanding → NodeResponseParser × Outstanding}
    (h : s.handle i p f = some s') :
    ∃ r, s.requests[i]? = some r ∧ r.pending = some p ∧
      s' = ⟨(f { r with pending := none }).1,
        s.requests.set i (f { r with pending := none }).2⟩ := by
  unfold handle at h
  split at h
  · rename_i r hr
    split at h
    · rename_i hp
      exact ⟨r, hr, hp, (Option.some_inj.1 h).symm⟩
    · cases h
  · cases h

/-- Where the events have brought the connection: every promise is kept, and nothing was completed for
a request that has not been made. -/
structure Traced (o : ByteOrder) (codec : Codec NodeMessage) (events : List RequestEvent)
    (s : Requests) : Prop where
  parser : s.parser = events.foldl (parsed o codec) {}
  kept : ∀ i (r : Outstanding), s.requests[i]? = some r → r.Kept (completions o codec i {} events)
  unmade : ∀ i, s.requests.length ≤ i → completions o codec i {} events = []

namespace Traced

variable {events : List RequestEvent} {e : RequestEvent}

theorem completions_concat (h : Traced o codec events s) (i : Nat) (e : RequestEvent) :
    completions o codec i {} (events ++ [e]) =
      completions o codec i {} events ++ (completion o codec s.parser i e).toList := by
  rw [Requests.completions_concat, h.parser]

/-- A handler of the `i`-th request runs. It leaves the parser as the event does, and the promise as
what is completed says. -/
theorem handle {i : Nat} {p : Pending} {f : Outstanding → NodeResponseParser × Outstanding}
    (h : Traced o codec events s) (hothers : ∀ j, j ≠ i → completion o codec s.parser j e = none)
    (hparser : ∀ r, (f r).1 = parsed o codec s.parser e)
    (hown : ∀ (r : Outstanding) cs, r.Kept cs → r.pending = some p →
      (f { r with pending := none }).2.Kept (cs ++ (completion o codec s.parser i e).toList))
    (hstep : s.handle i p f = some s') : Traced o codec (events ++ [e]) s' := by
  obtain ⟨r, hr, hp, rfl⟩ := handle_cases hstep
  have hi : i < s.requests.length := (List.getElem?_eq_some_iff.1 hr).1
  have hsame : ∀ j, j ≠ i →
      completions o codec j {} (events ++ [e]) = completions o codec j {} events := by
    intro j hj
    rw [h.completions_concat, hothers j hj]
    exact List.append_nil _
  refine ⟨?_, fun j r' hr' => ?_, fun j hj => ?_⟩
  · rw [List.foldl_append, ← h.parser]
    exact hparser _
  · by_cases hij : j = i
    · subst hij
      rw [List.getElem?_set_self hi] at hr'
      obtain rfl := Option.some_inj.1 hr'
      rw [h.completions_concat]
      exact hown r _ (h.kept j r hr) hp
    · rw [List.getElem?_set_ne (Ne.symm hij)] at hr'
      rw [hsame j hij]
      exact h.kept j r' hr'
  · rw [List.length_set] at hj
    rw [hsame j (by omega)]
    exact h.unmade j hj

/-- A new request: nothing is completed yet. -/
theorem sendRequest (h : Traced o codec events s) :
    Traced o codec (events ++ [.sendRequest]) { s with requests := s.requests ++ [{}] } := by
  have hsame : ∀ j, completions o codec j {} (events ++ [.sendRequest]) =
      completions o codec j {} events := by
    intro j
    rw [h.completions_concat]
    exact List.append_nil _
  refine ⟨?_, fun j r hr => ?_, fun j hj => ?_⟩
  · rw [List.foldl_append, ← h.parser]
    rfl
  · rw [hsame]
    by_cases hj : j < s.requests.length
    · rw [List.getElem?_append_left hj] at hr
      exact h.kept j r hr
    · rw [h.unmade j (by omega)]
      obtain rfl : r = {} := by
        rw [List.getElem?_append_right (by omega)] at hr
        exact List.mem_singleton.1 (List.mem_of_getElem? hr)
      exact ⟨rfl, by simp, by simp⟩
  · rw [List.length_append, List.length_singleton] at hj
    rw [hsame]
    exact h.unmade j (by omega)

theorem step (h : Traced o codec events s) (hstep : s.step o codec e = some s') :
    Traced o codec (events ++ [e]) s' := by
  cases e with
  | sendRequest =>
    obtain rfl := Option.some_inj.1 hstep
    exact h.sendRequest
  | send i =>
    rw [Requests.step] at hstep
    refine h.handle (fun _ _ => rfl) (fun _ => rfl) (fun r cs hr hp => ?_) hstep
    rw [show completion o codec s.parser i (.send i) = none from rfl, Option.toList_none,
      List.append_nil]
    exact ⟨hr.promise, hr.once, by simpa [hp] using hr.pending⟩
  | written i ec =>
    rw [Requests.step] at hstep
    refine h.handle (fun _ hj => if_neg (Ne.symm hj)) (fun _ => rfl) (fun r cs hr hp => ?_) hstep
    rw [show completion o codec s.parser i (.written i ec) = some (.write ec) from if_pos rfl]
    exact hr.handles (by simp [hp]) (Outstanding.handles_sendHandler rfl ec)
  | read i ec data =>
    rw [Requests.step] at hstep
    refine h.handle (fun _ hj => if_neg (Ne.symm hj)) (fun _ => Outstanding.onRead_fst s.parser ec data)
      (fun r cs hr hp => ?_) hstep
    rw [show completion o codec s.parser i (.read i ec data) =
      some (if ec then .readError else .parse (s.parser.parse o codec data).2) from if_pos rfl]
    exact hr.handles (by simp [hp]) (Outstanding.handles_onRead rfl s.parser ec data)

end Traced

theorem traced_run {events : List RequestEvent} :
    ∀ {s : Requests}, run (step o codec) {} events = some s → Traced o codec events s := by
  induction events using List.reverseRecOn with
  | nil =>
    intro s hrun
    obtain rfl := Option.some_inj.1 hrun
    exact ⟨rfl, nofun, fun _ _ => rfl⟩
  | append_singleton events e ih =>
    intro s hrun
    rw [run_append] at hrun
    obtain ⟨t, ht, hlast⟩ := Option.bind_eq_some_iff.1 hrun
    rw [run_cons] at hlast
    obtain ⟨s', hstep, hs'⟩ := Option.bind_eq_some_iff.1 hlast
    obtain rfl := Option.some_inj.1 hs'
    exact (ih ht).step hstep

/-- **Every future is settled once and truthfully**, whatever the writes and the reads of the
connection complete with and in whatever order. -/
theorem future_settled (o : ByteOrder) (codec : Codec NodeMessage) {events : List RequestEvent}
    (hrun : run (step o codec) {} events = some s) :
    ∀ i (r : Outstanding), s.requests[i]? = some r → r.Truthful (completions o codec i {} events) :=
  fun i r hr => ((traced_run hrun).kept i r hr).truthful

/-- A format in which no bytes are the empty message and nothing else is read. -/
def emptyCodec : Codec NodeMessage where
  serialize _ := []
  parse
    | [] => some {}
    | _ :: _ => none

/-- Two requests: the write of the first fails, the answer to the second comes in two pieces. -/
def twoRequests : List RequestEvent :=
  [.sendRequest, .send 0, .sendRequest, .send 1, .written 0 true, .written 1 false,
    .read 1 false [0, 0], .read 1 false [0, 0]]

theorem future_settled_two :
    (⟨none, [.set_exception]⟩ : Outstanding).Truthful
        (completions .little emptyCodec 0 {} twoRequests) ∧
      (⟨none, [.set_value (some {})]⟩ : Outstanding).Truthful
        (completions .little emptyCodec 1 {} twoRequests) := by
  have hrun : run (step .little emptyCodec) {} twoRequests =
      some ⟨{}, [⟨none, [.set_exception]⟩, ⟨none, [.set_value (some {})]⟩]⟩ := by
    decide +kernel
  have htwo := future_settled .little emptyCodec hrun
  exact ⟨htwo 0 _ rfl, htwo 1 _ rfl⟩

end Requests

end Sp2p.Sercli
