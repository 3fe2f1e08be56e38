import Sp2p.MessageTrip
import Sp2p.NodeRun
import Sp2p.Tracker.ListedServers

/-!
# A node and its tracker, in bytes

`NodeRun` sends messages. Here the same node and the same tracker exchange the bytes that
`Connection::send` and `Response::parseIntoOstream` write, in the pieces that the sockets deliver, and
both parsers run on the pieces. Other clients send whatever bytes they like. A request has a connection
of its own: the tracker shuts it behind its reply.

`WireRun.refines` says that a run in bytes is a run of messages (`erase`), as long as the tracker gets
each request of the node whole or cut behind its header, which is all that its parser can stand
(`uniform_iff`). Nothing is asked of the cuts of the replies or of what others send.
-/

namespace Sp2p

open Framing Wire Runs Protocol Tracker Sercli

/-- The pieces that a socket delivers, and what `ExpectTag` finds in the buffer. -/
structure Reading where
  reads : List (List Byte)
  tape : List Bool

/-- A request of the node on its connection, and the bytes of the reply, if there is one. -/
structure Flight where
  request : List Byte
  reply : Option (List Byte) := none

def Flight.adrift (x : Flight) : List (List Byte) := if x.reply.isNone then [x.request] else []

/-- The flight that a call waits for. -/
structure WireWaiting extends Flight where
  call : NodeCall

structure WireRun where
  node : NodeState
  tracker : State
  waiting : Option WireWaiting := none
  asyncs : List Flight := []
  adrift : List (List Byte) := []

inductive WireEvent
  | call (c : NodeCall) (connected hasKey : Bool)
  | setUser (user : MyUser) (active : Bool)
  /-- The bytes of the request that is waited for reach the tracker, and it answers. -/
  | arrive (env : Env) (p : Reading)
  | arriveAsync (i : Nat) (env : Env) (p : Reading)
  | arriveAdrift (i : Nat) (env : Env) (p : Reading)
  /-- The bytes of the reply reach the node. -/
  | receive (readable : Bool) (p : Reading)
  | receiveAsync (i : Nat) (p : Reading)
  | sendError
  | sendErrorAsync (i : Nat)
  /-- Another client's connection. -/
  | other (env : Env) (p : Reading)

/-- What the tracker writes on a connection that delivers these pieces, and its state then. -/
def Tracker.answer (W : WireFormat) (o : ByteOrder) (env : Env) (p : Reading) (s : State) :
    Option (List Byte × State) :=
  match serve o (ClientMessage.codec W p.tape) p.reads with
  | some (.dispatch m) => some ((handle env m s).1.parseIntoOstream W o, (handle env m s).2)
  | some .reject => some (NodeMessageFactory.badRequestMessage.parseIntoOstream W o, s)
  | none => none

/-- The bytes of a stream in pieces that fit into a buffer. -/
def Reading.IsOf (p : Reading) (bytes : List Byte) : Prop := Cutting READ_SIZE bytes p.reads

instance (p : Reading) (bytes : List Byte) : Decidable (p.IsOf bytes) :=
  decidable_of_iff (p.reads.flatten = bytes ∧ (∀ r ∈ p.reads, r ≠ []) ∧
      ∀ r ∈ p.reads, r.length ≤ READ_SIZE)
    ⟨fun h => ⟨h.1, h.2.1, h.2.2⟩, fun h => ⟨h.joined, h.nonempty, h.sized⟩⟩

/-- What the tracker does with a request of the node whose bytes come in these pieces. -/
def Tracker.answerTo (W : WireFormat) (o : ByteOrder) (request : List Byte) (env : Env) (p : Reading)
    (s : State) : Option (List Byte × State) :=
  if p.IsOf request then answer W o env p s else none

/-- What the parser of the node makes of a reply whose bytes come in these pieces. -/
def Sercli.readReply (W : WireFormat) (o : ByteOrder) (reply : List Byte) (p : Reading) :
    Option ParseResult :=
  if p.IsOf reply then (readMessage o (NodeMessage.codec W p.tape) {} p.reads).2 else none

namespace WireRun

variable (W : WireFormat) (o : ByteOrder)

def call (w : WireRun) (c : NodeCall) (connected hasKey : Bool) : Option WireRun :=
  if c.isAsync then
    match w.node.begin connected hasKey c with
    | .ok request => some { w with asyncs := w.asyncs ++ [{ request := request.message.send W o }] }
    | .error _ => some w
  else if w.waiting.isSome then none
  else
    match w.node.begin connected hasKey c with
    | .ok request => some { w with waiting := some { request := request.message.send W o, call := c } }
    | .error _ => some w

def step (w : WireRun) : WireEvent → Option WireRun
  | .call c connected hasKey => w.call W o c connected hasKey
  | .setUser user active =>
    if w.waiting.isSome then none
    else some (if active then w else { w with node := w.node.setUser user })
  | .arrive env p => do
    let x ← w.waiting
    if x.reply.isSome then none
    else
      let (reply, tracker) ← answerTo W o x.request env p w.tracker
      some { w with tracker, waiting := some { x with reply := some reply } }
  | .arriveAsync i env p => do
    let x ← w.asyncs[i]?
    if x.reply.isSome then none
    else
      let (reply, tracker) ← answerTo W o x.request env p w.tracker
      some { w with tracker, asyncs := w.asyncs.set i { x with reply := some reply } }
  | .arriveAdrift i env p => do
    let request ← w.adrift[i]?
    let (_, tracker) ← answerTo W o request env p w.tracker
    some { w with tracker, adrift := w.adrift.eraseIdx i }
  | .receive readable p => do
    let x ← w.waiting
    let bytes ← x.reply
    match ← readReply W o bytes p with
    | .good reply =>
      some { w with node := (w.node.receive readable reply x.call).2, waiting := none }
    | .bad => some { w with waiting := none }
  | .receiveAsync i p => do
    let x ← w.asyncs[i]?
    let bytes ← x.reply
    match ← readReply W o bytes p with
    | .good reply =>
      some { w with
        node := (w.node.receiveDefault (reply.responseType.getD .ok)).2
        asyncs := w.asyncs.eraseIdx i }
    | .bad => some { w with asyncs := w.asyncs.eraseIdx i }
  | .sendError => do
    let x ← w.waiting
    some { w with waiting := none, adrift := w.adrift ++ x.adrift }
  | .sendErrorAsync i => do
    let x ← w.asyncs[i]?
    some { w with asyncs := w.asyncs.eraseIdx i, adrift := w.adrift ++ x.adrift }
  | .other env p =>
    match answer W o env p w.tracker with
    | some (_, tracker) => some { w with tracker }
    | none => some w

/-! ### The run of messages -/

def ofExchange (x : Exchange) : Flight where
  request := x.request.message.send W o
  reply := x.reply.map (·.parseIntoOstream W o)

def ofWaiting (x : Waiting) : WireWaiting where
  toFlight := ofExchange W o x.toExchange
  call := x.call

/-- The messages in flight as bytes. -/
def encode (w : NodeRun) : WireRun where
  node := w.node
  tracker := w.tracker
  waiting := w.waiting.map (ofWaiting W o)
  asyncs := w.asyncs.map (ofExchange W o)
  adrift := w.adrift.map (·.message.send W o)

/-- The event without its bytes. Of another client's connection a message is left, if the tracker
finds one in its bytes. -/
def erase : WireEvent → Option NodeEvent
  | .call c connected hasKey => some (.call c connected hasKey)
  | .setUser user active => some (.setUser user active)
  | .arrive env _ => some (.arrive env)
  | .arriveAsync i env _ => some (.arriveAsync i env)
  | .arriveAdrift i env _ => some (.arriveAdrift i env)
  | .receive readable _ => some (.receive readable)
  | .receiveAsync i _ => some (.receiveAsync i)
  | .sendError => some .sendError
  | .sendErrorAsync i => some (.sendErrorAsync i)
  | .other env p =>
    match serve o (ClientMessage.codec W p.tape) p.reads with
    | some (.dispatch m) => if h : m.isInitialized = true then some (.other ⟨env, m, h⟩) else none
    | _ => none

/-- The request fits into the buffer and arrives whole, or cut behind its header. -/
def Whole (request : List Byte) (p : Reading) : Prop :=
  request.length ≤ READ_SIZE ∧
    (p.reads = [request] ∨ p.reads = [request.take 4, request.drop 4])

instance (request : List Byte) (p : Reading) : Decidable (Whole request p) :=
  inferInstanceAs (Decidable (_ ∧ _))

/-- The port that a call is given is an `int`. -/
def HasIntPort : NodeCall → Prop
  | .updateServer _ port | .asyncUpdateServer _ port => IsInt32 port
  | _ => True

instance (c : NodeCall) : Decidable (HasIntPort c) := by
  unfold HasIntPort
  split <;> infer_instance

/-- What the network does with the requests of the node, and the bound on replies that are read. -/
def Delivered (w : WireRun) : WireEvent → Prop
  | .call c _ _ => HasIntPort c
  | .arrive _ p => ∀ x ∈ w.waiting, Whole x.request p
  | .arriveAsync i _ p => ∀ x ∈ w.asyncs[i]?, Whole x.request p
  | .arriveAdrift i _ p => ∀ request ∈ w.adrift[i]?, Whole request p
  | .receive _ _ => ∀ x ∈ w.waiting, ∀ bytes ∈ x.reply, bytes.length < W.maxSize
  | .receiveAsync i _ => ∀ x ∈ w.asyncs[i]?, ∀ bytes ∈ x.reply, bytes.length < W.maxSize
  | _ => True

instance (w : WireRun) (e : WireEvent) : Decidable (w.Delivered W e) := by
  unfold Delivered
  split <;> infer_instance

/-- What is read in a step is what was written. -/
def Arrives (w : WireRun) : WireEvent → Prop
  | .arrive _ p => ∀ x ∈ w.waiting, p.IsOf x.request
  | .arriveAsync i _ p => ∀ x ∈ w.asyncs[i]?, p.IsOf x.request
  | .arriveAdrift i _ p => ∀ request ∈ w.adrift[i]?, p.IsOf request
  | .receive _ p => ∀ x ∈ w.waiting, ∀ bytes ∈ x.reply, p.IsOf bytes
  | .receiveAsync i p => ∀ x ∈ w.asyncs[i]?, ∀ bytes ∈ x.reply, p.IsOf bytes
  | _ => True

instance (w : WireRun) (e : WireEvent) : Decidable (w.Arrives e) := by
  unfold Arrives
  split <;> infer_instance

/-! ### What is in flight -/

/-- The messages of an exchange can be written and read. -/
structure FitsExchange (x : Exchange) : Prop where
  request : x.request.message.InRange
  reply : ∀ reply ∈ x.reply, reply.isInitialized = true ∧ reply.InRange

structure Fits (w : NodeRun) : Prop where
  ports : HasPorts w.tracker
  waiting : ∀ x ∈ w.waiting, FitsExchange x.toExchange
  asyncs : ∀ x ∈ w.asyncs, FitsExchange x
  adrift : ∀ request ∈ w.adrift, request.message.InRange

theorem fits_start (node : Node) {tracker : State} (h : HasPorts tracker) :
    Fits (NodeRun.start node tracker) where
  ports := h
  waiting x hx := by cases hx
  asyncs x hx := by cases hx
  adrift x hx := by cases hx

/-- A request that is just sent. -/
theorem FitsExchange.sent {request : Outgoing} (h : request.message.InRange) :
    FitsExchange { request } where
  request := h
  reply reply hreply := by cases hreply

theorem inRange_request (n : NodeState) {c : NodeCall} (h : HasIntPort c) :
    (n.request c).message.InRange := by
  cases c with
  | updateServer networkDesc port | asyncUpdateServer networkDesc port =>
    rintro u ⟨⟩ port' ⟨⟩
    exact h
  | _ => exact nofun

/-! ### The two parsers -/

variable {W o}

/-- The tracker handles the request that was sent. -/
theorem answerTo_eq {m : ClientMessage} (hinit : m.isInitialized = true) (hrange : m.InRange)
    {p : Reading} (hwhole : Whole (m.send W o) p) (hcut : p.IsOf (m.send W o)) (env : Env) (s : State) :
    answerTo W o (m.send W o) env p s =
      some ((handle env m s).1.parseIntoOstream W o, (handle env m s).2) := by
  obtain ⟨hsize, hreads⟩ := hwhole
  have hframe : m.send W o = (ClientMessage.codec W p.tape).frame o m :=
    ClientMessage.send_eq_frame W o p.tape m
  have hlength : 4 + ((ClientMessage.codec W p.tape).serialize m).length ≤ READ_SIZE := by
    rwa [hframe, length_frame] at hsize
  have hround : (ClientMessage.codec W p.tape).parse ((ClientMessage.codec W p.tape).serialize m) =
      some m := by
    refine ClientMessage.parse_serialize W hinit hrange ?_
    have hlimit := W.le_maxSize
    unfold totalBytesLimit at hlimit
    unfold READ_SIZE at hlength
    omega
  have hserve : serve o (ClientMessage.codec W p.tape) p.reads = some (.dispatch m) := by
    rcases hreads with hreads | hreads
    · rw [hreads, hframe]
      refine serve_whole ⟨hinit, ?_, rfl⟩ (hframe ▸ hsize) hround
      unfold READ_SIZE at hlength
      omega
    · have hne : (ClientMessage.codec W p.tape).serialize m ≠ [] := by
        have hmem : (m.send W o).drop 4 ∈ p.reads := by rw [hreads]; simp
        have hpiece := hcut.nonempty _ hmem
        rwa [hframe, drop_frame] at hpiece
      have hbody : onePiece ((ClientMessage.codec W p.tape).serialize m) =
          [(ClientMessage.codec W p.tape).serialize m] := if_neg hne
      have hmore := @serve_header_body o (ClientMessage.codec W p.tape) []
        (o.encode ((ClientMessage.codec W p.tape).serialize m).length)
        ((ClientMessage.codec W p.tape).serialize m) [] (o.length_encode _)
        (o.decode_encode (by unfold READ_SIZE at hlength; omega)) (by omega)
      rw [hbody, hround] at hmore
      rw [hreads, hframe, take_frame, drop_frame]
      exact hmore
  rw [answerTo, if_pos hcut, answer, hserve]

theorem answerTo_send {m : ClientMessage} (hinit : m.isInitialized = true) (hrange : m.InRange)
    {p : Reading} (hwhole : Whole (m.send W o) p) {env : Env} {s : State} {r : List Byte × State}
    (h : answerTo W o (m.send W o) env p s = some r) :
    r = ((handle env m s).1.parseIntoOstream W o, (handle env m s).2) := by
  by_cases hcut : p.IsOf (m.send W o)
  · rw [answerTo_eq hinit hrange hwhole hcut] at h
    exact (Option.some_inj.1 h).symm
  · rw [answerTo, if_neg hcut] at h
    cases h

/-- The node reads the reply that was written. -/
theorem readReply_eq {reply : NodeMessage} (hinit : reply.isInitialized = true)
    (hrange : reply.InRange) (hsize : (reply.parseIntoOstream W o).length < W.maxSize) {p : Reading}
    (hcut : p.IsOf (reply.parseIntoOstream W o)) :
    readReply W o (reply.parseIntoOstream W o) p = some (.good reply) := by
  have hframe : reply.parseIntoOstream W o = (NodeMessage.codec W p.tape).frame o reply :=
    NodeMessage.parseIntoOstream_eq_frame W o p.tape reply
  rw [hframe, length_frame] at hsize
  have hlimit := W.maxSize_le
  have hround : (NodeMessage.codec W p.tape).parse ((NodeMessage.codec W p.tape).serialize reply) =
      some reply := by
    refine NodeMessage.parse_serialize W hinit hrange ?_
    omega
  have hpieces := hcut
  rw [Reading.IsOf, hframe] at hpieces
  obtain ⟨_, _, -, -, hread⟩ := readMessage_frame hround (by omega) hpieces
  rw [readReply, if_pos hcut, hread]

theorem readReply_written {reply : NodeMessage} (hinit : reply.isInitialized = true)
    (hrange : reply.InRange) (hsize : (reply.parseIntoOstream W o).length < W.maxSize) {p : Reading}
    {r : ParseResult} (h : readReply W o (reply.parseIntoOstream W o) p = some r) :
    r = .good reply := by
  by_cases hcut : p.IsOf (reply.parseIntoOstream W o)
  · rw [readReply_eq hinit hrange hsize hcut] at h
    exact (Option.some_inj.1 h).symm
  · rw [readReply, if_neg hcut] at h
    cases h

/-! ### One step -/

variable {w : NodeRun} {u : WireRun}

/-- The run of messages takes the step as well. -/
def Matched (W : WireFormat) (o : ByteOrder) (w : NodeRun) (e : WireEvent) (u : WireRun) : Prop :=
  ∃ w', run NodeRun.step w (erase W o e).toList = some w' ∧ u = encode W o w' ∧ Fits w'

theorem matched_of_step {e : WireEvent} {e' : NodeEvent} (w' : NodeRun) (he : erase W o e = some e')
    (hstep : w.step e' = some w') (hu : u = encode W o w') (hfits : Fits w') : Matched W o w e u := by
  refine ⟨w', ?_, hu, hfits⟩
  rw [he, Option.toList_some, run_cons, hstep]
  rfl

theorem adrift_ofExchange (x : Exchange) :
    (ofExchange W o x).adrift = x.adrift.map (·.message.send W o) := by
  unfold Flight.adrift Exchange.adrift ofExchange
  cases x.reply <;> rfl

/-- A handled request leaves the tracker fit, and its reply. -/
theorem FitsExchange.answered {x : Exchange} (hx : FitsExchange x) (env : Env) {s : State}
    (hs : HasPorts s) :
    FitsExchange { x with reply := some ((x.request.to env).handle s).1 } ∧
      HasPorts ((x.request.to env).handle s).2 := by
  obtain ⟨hrange, hports⟩ := inRange_handle env hx.request hs
  refine ⟨⟨hx.request, ?_⟩, hports⟩
  rintro reply ⟨⟩
  exact ⟨handle_isInitialized env _ s, hrange⟩

/-- What was not answered is sent again later, or not at all. -/
theorem FitsExchange.inRange_adrift {x : Exchange} (hx : FitsExchange x) :
    ∀ request ∈ x.adrift, request.message.InRange := by
  intro request hrequest
  unfold Exchange.adrift at hrequest
  split at hrequest
  · obtain rfl := List.mem_singleton.1 hrequest
    exact hx.request
  · cases hrequest

theorem matched_call (hw : Fits w) {c : NodeCall} {connected hasKey : Bool} (hport : HasIntPort c)
    (h : (encode W o w).call W o c connected hasKey = some u) :
    Matched W o w (.call c connected hasKey) u := by
  have hnode : (encode W o w).node = w.node := rfl
  have hwaiting : (encode W o w).waiting.isSome = w.waiting.isSome := Option.isSome_map
  unfold call at h
  rw [hnode, hwaiting] at h
  split at h
  · rename_i hasync
    split at h
    · rename_i request hbegin
      cases h
      have hrange : request.message.InRange :=
        (NodeState.begin_eq_ok hbegin).1 ▸ inRange_request w.node hport
      refine matched_of_step { w with asyncs := w.asyncs ++ [{ request }] } rfl ?_ ?_ ?_
      · simp only [NodeRun.step, NodeRun.call, hasync, if_true, hbegin]
      · simp only [encode, List.map_append]
        rfl
      · refine { hw with asyncs := fun x hx => ?_ }
        rcases List.mem_append.1 hx with hx | hx
        · exact hw.asyncs x hx
        · obtain rfl := List.mem_singleton.1 hx
          exact .sent hrange
    · rename_i error hbegin
      cases h
      refine matched_of_step w rfl ?_ rfl hw
      simp only [NodeRun.step, NodeRun.call, hasync, if_true, hbegin]
  · rename_i hsync
    split at h
    · cases h
    · rename_i hidle
      split at h
      · rename_i request hbegin
        cases h
        have hrange : request.message.InRange :=
          (NodeState.begin_eq_ok hbegin).1 ▸ inRange_request w.node hport
        refine matched_of_step { w with waiting := some { request, call := c } } rfl ?_ rfl ?_
        · simp only [NodeRun.step, NodeRun.call, hsync, hidle, if_false, hbegin, Bool.false_eq_true]
        · refine { hw with waiting := fun x hx => ?_ }
          cases hx
          exact .sent hrange
      · rename_i error hbegin
        cases h
        refine matched_of_step w rfl ?_ rfl hw
        simp only [NodeRun.step, NodeRun.call, hsync, hidle, if_false, hbegin, Bool.false_eq_true]

theorem matched_arrive (hw : Fits w) {env : Env} {p : Reading}
    (hd : (encode W o w).Delivered W (.arrive env p))
    (h : (encode W o w).step W o (.arrive env p) = some u) : Matched W o w (.arrive env p) u := by
  obtain ⟨x', hx', h⟩ := Option.bind_eq_some_iff.1 h
  obtain ⟨x, hx, rfl⟩ := Option.map_eq_some_iff.1 hx'
  split at h
  · cases h
  · rename_i hreply
    obtain ⟨r, hr, h⟩ := Option.bind_eq_some_iff.1 h
    cases h
    have hfits := hw.waiting x hx
    have hnone : x.reply = none := by
      cases hsome : x.reply with
      | none => rfl
      | some reply =>
        refine absurd ?_ hreply
        simp [ofWaiting, ofExchange, hsome]
    obtain ⟨hanswered, hports⟩ := hfits.answered env hw.ports
    obtain rfl := answerTo_send x.request.initialized hfits.request (hd _ hx') hr
    refine matched_of_step
      { w.serve (x.request.to env) with
        waiting := some { x with reply := some ((x.request.to env).handle w.tracker).1 } } rfl ?_ rfl ?_
    · simp [NodeRun.step, NodeRun.served, hx, hnone]
    · refine ⟨hports, ?_, hw.asyncs, hw.adrift⟩
      rintro y ⟨⟩
      exact hanswered

theorem getElem?_encode {i : Nat} {x' : Flight} (h : (encode W o w).asyncs[i]? = some x') :
    ∃ x, w.asyncs[i]? = some x ∧ x ∈ w.asyncs ∧ x' = ofExchange W o x := by
  rw [encode, List.getElem?_map] at h
  obtain ⟨x, hx, rfl⟩ := Option.map_eq_some_iff.1 h
  exact ⟨x, hx, List.mem_of_getElem? hx, rfl⟩

theorem matched_arriveAsync (hw : Fits w) {i : Nat} {env : Env} {p : Reading}
    (hd : (encode W o w).Delivered W (.arriveAsync i env p))
    (h : (encode W o w).step W o (.arriveAsync i env p) = some u) :
    Matched W o w (.arriveAsync i env p) u := by
  obtain ⟨x', hx', h⟩ := Option.bind_eq_some_iff.1 h
  obtain ⟨x, hx, hmem, rfl⟩ := getElem?_encode hx'
  split at h
  · cases h
  · rename_i hreply
    obtain ⟨r, hr, h⟩ := Option.bind_eq_some_iff.1 h
    cases h
    have hfits := hw.asyncs x hmem
    have hnone : x.reply = none := by
      cases hsome : x.reply with
      | none => rfl
      | some reply =>
        refine absurd ?_ hreply
        simp [ofExchange, hsome]
    obtain ⟨hanswered, hports⟩ := hfits.answered env hw.ports
    obtain rfl := answerTo_send x.request.initialized hfits.request (hd _ hx') hr
    refine matched_of_step
      { w.serve (x.request.to env) with
        asyncs := w.asyncs.set i { x with reply := some ((x.request.to env).handle w.tracker).1 } } rfl
      ?_ ?_ ?_
    · simp [NodeRun.step, NodeRun.served, hx, hnone]
    · simp only [encode, List.map_set]
      rfl
    · refine ⟨hports, hw.waiting, fun y hy => ?_, hw.adrift⟩
      rcases List.mem_or_eq_of_mem_set hy with hold | rfl
      · exact hw.asyncs y hold
      · exact hanswered

theorem matched_arriveAdrift (hw : Fits w) {i : Nat} {env : Env} {p : Reading}
    (hd : (encode W o w).Delivered W (.arriveAdrift i env p))
    (h : (encode W o w).step W o (.arriveAdrift i env p) = some u) :
    Matched W o w (.arriveAdrift i env p) u := by
  obtain ⟨bytes, hbytes, h⟩ := Option.bind_eq_some_iff.1 h
  obtain ⟨r, hr, h⟩ := Option.bind_eq_some_iff.1 h
  cases h
  have hwhole := hd bytes hbytes
  rw [encode, List.getElem?_map] at hbytes
  obtain ⟨request, hrequest, rfl⟩ := Option.map_eq_some_iff.1 hbytes
  have hrange := hw.adrift request (List.mem_of_getElem? hrequest)
  obtain rfl := answerTo_send request.initialized hrange hwhole hr
  refine matched_of_step
    { w.serve (request.to env) with adrift := w.adrift.eraseIdx i } rfl ?_ ?_ ?_
  · simp [NodeRun.step, NodeRun.served, hrequest]
  · simp only [encode, List.eraseIdx_map]
    rfl
  · refine ⟨(inRange_handle env hrange hw.ports).2, hw.waiting, hw.asyncs, fun y hy => ?_⟩
    exact hw.adrift y (List.mem_of_mem_eraseIdx hy)

theorem matched_receive (hw : Fits w) {readable : Bool} {p : Reading}
    (hd : (encode W o w).Delivered W (.receive readable p))
    (h : (encode W o w).step W o (.receive readable p) = some u) :
    Matched W o w (.receive readable p) u := by
  obtain ⟨x', hx', h⟩ := Option.bind_eq_some_iff.1 h
  obtain ⟨bytes, hbytes, h⟩ := Option.bind_eq_some_iff.1 h
  obtain ⟨r, hr, h⟩ := Option.bind_eq_some_iff.1 h
  have hsize := hd x' hx' bytes hbytes
  obtain ⟨x, hx, rfl⟩ := Option.map_eq_some_iff.1 hx'
  obtain ⟨reply, hreply, rfl⟩ := Option.map_eq_some_iff.1 hbytes
  obtain ⟨hinit, hrange⟩ := (hw.waiting x hx).reply reply hreply
  obtain rfl := readReply_written hinit hrange hsize hr
  cases h
  refine matched_of_step
    { w with node := (w.node.receive readable reply x.call).2, waiting := none } rfl ?_ rfl ?_
  · simp [NodeRun.step, hx, hreply]
  · exact ⟨hw.ports, (by rintro y ⟨⟩), hw.asyncs, hw.adrift⟩

theorem matched_receiveAsync (hw : Fits w) {i : Nat} {p : Reading}
    (hd : (encode W o w).Delivered W (.receiveAsync i p))
    (h : (encode W o w).step W o (.receiveAsync i p) = some u) :
    Matched W o w (.receiveAsync i p) u := by
  obtain ⟨x', hx', h⟩ := Option.bind_eq_some_iff.1 h
  obtain ⟨bytes, hbytes, h⟩ := Option.bind_eq_some_iff.1 h
  obtain ⟨r, hr, h⟩ := Option.bind_eq_some_iff.1 h
  have hsize := hd x' hx' bytes hbytes
  obtain ⟨x, hx, hmem, rfl⟩ := getElem?_encode hx'
  obtain ⟨reply, hreply, rfl⟩ := Option.map_eq_some_iff.1 hbytes
  obtain ⟨hinit, hrange⟩ := (hw.asyncs x hmem).reply reply hreply
  obtain rfl := readReply_written hinit hrange hsize hr
  cases h
  refine matched_of_step
    { w with
      node := (w.node.receiveDefault (reply.responseType.getD .ok)).2
      asyncs := w.asyncs.eraseIdx i } rfl ?_ ?_ ?_
  · simp [NodeRun.step, hx, hreply]
  · simp only [encode, List.eraseIdx_map]
  · exact ⟨hw.ports, hw.waiting, fun y hy => hw.asyncs y (List.mem_of_mem_eraseIdx hy), hw.adrift⟩

theorem matched_sendError (hw : Fits w) (h : (encode W o w).step W o .sendError = some u) :
    Matched W o w .sendError u := by
  obtain ⟨x', hx', h⟩ := Option.bind_eq_some_iff.1 h
  cases h
  obtain ⟨x, hx, rfl⟩ := Option.map_eq_some_iff.1 hx'
  refine matched_of_step
    { w with waiting := none, adrift := w.adrift ++ x.adrift } rfl ?_ ?_ ?_
  · simp [NodeRun.step, hx]
  · simp only [encode, List.map_append, ← adrift_ofExchange]
    rfl
  · refine ⟨hw.ports, (by rintro y ⟨⟩), hw.asyncs, fun request hrequest => ?_⟩
    rcases List.mem_append.1 hrequest with hold | hnew
    · exact hw.adrift request hold
    · exact (hw.waiting x hx).inRange_adrift request hnew

theorem matched_sendErrorAsync (hw : Fits w) {i : Nat}
    (h : (encode W o w).step W o (.sendErrorAsync i) = some u) :
    Matched W o w (.sendErrorAsync i) u := by
  obtain ⟨x', hx', h⟩ := Option.bind_eq_some_iff.1 h
  cases h
  obtain ⟨x, hx, hmem, rfl⟩ := getElem?_encode hx'
  refine matched_of_step
    { w with asyncs := w.asyncs.eraseIdx i, adrift := w.adrift ++ x.adrift } rfl ?_ ?_ ?_
  · simp [NodeRun.step, hx]
  · simp only [encode, List.map_append, ← adrift_ofExchange, List.eraseIdx_map]
  · refine ⟨hw.ports, hw.waiting, fun y hy => hw.asyncs y (List.mem_of_mem_eraseIdx hy),
      fun request hrequest => ?_⟩
    rcases List.mem_append.1 hrequest with hold | hnew
    · exact hw.adrift request hold
    · exact (hw.asyncs x hmem).inRange_adrift request hnew

theorem matched_setUser (hw : Fits w) {user : MyUser} {active : Bool}
    (h : (encode W o w).step W o (.setUser user active) = some u) :
    Matched W o w (.setUser user active) u := by
  have hwaiting : (encode W o w).waiting.isSome = w.waiting.isSome := Option.isSome_map
  rw [step, hwaiting] at h
  split at h
  · cases h
  · rename_i hidle
    cases h
    cases active with
    | true =>
      refine matched_of_step w rfl ?_ rfl hw
      simp only [NodeRun.step, hidle]
      rfl
    | false =>
      refine matched_of_step { w with node := w.node.setUser user } rfl ?_ rfl ?_
      · simp only [NodeRun.step, hidle]
        rfl
      · exact ⟨hw.ports, hw.waiting, hw.asyncs, hw.adrift⟩

/-- A message that was dispatched was parsed from some bytes. -/
theorem exists_parse {codec : Codec ClientMessage} {reads : List (List Byte)} {m : ClientMessage}
    (h : serve o codec reads = some (.dispatch m)) : ∃ bytes, codec.parse bytes = some m := by
  have hbody : ∀ {len : Int} {streambuf : List Byte},
      RequestParser.parseBody codec len streambuf = some (.dispatch m) →
        ∃ bytes, codec.parse bytes = some m := by
    intro len streambuf h
    unfold RequestParser.parseBody at h
    split at h
    · cases h
    · split at h
      · split at h
        · rename_i hparse
          cases h
          exact ⟨streambuf, hparse⟩
        · cases h
      · cases h
  have hloop : ∀ (reads : List (List Byte)) (q : RequestParser),
      (readLoop (RequestParser.parse o codec) q reads).2 = some (.dispatch m) →
        ∃ bytes, codec.parse bytes = some m := by
    intro reads
    induction reads with
    | nil =>
      intro q h
      cases h
    | cons r reads ih =>
      intro q h
      rcases hstep : RequestParser.parse o codec q r with ⟨q', _ | v⟩
      · rw [readLoop_cons_none hstep] at h
        exact ih q' h
      · rw [readLoop_cons_some hstep] at h
        cases h
        unfold RequestParser.parse at hstep
        split at hstep
        · cases hstep
        · split at hstep <;> exact hbody (Prod.mk.inj hstep).2
  exact hloop _ _ h

/-- Whatever a connection delivers, the tracker stays fit, and what it writes is a reply that is fit. -/
theorem inRange_answer {env : Env} {p : Reading} {s s' : State} {reply : List Byte} (hs : HasPorts s)
    (h : answer W o env p s = some (reply, s')) :
    HasPorts s' ∧ ∃ m : NodeMessage, m.isInitialized = true ∧ m.InRange ∧ reply = m.parseIntoOstream W o := by
  unfold answer at h
  split at h
  · rename_i m hserve
    obtain ⟨rfl, rfl⟩ := Prod.mk.inj (Option.some_inj.1 h)
    obtain ⟨bytes, hbytes⟩ := exists_parse hserve
    obtain ⟨-, hrange, -⟩ := Descriptor.parseFromIstream_accepted (d := ClientMessage.descriptor W) hbytes
    obtain ⟨hreply, hports⟩ := inRange_handle env hrange hs
    exact ⟨hports, _, handle_isInitialized env m s, hreply, rfl⟩
  · obtain ⟨rfl, rfl⟩ := Prod.mk.inj (Option.some_inj.1 h)
    exact ⟨hs, _, rfl, inRange_of_listsServers (fun _ => id) (listsServers_of_none rfl rfl), rfl⟩
  · cases h

/-- Whatever another client sends, what is left of it is a request that is well formed, or nothing. -/
theorem matched_other (hw : Fits w) {env : Env} {p : Reading}
    (h : (encode W o w).step W o (.other env p) = some u) : Matched W o w (.other env p) u := by
  have hnothing : erase W o (.other env p) = none → u = encode W o w →
      Matched W o w (.other env p) u := by
    rintro herase rfl
    refine ⟨w, ?_, rfl, hw⟩
    rw [herase]
    rfl
  cases hserve : serve o (ClientMessage.codec W p.tape) p.reads with
  | none =>
    rw [step, answer, hserve] at h
    exact hnothing (by rw [erase, hserve]) (Option.some_inj.1 h).symm
  | some v =>
    cases v with
    | reject =>
      rw [step, answer, hserve] at h
      exact hnothing (by rw [erase, hserve]) (Option.some_inj.1 h).symm
    | dispatch m =>
      rw [step, answer, hserve] at h
      cases h
      obtain ⟨bytes, hbytes⟩ := exists_parse hserve
      obtain ⟨hinit, hrange, -⟩ :=
        Descriptor.parseFromIstream_accepted (d := ClientMessage.descriptor W) hbytes
      have herase : erase W o (.other env p) = some (.other ⟨env, m, hinit⟩) := by
        rw [erase, hserve]
        exact dif_pos hinit
      refine matched_of_step (w.serve ⟨env, m, hinit⟩) herase rfl rfl ?_
      exact ⟨(inRange_handle env hrange hw.ports).2, hw.waiting, hw.asyncs, hw.adrift⟩

theorem matched_step (hw : Fits w) {e : WireEvent} (hd : (encode W o w).Delivered W e)
    (h : (encode W o w).step W o e = some u) : Matched W o w e u := by
  cases e with
  | call c connected hasKey => exact matched_call hw hd h
  | setUser user active => exact matched_setUser hw h
  | arrive env p => exact matched_arrive hw hd h
  | arriveAsync i env p => exact matched_arriveAsync hw hd h
  | arriveAdrift i env p => exact matched_arriveAdrift hw hd h
  | receive readable p => exact matched_receive hw hd h
  | receiveAsync i p => exact matched_receiveAsync hw hd h
  | sendError => exact matched_sendError hw h
  | sendErrorAsync i => exact matched_sendErrorAsync hw h
  | other env p => exact matched_other hw h

/-! ### Going on -/

section IsSome

variable {e' : NodeEvent} {w' : NodeRun}

theorem getElem?_asyncs {i : Nat} {x : Exchange} (hx : w.asyncs[i]? = some x) :
    (encode W o w).asyncs[i]? = some (ofExchange W o x) := by
  simp [encode, hx]

theorem isSome_call {c : NodeCall} {connected hasKey : Bool}
    (h : w.step (.call c connected hasKey) = some w') :
    ((encode W o w).step W o (.call c connected hasKey)).isSome := by
  have hnode : (encode W o w).node = w.node := rfl
  have hwaiting : (encode W o w).waiting.isSome = w.waiting.isSome := Option.isSome_map
  rw [step, call, hnode, hwaiting]
  cases NodeRun.steps_of_step h with
  | refused hidle hbegin =>
    cases hasync : c.isAsync with
    | true => simp [hbegin]
    | false => simp [hidle hasync, hbegin]
  | sent hidle hbegin => cases hasync : c.isAsync <;> simp [hidle, hbegin]
  | sentAsync hasync hbegin => simp [hasync, hbegin]

theorem isSome_setUser {user : MyUser} {active : Bool} (h : w.step (.setUser user active) = some w') :
    ((encode W o w).step W o (.setUser user active)).isSome := by
  have hwaiting : (encode W o w).waiting.isSome = w.waiting.isSome := Option.isSome_map
  rw [step, hwaiting]
  replace h : (if w.waiting.isSome then none
    else some (if active then w else { w with node := w.node.setUser user })) = some w' := h
  split at h
  · cases h
  · rename_i hidle
    rw [if_neg hidle]
    rfl

theorem isSome_arrive (hw : Fits w) {env : Env} {p : Reading}
    (hd : (encode W o w).Delivered W (.arrive env p)) (ha : (encode W o w).Arrives (.arrive env p))
    (h : w.step (.arrive env) = some w') : ((encode W o w).step W o (.arrive env p)).isSome := by
  cases NodeRun.steps_of_step h with
  | @arrive x _ hx hr hreply =>
    have hx' : (encode W o w).waiting = some (ofWaiting W o x) := by simp [encode, hx]
    have hnone : (ofWaiting W o x).reply.isSome = false := by simp [ofWaiting, ofExchange, hreply]
    have heq := answerTo_eq (W := W) (o := o) x.request.initialized (hw.waiting x hx).request
      (hd _ hx') (ha _ hx') env w.tracker
    have hanswer : answerTo W o (ofWaiting W o x).request env p (encode W o w).tracker = _ := heq
    simp [step, hx', hnone, hanswer]

theorem isSome_arriveAsync (hw : Fits w) {i : Nat} {env : Env} {p : Reading}
    (hd : (encode W o w).Delivered W (.arriveAsync i env p))
    (ha : (encode W o w).Arrives (.arriveAsync i env p)) (h : w.step (.arriveAsync i env) = some w') :
    ((encode W o w).step W o (.arriveAsync i env p)).isSome := by
  cases hx : w.asyncs[i]? with
  | none => simp [NodeRun.step, hx] at h
  | some x =>
    have hx' := getElem?_asyncs (W := W) (o := o) hx
    cases hreply : x.reply with
    | some reply => simp [NodeRun.step, NodeRun.served, hx, hreply] at h
    | none =>
      have hnone : (ofExchange W o x).reply.isSome = false := by simp [ofExchange, hreply]
      have heq := answerTo_eq (W := W) (o := o) x.request.initialized
        (hw.asyncs x (List.mem_of_getElem? hx)).request (hd _ hx') (ha _ hx') env w.tracker
      have hanswer : answerTo W o (ofExchange W o x).request env p (encode W o w).tracker = _ := heq
      simp [step, hx', hnone, hanswer]

theorem isSome_arriveAdrift (hw : Fits w) {i : Nat} {env : Env} {p : Reading}
    (hd : (encode W o w).Delivered W (.arriveAdrift i env p))
    (ha : (encode W o w).Arrives (.arriveAdrift i env p)) (h : w.step (.arriveAdrift i env) = some w') :
    ((encode W o w).step W o (.arriveAdrift i env p)).isSome := by
  cases NodeRun.steps_of_step h with
  | @arriveAdrift _ request _ hrequest _ =>
    have hbytes : (encode W o w).adrift[i]? = some (request.message.send W o) := by
      simp [encode, hrequest]
    have heq := answerTo_eq (W := W) (o := o) request.initialized
      (hw.adrift request (List.mem_of_getElem? hrequest)) (hd _ hbytes) (ha _ hbytes) env w.tracker
    have hanswer : answerTo W o (request.message.send W o) env p (encode W o w).tracker = _ := heq
    simp [step, hbytes, hanswer]

theorem isSome_receive (hw : Fits w) {readable : Bool} {p : Reading}
    (hd : (encode W o w).Delivered W (.receive readable p))
    (ha : (encode W o w).Arrives (.receive readable p))
    (h : w.step (.receive readable) = some w') :
    ((encode W o w).step W o (.receive readable p)).isSome := by
  cases NodeRun.steps_of_step h with
  | @receive x reply _ hx hreply =>
    have hx' : (encode W o w).waiting = some (ofWaiting W o x) := by simp [encode, hx]
    have hbytes : (ofWaiting W o x).reply = some (reply.parseIntoOstream W o) := by
      simp [ofWaiting, ofExchange, hreply]
    obtain ⟨hinit, hrange⟩ := (hw.waiting x hx).reply reply hreply
    have hread := readReply_eq hinit hrange (hd _ hx' _ hbytes) (ha _ hx' _ hbytes)
    simp [step, hx', hbytes, hread]

theorem isSome_receiveAsync (hw : Fits w) {i : Nat} {p : Reading}
    (hd : (encode W o w).Delivered W (.receiveAsync i p)) (ha : (encode W o w).Arrives (.receiveAsync i p))
    (h : w.step (.receiveAsync i) = some w') : ((encode W o w).step W o (.receiveAsync i p)).isSome := by
  cases NodeRun.steps_of_step h with
  | @receiveAsync _ x reply hx hreply =>
    have hx' := getElem?_asyncs (W := W) (o := o) hx
    have hbytes : (ofExchange W o x).reply = some (reply.parseIntoOstream W o) := by
      simp [ofExchange, hreply]
    obtain ⟨hinit, hrange⟩ := (hw.asyncs x (List.mem_of_getElem? hx)).reply reply hreply
    have hread := readReply_eq hinit hrange (hd _ hx' _ hbytes) (ha _ hx' _ hbytes)
    simp [step, hx', hbytes, hread]

/-- Where the run of messages can go on, the bytes that arrive are no obstacle. -/
theorem isSome_step (hw : Fits w) {e : WireEvent} (hd : (encode W o w).Delivered W e)
    (ha : (encode W o w).Arrives e) (he : erase W o e = some e') (h : w.step e' = some w') :
    ((encode W o w).step W o e).isSome := by
  cases e with
  | other env p =>
    rw [step]
    split <;> rfl
  | call c connected hasKey =>
    cases he
    exact isSome_call h
  | setUser user active =>
    cases he
    exact isSome_setUser h
  | arrive env p =>
    cases he
    exact isSome_arrive hw hd ha h
  | arriveAsync i env p =>
    cases he
    exact isSome_arriveAsync hw hd ha h
  | arriveAdrift i env p =>
    cases he
    exact isSome_arriveAdrift hw hd ha h
  | receive readable p =>
    cases he
    exact isSome_receive hw hd ha h
  | receiveAsync i p =>
    cases he
    exact isSome_receiveAsync hw hd ha h
  | sendError =>
    cases he
    cases NodeRun.steps_of_step h with
    | sendError hx => simp [step, encode, hx]
  | sendErrorAsync i =>
    cases he
    cases NodeRun.steps_of_step h with
    | sendErrorAsync hx => simp [step, getElem?_asyncs hx]

end IsSome

/-- A connection of another client is never an obstacle. -/
theorem isSome_step_of_erase {e : WireEvent} (he : erase W o e = none) (w : WireRun) :
    (w.step W o e).isSome := by
  cases e with
  | other env p =>
    rw [step]
    split <;> rfl
  | _ => cases he

/-! ### Runs -/

theorem filterMap_cons (e : WireEvent) (events : List WireEvent) :
    (e :: events).filterMap (erase W o) = (erase W o e).toList ++ events.filterMap (erase W o) := by
  cases he : erase W o e <;> simp [he]

/-- **Every run in bytes is a run of messages**: whatever the replies are cut into and whatever other
clients send, node and tracker are in the states that the messages lead to, and in flight are the
bytes of the messages in flight. -/
theorem refines (W : WireFormat) (o : ByteOrder) {w : NodeRun} (hw : Fits w) {events : List WireEvent}
    (hd : Along (step W o) (Delivered W) (encode W o w) events) {u : WireRun}
    (hrun : run (step W o) (encode W o w) events = some u) :
    ∃ w', run NodeRun.step w (events.filterMap (erase W o)) = some w' ∧ u = encode W o w' ∧ Fits w' := by
  induction events generalizing w with
  | nil =>
    cases hrun
    exact ⟨w, rfl, rfl, hw⟩
  | cons e events ih =>
    obtain ⟨v, hv, hrest⟩ := Option.bind_eq_some_iff.1 hrun
    obtain ⟨w₁, hstep, rfl, hw₁⟩ := matched_step hw hd.1 hv
    obtain ⟨w', hrun', hu, hw'⟩ := ih hw₁ (hd.2 _ hv) hrest
    refine ⟨w', ?_, hu, hw'⟩
    rw [filterMap_cons, run_append, hstep]
    exact hrun'

/-- Somebody sends a byte that is no message. Alice logs in without an account; the tracker gets her
request in two pieces, and she gets the refusal in three. -/
def aliceWire : List WireEvent :=
  [.other Env.sample ⟨[[1, 0, 0, 0, 0xFF]], []⟩,
    .call .logIn true true,
    .arrive Env.sample ⟨[[19, 0, 0, 0], [0x08, 0x02, 0x22, 0x0F, 0x0A, 0x05, 0x61, 0x6C, 0x69, 0x63, 0x65,
      0x12, 0x06, 0x73, 0x65, 0x63, 0x72, 0x65, 0x74]], [true, false]⟩,
    .receive true ⟨[[3, 0], [0, 0, 0x08, 0xF7], [0x03]], [true]⟩]

theorem refines_alice :
    ∃ w', run NodeRun.step (NodeRun.start NodeRun.alice State.empty)
          (aliceWire.filterMap (erase .protobuf .little)) = some w' ∧
        run (step .protobuf .little) (encode .protobuf .little (NodeRun.start NodeRun.alice State.empty))
          aliceWire = some (encode .protobuf .little w') ∧ Fits w' := by
  obtain ⟨u, hu⟩ := Option.isSome_iff_exists.1 (by decide +kernel :
    (run (step .protobuf .little) (encode .protobuf .little (NodeRun.start NodeRun.alice State.empty))
      aliceWire).isSome = true)
  obtain ⟨w', hw', rfl, hfits⟩ :=
    refines .protobuf .little (fits_start NodeRun.alice hasPorts_empty) (by decide +kernel) hu
  exact ⟨w', hw', hu, hfits⟩

/-- **And it gets as far**: when nothing but the bytes that were written is read, the bytes of a run
can do what its messages can, however they are cut. -/
theorem run_encode (W : WireFormat) (o : ByteOrder) {w : NodeRun} (hw : Fits w)
    {events : List WireEvent} (hd : Along (step W o) (Delivered W) (encode W o w) events)
    (ha : Along (step W o) Arrives (encode W o w) events) :
    run (step W o) (encode W o w) events =
      (run NodeRun.step w (events.filterMap (erase W o))).map (encode W o) := by
  induction events generalizing w with
  | nil => rfl
  | cons e events ih =>
    have hdone : ∀ v w₁, (encode W o w).step W o e = some v →
        run NodeRun.step w (erase W o e).toList = some w₁ →
        run (step W o) (encode W o w) (e :: events) =
          (run NodeRun.step w ((e :: events).filterMap (erase W o))).map (encode W o) := by
      intro v w₁ hv hstep
      obtain ⟨w₂, hstep', rfl, hw₂⟩ := matched_step hw hd.1 hv
      obtain rfl := Option.some_inj.1 (hstep.symm.trans hstep')
      rw [run_cons, hv, filterMap_cons, run_append, hstep]
      exact ih hw₂ (hd.2 _ hv) (ha.2 _ hv)
    cases hv : (encode W o w).step W o e with
    | some v =>
      obtain ⟨w₁, hstep, -, -⟩ := matched_step hw hd.1 hv
      exact hdone v w₁ hv hstep
    | none =>
      -- The messages are stuck as well.
      cases he : erase W o e with
      | none =>
        have hother := isSome_step_of_erase he (encode W o w)
        rw [hv] at hother
        cases hother
      | some e' =>
        have hstuck : w.step e' = none := by
          cases hstep : w.step e' with
          | none => rfl
          | some w' =>
            have hgoes := isSome_step hw hd.1 ha.1 he hstep
            rw [hv] at hgoes
            cases hgoes
        rw [run_cons, hv, List.filterMap_cons_some he, run_cons, hstuck]
        rfl

theorem run_encode_alice :
    run (step .protobuf .little) (encode .protobuf .little (NodeRun.start NodeRun.alice State.empty))
        aliceWire =
      (run NodeRun.step (NodeRun.start NodeRun.alice State.empty)
        (aliceWire.filterMap (erase .protobuf .little))).map (encode .protobuf .little) :=
  run_encode .protobuf .little (fits_start NodeRun.alice hasPorts_empty) (by decide +kernel)
    (by decide +kernel)

/-! ### Any connections -/

/-- The tracker after these connections, each with the environment that it is handled in. -/
def afterConnections (W : WireFormat) (o : ByteOrder) (connections : List (Env × Reading)) : State :=
  connections.foldl (fun s c => ((answer W o c.1 c.2 s).map Prod.snd).getD s) State.empty

theorem hasPorts_afterConnections (connections : List (Env × Reading)) :
    HasPorts (afterConnections W o connections) := by
  unfold afterConnections
  induction connections using List.reverseRecOn with
  | nil => exact hasPorts_empty
  | append_singleton connections c ih =>
    rw [List.foldl_append, List.foldl_cons, List.foldl_nil]
    generalize connections.foldl _ State.empty = s at ih
    cases hanswer : answer W o c.1 c.2 s with
    | none => exact ih
    | some r => exact (inRange_answer ih hanswer).1

/-- **Whatever bytes the tracker has been sent and is sent now**, what it replies is read as a whole message,
however the reply is cut. -/
theorem reply_is_read (W : WireFormat) (o : ByteOrder) (connections : List (Env × Reading)) (env : Env)
    (p : Reading) {reply : List Byte} {s : State}
    (h : answer W o env p (afterConnections W o connections) = some (reply, s))
    (hsize : reply.length < W.maxSize) {q : Reading} (hcut : q.IsOf reply) :
    ∃ m : NodeMessage, m.isInitialized = true ∧ m.InRange ∧ reply = m.parseIntoOstream W o ∧
      readReply W o reply q = some (.good m) := by
  obtain ⟨-, m, hinit, hrange, rfl⟩ := inRange_answer (hasPorts_afterConnections connections) h
  exact ⟨m, hinit, hrange, rfl, readReply_eq hinit hrange hsize hcut⟩

/-- The refusal that Alice gets. -/
theorem reply_is_read_alice :
    ∃ m : NodeMessage, m.isInitialized = true ∧
      readReply .protobuf .little [3, 0, 0, 0, 0x08, 0xF7, 0x03]
        ⟨[[3, 0], [0, 0, 0x08, 0xF7], [0x03]], [true]⟩ = some (.good m) := by
  have hanswer : (answer .protobuf .little Env.sample ⟨[[19, 0, 0, 0], [0x08, 0x02, 0x22, 0x0F, 0x0A, 0x05,
      0x61, 0x6C, 0x69, 0x63, 0x65, 0x12, 0x06, 0x73, 0x65, 0x63, 0x72, 0x65, 0x74]], [true, false]⟩
      (afterConnections .protobuf .little [(Env.sample, ⟨[[1, 0, 0, 0, 0xFF]], []⟩)])).map Prod.fst =
        some [3, 0, 0, 0, 0x08, 0xF7, 0x03] := by
    decide +kernel
  obtain ⟨⟨_, s⟩, hanswer, rfl⟩ := Option.map_eq_some_iff.1 hanswer
  obtain ⟨m, hinit, -, -, hread⟩ := reply_is_read .protobuf .little _ Env.sample _ hanswer (by decide)
    (show Reading.IsOf ⟨[[3, 0], [0, 0, 0x08, 0xF7], [0x03]], [true]⟩ _ by decide)
  exact ⟨m, hinit, hread⟩

end WireRun

end Sp2p
