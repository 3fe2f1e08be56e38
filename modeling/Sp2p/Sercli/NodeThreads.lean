import Sp2p.Lib.Runs
import Sp2p.Protocol
import Sp2p.Sercli.NodeConnection

/-!
# The threads around a node

One thread calls the operations of a `Node`. An operation looks at its connection (`isActive`),
connects or posts a reset of the timer, gets the pointer (`getConnection`), sends its request and
waits for the reply. In between the threads of the `io_service` run the handlers of the timer, which
close the connection, each in four steps, and the tracker answers one request on each connection and
shuts it down.

`connection_isSome` and `requests_le_one` say in which of these runs the pointer is not null and no
connection carries two requests.
-/

namespace Sp2p.Sercli

open Runs Protocol

/-- The operations of a node that send a request. -/
inductive Operation
  | logIn | logOut | registerUser | changePassword | getUserInfo | inviteUser | getNetworksList
  | getMyNetworks | getServersList | registerNetwork | deleteNetwork | updateServer
  | asyncUpdateServer | stopServer | signKey
  deriving DecidableEq

/-- `is_logged` and `my_user.is_registered`. -/
structure Flags where
  isLogged : Bool := false
  isRegistered : Bool := false
  deriving DecidableEq

namespace Operation

/-- What an operation looks at before its connection; all but two look in `beforeMessage`. -/
def mayBegin (flags : Flags) : Operation → Bool
  | .logIn => !flags.isLogged
  | .registerUser => !flags.isRegistered
  | _ => flags.isLogged

/-- The operations that return `OTHER` when the node has no private key. -/
def needsKey : Operation → Bool
  | .registerUser | .signKey => true
  | _ => false

/-- What the type of the reply does to the flags; `cookie` says that there is one in it. -/
def receive (r : ResponseType) (cookie : Bool) (flags : Flags) : Operation → Flags
  | .logIn => if r = .ok ∧ cookie then ⟨true, true⟩ else flags
  | .logOut => if r = .ok ∨ r = .notLogged then { flags with isLogged := false } else flags
  | .registerUser =>
    if r = .ok then { flags with isRegistered := true }
    else if r = .notLogged then { flags with isLogged := false } else flags
  | _ => if r = .notLogged then { flags with isLogged := false } else flags

end Operation

/-- Where the caller is in an operation. -/
inductive Caller
  | idle
  | begun (op : Operation)
  /-- `isActive()` was true: next it resets the timer. -/
  | resetting (op : Operation)
  /-- `isActive()` was false: next it is in `connect`, which asks again. -/
  | connecting (op : Operation)
  | resolving (op : Operation)
  /-- `connection` points to the new object: next it connects. -/
  | created (op : Operation)
  | connected (op : Operation)
  | started (op : Operation)
  /-- `beforeMessage` returned `OK`. -/
  | ready (op : Operation)
  /-- It has what `getConnection` gave. -/
  | got (op : Operation) (con : Option Nat)
  /-- It waits for the reply to the request that was the `nth` on the connection. -/
  | waiting (op : Operation) (con nth : Nat)
  | replied (op : Operation)
  deriving DecidableEq

/-- The caller found or made a connection, and has not got the pointer to it yet. -/
def Caller.holds : Caller → Bool
  | .resetting _ | .created _ | .connected _ | .started _ | .ready _ => true
  | _ => false

/-- The caller is at the `isActive` of its pre-check. -/
def Caller.asks : Caller → Bool
  | .begun _ => true
  | _ => false

/-- Where a run of `closeConnection` is. -/
inductive Closer
  | begun
  | active
  | stopped
  | cancelled
  deriving DecidableEq

/-- `asyncs` are the requests of `asyncUpdateServer` that wait for a reply: the connection, and which
on it. -/
structure NodeThreads where
  nc : NodeConnection := {}
  flags : Flags := {}
  caller : Caller := .idle
  closers : List Closer := []
  asyncs : List (Nat × Nat) := []
  deriving DecidableEq

namespace NodeThreads

/-- `ok` says how an attempt of the caller ends, or whether there is a private key; `opened` whether
the log takes records of level debug. -/
inductive Event
  | call (op : Operation)
  | next (ok : Bool)
  | receive (r : ResponseType) (cookie : Bool)
  | sendError
  | stopConnections (opened : Bool)
  | handler (i : Nat)
  | closer (i : Nat)
  | io (e : NodeConnection.Io)
  /-- The tracker answers on the connection and shuts it down. -/
  | answer (k : Nat)
  | asyncReceive (i : Nat) (r : ResponseType)

def call (s : NodeThreads) (op : Operation) : Option NodeThreads :=
  if s.caller = .idle then
    some (if op.mayBegin s.flags then { s with caller := .begun op } else s)
  else none

/-- `con->sendRequest(..)`. -/
def sendRequest (s : NodeThreads) (op : Operation) (k : Nat) : Option NodeThreads := do
  let c ← s.nc.connections[k]?
  let s := { s with nc := s.nc.update k fun c => { c with requests := c.requests + 1 } }
  return if op = .asyncUpdateServer then
      { s with caller := .idle, asyncs := s.asyncs ++ [(k, c.requests)] }
    else { s with caller := .waiting op k c.requests }

/-- The next step of the caller; `none` where it waits for something, and for a null pointer. -/
def next (timeout : Nat) (s : NodeThreads) (ok : Bool) : Option NodeThreads :=
  match s.caller with
  | .idle => none
  | .begun op => some { s with caller := if s.nc.isActive then .resetting op else .connecting op }
  | .resetting op => some { s with nc := s.nc.resetDeadlineTimer timeout, caller := .ready op }
  | .connecting op => some { s with
      nc := s.nc.touch
      caller := if s.nc.isActive then .ready op else .resolving op }
  | .resolving op =>
    if ok then some { s with nc := s.nc.create, caller := .created op }
    else some { s with caller := .idle }
  | .created op => s.nc.connection.map fun _ =>
    if ok then { s with caller := .connected op }
    else { s with nc := s.nc.resetPointer, caller := .idle }
  | .connected op => s.nc.start.map fun nc => { s with nc, caller := .started op }
  | .started op => some { s with nc := s.nc.startTimer timeout, caller := .ready op }
  | .ready op =>
    if op.needsKey ∧ ok = false then some { s with caller := .idle }
    else some { s with caller := .got op s.nc.getConnection }
  | .got op con => con.bind (s.sendRequest op)
  | .waiting _ _ _ => none
  | .replied _ => some { s with nc := s.nc.resetDeadlineTimer timeout, caller := .idle }

/-- The tracker has answered the request. -/
def Answered (s : NodeThreads) (k nth : Nat) : Prop :=
  nth = 0 ∧ ∃ c ∈ s.nc.connections[k]?, c.answered = true

instance (s : NodeThreads) (k nth : Nat) : Decidable (s.Answered k nth) :=
  inferInstanceAs (Decidable (_ ∧ ∃ c ∈ s.nc.connections[k]?, _))

def receive (s : NodeThreads) (r : ResponseType) (cookie : Bool) : Option NodeThreads :=
  match s.caller with
  | .waiting op k nth =>
    if s.Answered k nth then
      some { s with flags := op.receive r cookie s.flags, caller := .replied op }
    else none
  | _ => none

/-- The handler of an error stops the connection, and the operation returns `SEND_ERROR`. -/
def sendError (s : NodeThreads) : Option NodeThreads :=
  match s.caller with
  | .waiting _ k _ => some { s with nc := s.nc.update k (·.post .stop), caller := .idle }
  | _ => none

/-- `Node::stopConnections`. A record of the log that is opened asks for the remote endpoint of a
socket that is never connected, which throws. -/
def stopConnections (s : NodeThreads) (opened : Bool) : Option NodeThreads :=
  if s.caller = .idle then
    some (if s.nc.isActive ∧ opened = false then { s with nc := s.nc.disconnect } else s)
  else none

def handler (s : NodeThreads) (i : Nat) : Option NodeThreads :=
  s.nc.timer.completed[i]?.map fun _ =>
    { s with nc := { s.nc with timer := s.nc.timer.take i }, closers := s.closers ++ [.begun] }

/-- The next step of a `closeConnection`; `none` is the null pointer. -/
def closer (s : NodeThreads) (i : Nat) : Option NodeThreads :=
  match s.closers[i]? with
  | none => none
  | some .begun => some { s with
      closers := if s.nc.isActive then s.closers.set i .active else s.closers.eraseIdx i }
  | some .active => s.nc.gracefulStop.map fun nc => { s with nc, closers := s.closers.set i .stopped }
  | some .stopped => some { s with
      nc := s.nc.stopDeadlineTimer
      closers := s.closers.set i .cancelled }
  | some .cancelled => some { s with nc := s.nc.resetPointer, closers := s.closers.eraseIdx i }

def answer (s : NodeThreads) (k : Nat) : Option NodeThreads := do
  let c ← s.nc.connections[k]?
  if 0 < c.requests ∧ c.answered = false then
    some { s with nc := s.nc.update k fun c => { c with answered := true } }
  else none

def asyncReceive (s : NodeThreads) (i : Nat) (r : ResponseType) : Option NodeThreads := do
  let (k, nth) ← s.asyncs[i]?
  if s.Answered k nth then
    some { s with
      flags := Operation.asyncUpdateServer.receive r false s.flags
      asyncs := s.asyncs.eraseIdx i }
  else none

def step (timeout : Nat) (s : NodeThreads) : Event → Option NodeThreads
  | .call op => s.call op
  | .next ok => s.next timeout ok
  | .receive r cookie => s.receive r cookie
  | .sendError => s.sendError
  | .stopConnections opened => s.stopConnections opened
  | .handler i => s.handler i
  | .closer i => s.closer i
  | .io e => (s.nc.io e).map fun nc => { s with nc }
  | .answer k => s.answer k
  | .asyncReceive i r => s.asyncReceive i r

/-! ### What the other threads do -/

/-- The steps that are not of the caller. -/
def Event.ofOthers : Event → Bool
  | .handler _ | .closer _ | .io _ | .answer _ | .asyncReceive _ _ => true
  | _ => false

variable {timeout : Nat} {s s' : NodeThreads} {e : Event}

/-- What the steps of a `closeConnection` do to the connection. -/
theorem closer_cases {i : Nat} (h : s.closer i = some s') :
    s'.caller = s.caller ∧
      (s.closers[i]? = some .begun ∧ s'.nc = s.nc ∨
        s.closers[i]? = some .active ∧ (∃ k, s'.nc =
          { s.nc.update k (·.post .gracefulStop) with managed := s.nc.managed.filter (· ≠ k) }) ∨
        s.closers[i]? = some .stopped ∧ s'.nc = s.nc.stopDeadlineTimer ∨
        s.closers[i]? = some .cancelled ∧ s'.nc = s.nc.resetPointer) := by
  unfold closer at h
  split at h
  · cases h
  · rename_i hpc
    obtain rfl := Option.some_inj.1 h
    exact ⟨rfl, .inl ⟨hpc, rfl⟩⟩
  · rename_i hpc
    obtain ⟨nc, hnc, rfl⟩ := Option.map_eq_some_iff.1 h
    obtain ⟨k, -, rfl⟩ := Option.map_eq_some_iff.1 hnc
    exact ⟨rfl, .inr (.inl ⟨hpc, k, rfl⟩)⟩
  · rename_i hpc
    obtain rfl := Option.some_inj.1 h
    exact ⟨rfl, .inr (.inr (.inl ⟨hpc, rfl⟩))⟩
  · rename_i hpc
    obtain rfl := Option.some_inj.1 h
    exact ⟨rfl, .inr (.inr (.inr ⟨hpc, rfl⟩))⟩

/-- Only the last step of a `closeConnection` resets the pointer. -/
theorem closer_eq_some {i : Nat} (h : s.closer i = some s') :
    s'.caller = s.caller ∧ (s.nc.Aged s'.nc ∨
      s.closers[i]? = some .cancelled ∧ s'.nc = s.nc.resetPointer) := by
  obtain ⟨hcaller, ⟨-, hnc⟩ | ⟨-, k, hnc⟩ | ⟨-, hnc⟩ | hreset⟩ := closer_cases h
  · exact ⟨hcaller, .inl (hnc ▸ .of_eq rfl rfl)⟩
  · exact ⟨hcaller, .inl (hnc ▸ .of_post rfl rfl)⟩
  · exact ⟨hcaller, .inl (hnc ▸ .of_eq rfl rfl)⟩
  · exact ⟨hcaller, .inr hreset⟩

theorem answer_eq_some {k : Nat} (h : s.answer k = some s') :
    s'.caller = s.caller ∧ s'.nc = s.nc.update k fun c => { c with answered := true } := by
  obtain ⟨c, -, hrest⟩ := Option.bind_eq_some_iff.1 h
  split at hrest
  · obtain rfl := Option.some_inj.1 hrest
    exact ⟨rfl, rfl⟩
  · cases hrest

theorem asyncReceive_eq_some {i : Nat} {r : ResponseType} (h : s.asyncReceive i r = some s') :
    s'.caller = s.caller ∧ s'.nc = s.nc := by
  obtain ⟨⟨k, nth⟩, -, hrest⟩ := Option.bind_eq_some_iff.1 h
  dsimp only at hrest
  split at hrest
  · obtain rfl := Option.some_inj.1 hrest
    exact ⟨rfl, rfl⟩
  · cases hrest

/-- What the other threads can do to the caller and its pointer. -/
theorem step_ofOthers (he : e.ofOthers = true) (h : s.step timeout e = some s') :
    s'.caller = s.caller ∧ (s.nc.Aged s'.nc ∨
      (∃ i, e = .closer i ∧ s.closers[i]? = some .cancelled) ∧ s'.nc = s.nc.resetPointer) := by
  cases e with
  | handler i =>
    obtain ⟨c, -, rfl⟩ := Option.map_eq_some_iff.1 h
    exact ⟨rfl, .inl (.of_eq rfl rfl)⟩
  | closer i =>
    obtain ⟨hcaller, haged | ⟨hpc, hreset⟩⟩ := closer_eq_some h
    · exact ⟨hcaller, .inl haged⟩
    · exact ⟨hcaller, .inr ⟨⟨i, rfl, hpc⟩, hreset⟩⟩
  | io e =>
    obtain ⟨nc, hnc, rfl⟩ := Option.map_eq_some_iff.1 h
    exact ⟨rfl, .inl (.of_io hnc)⟩
  | answer k =>
    obtain ⟨hcaller, hnc⟩ := answer_eq_some h
    exact ⟨hcaller, .inl (hnc ▸ .of_update rfl rfl fun _ => ⟨rfl, id⟩)⟩
  | asyncReceive i r =>
    obtain ⟨hcaller, hnc⟩ := asyncReceive_eq_some h
    exact ⟨hcaller, .inl (hnc ▸ .of_eq rfl rfl)⟩
  | _ => cases he

/-! ### What the caller does -/

/-- A step of the caller, as far as its connection is concerned. -/
inductive Move (s s' : NodeThreads) : Event → Prop
  /-- It does not rely on the pointer afterwards. -/
  | away {e : Event} (hholds : s'.caller.holds = false) (hgot : ∀ op con, s'.caller ≠ .got op con)
      (hconnecting : ∀ op, s'.caller = .connecting op → s'.nc.isActive = false)
      (hsame : s.nc.SameRequests s'.nc) : Move s s' e
  /-- `isActive()` is true. -/
  | found {ok : Bool} (op : Operation) (hbegun : s.caller = .begun op) (hactive : s.nc.isActive = true)
      (hnc : s'.nc = s.nc) (hcaller : s'.caller = .resetting op) : Move s s' (.next ok)
  /-- `isActive()` is true in `connect`, and was false before. -/
  | foundAgain {e : Event} (op : Operation) (hconnecting : s.caller = .connecting op)
      (hactive : s.nc.isActive = true) (haged : s.nc.Aged s'.nc) (hcaller : s'.caller = .ready op) :
      Move s s' e
  | created {e : Event} (op : Operation) (hnc : s'.nc = s.nc.create)
      (hcaller : s'.caller = .created op) : Move s s' e
  /-- It goes on with the connection. -/
  | keeps {e : Event} (hholds : s.caller.holds = true) (haged : s.nc.Aged s'.nc)
      (hgot : ∀ op con, s'.caller ≠ .got op con)
      (hconnecting : ∀ op, s'.caller ≠ .connecting op) : Move s s' e
  | gets {e : Event} (op : Operation) (hholds : s.caller.holds = true) (hnc : s'.nc = s.nc)
      (hcaller : s'.caller = .got op s.nc.connection) : Move s s' e
  /-- It sends over the connection it got. -/
  | sends {e : Event} (op : Operation) (k : Nat) (hgot : s.caller = .got op (some k))
      (hnc : s'.nc = s.nc.update k fun c => { c with requests := c.requests + 1 })
      (hholds : s'.caller.holds = false) (hgot' : ∀ op con, s'.caller ≠ .got op con)
      (hconnecting : ∀ op, s'.caller ≠ .connecting op) : Move s s' e

theorem sendRequest_eq_some {op : Operation} {k : Nat} (h : s.sendRequest op k = some s') :
    s'.nc = s.nc.update k (fun c => { c with requests := c.requests + 1 }) ∧
      (s'.caller = .idle ∨ ∃ nth, s'.caller = .waiting op k nth) := by
  obtain ⟨c, -, hrest⟩ := Option.bind_eq_some_iff.1 h
  obtain rfl := Option.some_inj.1 hrest
  split
  · exact ⟨rfl, .inl rfl⟩
  · exact ⟨rfl, .inr ⟨_, rfl⟩⟩

/-- It returns, or waits. -/
theorem Move.of_eq (hcaller : s'.caller.holds = false) (hgot : ∀ op con, s'.caller ≠ .got op con)
    (hconnecting : ∀ op, s'.caller ≠ .connecting op)
    (hconns : s'.nc.connections = s.nc.connections) : Move s s' e :=
  .away hcaller hgot (fun op h => absurd h (hconnecting op)) (.of_eq hconns)

theorem move_next {ok : Bool} (h : s.next timeout ok = some s') : Move s s' (.next ok) := by
  unfold next at h
  cases hpc : s.caller with
  | idle | waiting =>
    rw [hpc] at h
    cases h
  | begun op =>
    rw [hpc] at h
    obtain rfl := Option.some_inj.1 h
    cases hactive : s.nc.isActive with
    | true => exact .found op hpc hactive rfl rfl
    | false => exact .away rfl (by simp) (fun _ _ => hactive) (.of_eq rfl)
  | resetting op | started op =>
    rw [hpc] at h
    obtain rfl := Option.some_inj.1 h
    exact .keeps (by rw [hpc]; rfl) (.of_eq rfl rfl) (by simp) (by simp)
  | connecting op =>
    rw [hpc] at h
    obtain rfl := Option.some_inj.1 h
    cases hactive : s.nc.isActive with
    | true => exact .foundAgain op hpc hactive (.of_eq rfl rfl) rfl
    | false => exact .of_eq rfl (by simp) (by simp) rfl
  | resolving op =>
    simp only [hpc] at h
    split at h
    · obtain rfl := Option.some_inj.1 h
      exact .created op rfl rfl
    · obtain rfl := Option.some_inj.1 h
      exact .of_eq rfl (by simp) (by simp) rfl
  | created op =>
    rw [hpc] at h
    obtain ⟨k, -, rfl⟩ := Option.map_eq_some_iff.1 h
    split
    · exact .keeps (by rw [hpc]; rfl) (.of_eq rfl rfl) (by simp) (by simp)
    · exact .of_eq rfl (by simp) (by simp) rfl
  | connected op =>
    rw [hpc] at h
    obtain ⟨nc, hnc, rfl⟩ := Option.map_eq_some_iff.1 h
    obtain ⟨k, -, rfl⟩ := Option.map_eq_some_iff.1 hnc
    exact .keeps (by rw [hpc]; rfl) (.of_eq rfl rfl) (by simp) (by simp)
  | ready op =>
    simp only [hpc] at h
    split at h
    · obtain rfl := Option.some_inj.1 h
      exact .of_eq rfl (by simp) (by simp) rfl
    · obtain rfl := Option.some_inj.1 h
      exact .gets op (by rw [hpc]; rfl) rfl rfl
  | got op con =>
    rw [hpc] at h
    obtain ⟨k, rfl, hsend⟩ := Option.bind_eq_some_iff.1 h
    obtain ⟨hnc, hcaller | ⟨nth, hcaller⟩⟩ := sendRequest_eq_some hsend
    · exact .sends op k hpc hnc (by rw [hcaller]; rfl) (by simp [hcaller]) (by simp [hcaller])
    · exact .sends op k hpc hnc (by rw [hcaller]; rfl) (by simp [hcaller]) (by simp [hcaller])
  | replied op =>
    rw [hpc] at h
    obtain rfl := Option.some_inj.1 h
    exact .of_eq rfl (by simp) (by simp) rfl

theorem step_ofCaller (he : e.ofOthers = false) (h : s.step timeout e = some s') : Move s s' e := by
  cases e with
  | call op =>
    obtain ⟨hidle, hrest⟩ : s.caller = .idle ∧
        (if op.mayBegin s.flags then { s with caller := .begun op } else s) = s' := by
      simpa [step, call] using h
    subst hrest
    split
    · exact .of_eq rfl (by simp) (by simp) rfl
    · exact .of_eq (by rw [hidle]; rfl) (by simp [hidle]) (by simp [hidle]) rfl
  | next ok => exact move_next h
  | receive r cookie =>
    replace h : s.receive r cookie = some s' := h
    unfold receive at h
    split at h
    · split at h
      · obtain rfl := Option.some_inj.1 h
        exact .of_eq rfl (by simp) (by simp) rfl
      · cases h
    · cases h
  | sendError =>
    replace h : s.sendError = some s' := h
    unfold sendError at h
    split at h
    · rename_i op k nth hpc
      obtain rfl := Option.some_inj.1 h
      have haged : s.nc.Aged (s.nc.update k (·.post .stop)) := .of_post rfl rfl
      exact .away rfl (by simp) (by simp) haged.sameRequests
    · cases h
  | stopConnections opened =>
    obtain ⟨hidle, hrest⟩ : s.caller = .idle ∧
        (if s.nc.isActive ∧ opened = false then { s with nc := s.nc.disconnect } else s) = s' := by
      simpa [step, stopConnections] using h
    subst hrest
    split
    · exact .of_eq (by rw [hidle]; rfl) (by simp [hidle]) (by simp [hidle]) rfl
    · exact .of_eq (by rw [hidle]; rfl) (by simp [hidle]) (by simp [hidle]) rfl
  | _ => cases he

end NodeThreads

end Sp2p.Sercli
