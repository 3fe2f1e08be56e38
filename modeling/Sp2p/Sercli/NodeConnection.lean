import Sp2p.Lib.DeadlineTimer

/-!
# The connection to a node and its deadline timer

`NodeConnection` points at one `Connection` at a time. A connection that was made inactive is not
made active again; what stops it is posted to its own strand. The deadline timer is to close an idle
connection: `connect` starts it, `resetDeadlineTimer` and `stopDeadlineTimer` post to the strand of
the `NodeConnection`.

Nothing of what the `io_service` does by itself changes the pointer, makes a connection active or
sends anything (`Aged`).
-/

namespace Sp2p.Sercli

/-- What is posted to the strand of a `Connection` to end it. -/
inductive Ending
  | stop | gracefulStop
  deriving DecidableEq

/-- A `Connection` object. `requests` counts the requests that were sent over it, and `answered` says
that the tracker has answered and shut the socket down. -/
structure Connection where
  isOpen : Bool := true
  isActive : Bool := true
  posted : List Ending := []
  requests : Nat := 0
  answered : Bool := false
  deriving DecidableEq

namespace Connection

def post (c : Connection) (e : Ending) : Connection := { c with posted := c.posted ++ [e] }

/-- The posted lambdas of `stop` and `gracefulStop`: `close` and `shutdown` of the socket. -/
def runEnding (c : Connection) : Ending → Connection
  | .stop => if c.isOpen then { c with isOpen := false, isActive := false } else c
  | .gracefulStop => if c.isOpen then { c with isActive := false } else c

/-- The strand runs what is first. -/
def runPosted (c : Connection) : Option Connection :=
  match c.posted with
  | [] => none
  | e :: posted => some ({ c with posted }.runEnding e)

variable {c c' : Connection}

theorem requests_runEnding (e : Ending) : (c.runEnding e).requests = c.requests := by
  cases e <;> simp only [runEnding] <;> split <;> rfl

theorem isActive_of_runEnding {e : Ending} (h : (c.runEnding e).isActive = true) :
    c.isActive = true := by
  cases e <;> simp only [runEnding] at h <;> split at h <;> simp_all

theorem runPosted_eq_some (h : c.runPosted = some c') :
    ∃ e posted, c.posted = e :: posted ∧ c' = { c with posted }.runEnding e := by
  unfold runPosted at h
  split at h
  · cases h
  · rename_i e posted hposted
    exact ⟨e, posted, hposted, (Option.some_inj.1 h).symm⟩

end Connection

/-- What is posted to the strand of a `NodeConnection`. -/
inductive Posted
  | reset (seconds : Nat)
  | cancel
  /-- `connection_manager.stop(connection)`, which reads the pointer when it runs. -/
  | stop
  deriving DecidableEq

def Posted.isReset : Posted → Bool
  | .reset _ => true
  | _ => false

/-- `connections` are the objects that were made and `connection` points to one of them; `managed` are
those that the `ConnectionManager` has. The timer may count any unit of time, in which all durations
are given. `touched` is the time of the latest call of `connect` or `resetDeadlineTimer`. -/
structure NodeConnection where
  connections : List Connection := []
  connection : Option Nat := none
  managed : List Nat := []
  timer : DeadlineTimer := {}
  strand : List Posted := []
  touched : Nat := 0
  deriving DecidableEq

namespace NodeConnection

variable {nc nc' : NodeConnection}

def isActive (nc : NodeConnection) : Bool :=
  match nc.connection with
  | none => false
  | some k => nc.connections[k]?.any (·.isActive)

def getConnection (nc : NodeConnection) : Option Nat := nc.connection

def update (nc : NodeConnection) (k : Nat) (f : Connection → Connection) : NodeConnection :=
  { nc with connections := nc.connections.modify k f }

def post (nc : NodeConnection) (p : Posted) : NodeConnection :=
  { nc with strand := nc.strand ++ [p] }

/-! ### `connect`, in its steps -/

/-- `connection.reset(new Connection)`. -/
def create (nc : NodeConnection) : NodeConnection :=
  { nc with
    connections := nc.connections ++ [{}]
    connection := some nc.connections.length }

def resetPointer (nc : NodeConnection) : NodeConnection := { nc with connection := none }

/-- `connection_manager.start(connection)`; `none` is the null pointer. -/
def start (nc : NodeConnection) : Option NodeConnection :=
  nc.connection.map fun k => { nc with managed := nc.managed ++ [k] }

/-- `expires_from_now` and `async_wait`. -/
def startTimer (nc : NodeConnection) (seconds : Nat) : NodeConnection :=
  { nc with timer := nc.timer.restart seconds }

def touch (nc : NodeConnection) : NodeConnection := { nc with touched := nc.timer.now }

/-- How an attempt to connect ends. -/
inductive Attempt
  | unresolved | refused | connected
  deriving DecidableEq

/-- `connect` as one step. It throws `NO_CONNECTION` unless the attempt succeeds. -/
def connect (timeout : Nat) (attempt : Attempt) (nc : NodeConnection) : Option NodeConnection :=
  if nc.isActive then some nc.touch
  else
    match attempt with
    | .unresolved => some nc.touch
    | .refused => some nc.touch.create.resetPointer
    | .connected => nc.touch.create.start.map (·.startTimer timeout)

/-! ### The other calls -/

def resetDeadlineTimer (nc : NodeConnection) (seconds : Nat) : NodeConnection :=
  nc.touch.post (.reset seconds)

def stopDeadlineTimer (nc : NodeConnection) : NodeConnection := nc.post .cancel

/-- `connection_manager.gracefulStop(connection)`; `none` is the null pointer. -/
def gracefulStop (nc : NodeConnection) : Option NodeConnection :=
  nc.connection.map fun k =>
    { nc.update k (·.post .gracefulStop) with managed := nc.managed.filter (· ≠ k) }

/-- `closeConnection` as one step. -/
def closeConnection (nc : NodeConnection) : Option NodeConnection :=
  if nc.isActive then nc.gracefulStop.map (·.stopDeadlineTimer.resetPointer) else some nc

/-- `disconnect` as one step, past the log. -/
def disconnect (nc : NodeConnection) : NodeConnection :=
  (nc.post .stop).resetPointer.stopDeadlineTimer

/-- A lambda that was posted to the strand; `none` is the null pointer. -/
def runPosted (nc : NodeConnection) : Posted → Option NodeConnection
  | .reset seconds => some (nc.startTimer seconds)
  | .cancel => some { nc with timer := nc.timer.cancel }
  | .stop => nc.connection.map fun k =>
      { nc.update k (·.post .stop) with managed := nc.managed.filter (· ≠ k) }

/-- The strand runs what is first. -/
def runStrand (nc : NodeConnection) : Option NodeConnection :=
  match nc.strand with
  | [] => none
  | p :: strand => { nc with strand }.runPosted p

/-- The strand of a connection runs what is first. -/
def runConnection (nc : NodeConnection) (k : Nat) : Option NodeConnection := do
  let c ← nc.connections[k]?
  let c' ← c.runPosted
  return { nc with connections := nc.connections.set k c' }

/-- What the `io_service` does in its own time. -/
inductive Io
  | runStrand
  | runConnection (k : Nat)
  /-- `stop` is called on a connection, by a handler of errors or by `stopAll`. -/
  | stop (k : Nat)
  | tick
  | expire

def io (nc : NodeConnection) : Io → Option NodeConnection
  | .runStrand => nc.runStrand
  | .runConnection k => nc.runConnection k
  | .stop k => some (nc.update k (·.post .stop))
  | .tick => some { nc with timer := nc.timer.tick }
  | .expire => nc.timer.expire.map fun timer => { nc with timer }

/-! ### What steps do -/

/-- What `closeConnection` does. -/
theorem closeConnection_eq_some (h : nc.closeConnection = some nc') :
    nc.isActive = false ∧ nc' = nc ∨
      nc.isActive = true ∧ ∃ k, nc.connection = some k ∧
        nc' = { nc.update k (·.post .gracefulStop) with
          connection := none
          managed := nc.managed.filter (· ≠ k)
          strand := nc.strand ++ [.cancel] } := by
  unfold closeConnection at h
  split at h
  · rename_i hactive
    obtain ⟨nc₁, hstop, rfl⟩ := Option.map_eq_some_iff.1 h
    obtain ⟨k, hk, rfl⟩ := Option.map_eq_some_iff.1 hstop
    exact .inr ⟨hactive, k, hk, rfl⟩
  · rename_i hactive
    exact .inl ⟨by simpa using hactive, (Option.some_inj.1 h).symm⟩

/-- What `connect` does when no connection is active. -/
theorem connect_eq_some {timeout : Nat} {attempt : Attempt} (hactive : nc.isActive = false)
    (h : nc.connect timeout attempt = some nc') :
    nc' = nc.touch ∨ nc' = nc.touch.create.resetPointer ∨
      nc' = { nc.touch.create with managed := nc.managed ++ [nc.connections.length] }.startTimer
        timeout := by
  unfold connect at h
  rw [if_neg (by simp [hactive])] at h
  cases attempt with
  | unresolved => exact .inl (Option.some_inj.1 h).symm
  | refused => exact .inr (.inl (Option.some_inj.1 h).symm)
  | connected => exact .inr (.inr (Option.some_inj.1 h).symm)

theorem getElem?_create {k : Nat} {c : Connection} (h : nc.create.connections[k]? = some c) :
    nc.connections[k]? = some c ∨ k = nc.connections.length ∧ c = {} := by
  rw [create, List.getElem?_append] at h
  split at h
  · exact .inl h
  · obtain ⟨hk, rfl⟩ : k - nc.connections.length = 0 ∧ ({} : Connection) = c := by
      simpa [List.getElem?_singleton] using h
    exact .inr ⟨by omega, rfl⟩

/-- What the strand does. -/
theorem runStrand_eq_some (h : nc.runStrand = some nc') :
    ∃ p strand, nc.strand = p :: strand ∧ { nc with strand }.runPosted p = some nc' := by
  unfold runStrand at h
  split at h
  · cases h
  · rename_i p strand hstrand
    exact ⟨p, strand, hstrand, h⟩

/-- Whatever runs, the rest of the strand stays, and at most the connection at hand is stopped. -/
theorem runStrand_effect (h : nc.runStrand = some nc') :
    nc'.strand = nc.strand.tail ∧ nc'.connection = nc.connection ∧
      (nc'.connections = nc.connections ∧ nc'.managed = nc.managed ∨
        ∃ k, nc'.connections = nc.connections.modify k (·.post .stop) ∧
          nc'.managed = nc.managed.filter (· ≠ k)) := by
  obtain ⟨p, strand, hstrand, hrun⟩ := runStrand_eq_some h
  rw [hstrand]
  cases p with
  | reset seconds =>
    obtain rfl := Option.some_inj.1 hrun
    exact ⟨rfl, rfl, .inl ⟨rfl, rfl⟩⟩
  | cancel =>
    obtain rfl := Option.some_inj.1 hrun
    exact ⟨rfl, rfl, .inl ⟨rfl, rfl⟩⟩
  | stop =>
    obtain ⟨k, -, rfl⟩ := Option.map_eq_some_iff.1 hrun
    exact ⟨rfl, rfl, .inr ⟨k, rfl, rfl⟩⟩

/-- What the strand of a connection does. -/
theorem runConnection_eq_some {k : Nat} (h : nc.runConnection k = some nc') :
    ∃ c c', nc.connections[k]? = some c ∧ c.runPosted = some c' ∧
      nc' = { nc with connections := nc.connections.set k c' } := by
  obtain ⟨c, hc, hrest⟩ := Option.bind_eq_some_iff.1 h
  obtain ⟨c', hc', heq⟩ := Option.bind_eq_some_iff.1 hrest
  exact ⟨c, c', hc, hc', (Option.some_inj.1 heq).symm⟩

/-! ### Connections get older -/

/-- The pointer is the same, every connection carried what it carried before, and none became
active. -/
structure Aged (nc nc' : NodeConnection) : Prop where
  connection : nc'.connection = nc.connection
  old : ∀ (k : Nat) (c' : Connection), nc'.connections[k]? = some c' →
    ∃ c, nc.connections[k]? = some c ∧ c'.requests = c.requests ∧
      (c'.isActive = true → c.isActive = true)

theorem isActive_eq_true : nc.isActive = true ↔
    ∃ k c, nc.connection = some k ∧ nc.connections[k]? = some c ∧ c.isActive = true := by
  unfold isActive
  cases nc.connection with
  | none => simp
  | some k => cases h : nc.connections[k]? <;> simp [h]

/-- Every connection carried what it carried before. -/
def SameRequests (nc nc' : NodeConnection) : Prop :=
  ∀ (k : Nat) (c' : Connection), nc'.connections[k]? = some c' →
    ∃ c, nc.connections[k]? = some c ∧ c'.requests = c.requests

theorem SameRequests.of_eq (h : nc'.connections = nc.connections) : nc.SameRequests nc' :=
  fun _ c' hc' => ⟨c', h ▸ hc', rfl⟩

namespace Aged

theorem sameRequests (h : nc.Aged nc') : nc.SameRequests nc' := by
  intro k c' hc'
  obtain ⟨c, hc, hrequests, -⟩ := h.old k c' hc'
  exact ⟨c, hc, hrequests⟩

theorem of_eq (hptr : nc'.connection = nc.connection)
    (hconns : nc'.connections = nc.connections) : nc.Aged nc' where
  connection := hptr
  old _ c' hc' := ⟨c', hconns ▸ hc', rfl, id⟩

theorem isActive (h : nc.Aged nc') (hactive : nc'.isActive = true) : nc.isActive = true := by
  obtain ⟨k, c', hk, hc', hactive'⟩ := isActive_eq_true.1 hactive
  obtain ⟨c, hc, -, hold⟩ := h.old k c' hc'
  exact isActive_eq_true.2 ⟨k, c, h.connection ▸ hk, hc, hold hactive'⟩

theorem of_update {k : Nat} {f : Connection → Connection} (hptr : nc'.connection = nc.connection)
    (hconns : nc'.connections = nc.connections.modify k f)
    (hf : ∀ c, (f c).requests = c.requests ∧ ((f c).isActive = true → c.isActive = true)) :
    nc.Aged nc' where
  connection := hptr
  old j c' hc' := by
    rw [hconns, List.getElem?_modify] at hc'
    obtain ⟨c, hc, rfl⟩ := Option.map_eq_some_iff.1 hc'
    refine ⟨c, hc, ?_⟩
    split
    · exact hf c
    · exact ⟨rfl, id⟩

/-- What is posted to a connection has not run. -/
theorem of_post {k : Nat} {e : Ending} (hptr : nc'.connection = nc.connection)
    (hposted : nc'.connections = nc.connections.modify k (·.post e)) : nc.Aged nc' :=
  of_update hptr hposted fun _ => ⟨rfl, id⟩

theorem of_runConnection {k : Nat} (h : nc.runConnection k = some nc') : nc.Aged nc' := by
  obtain ⟨c, c', hc, hrun, rfl⟩ := runConnection_eq_some h
  obtain ⟨e, posted, -, rfl⟩ := Connection.runPosted_eq_some hrun
  refine ⟨rfl, fun j d hd => ?_⟩
  by_cases hj : k = j
  · subst hj
    obtain ⟨-, rfl⟩ : k < nc.connections.length ∧ Connection.runEnding _ e = d := by
      simpa [List.getElem?_set] using hd
    exact ⟨c, hc, Connection.requests_runEnding e, fun h =>
      Connection.isActive_of_runEnding (c := { c with posted }) h⟩
  · rw [List.getElem?_set_ne hj] at hd
    exact ⟨d, hd, rfl, id⟩

theorem of_runStrand (h : nc.runStrand = some nc') : nc.Aged nc' := by
  obtain ⟨-, hptr, ⟨hconns, -⟩ | ⟨k, hconns, -⟩⟩ := runStrand_effect h
  · exact of_eq hptr hconns
  · exact of_post hptr hconns

theorem of_io {e : Io} (h : nc.io e = some nc') : nc.Aged nc' := by
  cases e with
  | runStrand => exact of_runStrand h
  | runConnection k => exact of_runConnection h
  | stop k =>
    obtain rfl := Option.some_inj.1 h
    exact of_post rfl rfl
  | tick =>
    obtain rfl := Option.some_inj.1 h
    exact of_eq rfl rfl
  | expire =>
    obtain ⟨timer, -, rfl⟩ := Option.map_eq_some_iff.1 h
    exact of_eq rfl rfl

end Aged

end NodeConnection

end Sp2p.Sercli
