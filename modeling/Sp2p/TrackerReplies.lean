import Sp2p.Delivery
import Sp2p.MessageTrip
import Sp2p.NodeClient.Commands
import Sp2p.Tracker.ListedServers
import Sp2p.Tracker.Refinement

/-!
# A client of trackers

`address::from_string` throws for a text that is no address, and in `Node::getServersList` nothing
catches that. What it is given comes from a reply, there from the servers table, and there from
UPDATE_SERVER, which stores `address_.to_string()` of the connection. So what a tracker replies is always
read: `replies_readable` is about the tracker, whatever its threads do and however often it was stopped
and started, and `getServers_of_tracker` about a client of it: a null pointer can still end the program,
of a node that is gone or of a connection that is closed between the check and the query, and no address.
-/

namespace Sp2p

open Interleaving Runs Protocol Wire

namespace Tracker

/-- A request of a connection: its address is one, and the integers of a message that was parsed are
of their type. -/
structure Request.Genuine (isAddress : String → Bool) (r : Request) : Prop where
  address : isAddress r.env.address = true
  word : NoSpace r.env.address
  inRange : r.message.InRange

/-- The requests that the threads take up are such. -/
def ServesGenuine (isAddress : String → Bool) (events : List (PoolEvent Request)) : Prop :=
  ∀ i r, .serve i r ∈ events → r.Genuine isAddress

/-- What a process finds in the database: nothing, or what another left when it stopped, whatever its
threads were doing then. -/
inductive LeftInDatabase (isAddress : String → Bool) : Database → Prop
  | empty : LeftInDatabase isAddress Database.empty
  | stopped {db : Database} {n : Nat} {events : List (PoolEvent Request)}
    {pool : Pool shared State NodeMessage} (h : LeftInDatabase isAddress db)
    (hserve : ServesGenuine isAddress events)
    (hrun : run (Pool.step exec Request.handler) (Pool.start ⟨db, SessionControler.empty⟩ n) events =
      some pool) : LeftInDatabase isAddress pool.shared.db

/-- A thread of a tracker has the reply. -/
def FromTracker (isAddress : String → Bool) (reply : NodeMessage) : Prop :=
  ∃ db n events pool i, LeftInDatabase isAddress db ∧ ServesGenuine isAddress events ∧
    run (Pool.step exec Request.handler) (Pool.start ⟨db, SessionControler.empty⟩ n) events = some pool ∧
    pool.reply i = some reply

/-- A reply that can be written at all is parsed as it is, and `from_string` takes every address in it. -/
structure Readable (isAddress : String → Bool) (reply : NodeMessage) : Prop where
  parsed : ∀ (W : WireFormat) (tape : List Bool),
    ((NodeMessage.codec W tape).serialize reply).length < W.maxSize →
      (NodeMessage.codec W tape).parse ((NodeMessage.codec W tape).serialize reply) = some reply
  addresses : ∀ entries ∈ reply.listServersResponse, ∀ entry ∈ entries,
    ∃ ip, entry.ipAddress = some ip ∧ isAddress ip = true

variable {isAddress : String → Bool}

/-- A port of 32 bits, and the text of an address. -/
def Addressed (isAddress : String → Bool) (d : ServerData) : Prop :=
  IsInt32 d.port ∧ isAddress (toStdString d.ip.out) = true

/-- The text of an address that fits into its column comes back as it is. -/
theorem Request.Genuine.publishes {r : Request} (h : r.Genuine isAddress) :
    Publishes (Addressed isAddress) r.env r.message := by
  intro sub hsub addr ttl haddr
  refine ⟨isInt32_port h.inRange hsub, ?_⟩
  show isAddress (toStdString addr.out) = true
  rw [(toStdString_out_ofText haddr).2 h.word]
  exact h.address

theorem Request.Genuine.meets {r : Request} (h : r.Genuine isAddress) :
    r.handler.Meets (StoresServer (Addressed isAddress)) (AnswersServers (Addressed isAddress))
      fun reply => ListsServers (Addressed isAddress) reply ∧ reply.isInitialized = true :=
  meets_and_returns (keepsServers_handleRequest h.publishes) (complete_handleRequest r.env r.message)

/-- What a run of one process keeps, and what its threads reply. -/
theorem lists_run {s : State} (hs : ServersAre (Addressed isAddress) s) {n : Nat}
    {events : List (PoolEvent Request)} (hserve : ServesGenuine isAddress events)
    {pool : Pool shared State NodeMessage}
    (hrun : run (Pool.step exec Request.handler) (Pool.start s n) events = some pool) :
    ServersAre (Addressed isAddress) pool.shared ∧ ∀ i reply, pool.reply i = some reply →
      ListsServers (Addressed isAddress) reply ∧ reply.isInitialized = true :=
  Pool.meets_run servers_exec hs (fun i r hr => (hserve i r hr).meets) hrun

theorem LeftInDatabase.serversAre {db : Database} (h : LeftInDatabase isAddress db)
    (sessions : SessionControler) : ServersAre (Addressed isAddress) ⟨db, sessions⟩ := by
  induction h with
  | empty => exact nofun
  | stopped _ hserve hrun ih => exact (lists_run (s := ⟨_, SessionControler.empty⟩) ih hserve hrun).1

theorem FromTracker.lists {reply : NodeMessage} (h : FromTracker isAddress reply) :
    ListsServers (Addressed isAddress) reply ∧ reply.isInitialized = true := by
  obtain ⟨db, n, events, pool, i, hdb, hserve, hrun, hreply⟩ := h
  exact (lists_run (hdb.serversAre _) hserve hrun).2 i reply hreply

/-- **Every reply of a tracker is read by its client.** -/
theorem replies_readable (isAddress : String → Bool) {reply : NodeMessage}
    (h : FromTracker isAddress reply) : Readable isAddress reply where
  parsed W tape hsize := by
    obtain ⟨hlists, hinit⟩ := h.lists
    exact NodeMessage.parse_serialize W hinit (inRange_of_listsServers (fun _ hd => hd.1) hlists) hsize
  addresses entries hentries entry hentry := by
    obtain ⟨d, hd, hip, -⟩ := h.lists.1.servers entries hentries entry hentry
    exact ⟨_, hip, hd.2⟩

/-! ### A server is registered and listed -/

/-- What `from_string` takes, of the texts that occur here. -/
def isLocal (text : String) : Bool := text = "10.0.0.1" ∨ text = "127.0.0.1"

def updateServer8080 : Request where
  env := Env.sample
  message :=
    { request := some .updateServer
      updateServerMessage := some ⟨some "c00kie", some "net", some 8080⟩ }
  initialized := rfl

def listServersOfNet : Request where
  env := Env.sample
  message := { request := some .listServers, listServersMessage := some ⟨some "c00kie", some "net"⟩ }
  initialized := rfl

/-- Bob registers, logs in, makes a network and a server in it, and has its servers listed. -/
def serverOfBob : List (PoolEvent Request) :=
  [.serve 0 (.register Env.sample "bob" "secret" "request"), .step 0, .step 0,
    .serve 0 (.login Env.sample "bob" "secret"), .step 0, .step 0, .step 0,
    .serve 0 (.createUnlisted Env.sample "c00kie" "net"), .step 0, .step 0, .step 0, .step 0,
    .serve 0 updateServer8080, .step 0, .step 0, .step 0, .step 0, .step 0,
    .serve 0 listServersOfNet, .step 0, .step 0, .step 0, .step 0]

def listedBob : NodeMessage where
  responseType := some .ok
  listServersResponse := some [⟨some "net", some "10.0.0.1", some 8080⟩]

theorem fromTracker_listedBob : FromTracker isLocal listedBob := by
  have hreply : (run (Pool.step exec Request.handler) (Pool.start ⟨Database.empty, SessionControler.empty⟩ 1)
      serverOfBob).bind (·.reply 0) = some listedBob := by
    decide +kernel
  obtain ⟨pool, hrun, hreply⟩ := Option.bind_eq_some_iff.1 hreply
  refine ⟨Database.empty, 1, serverOfBob, pool, 0, .empty, fun i r hr => ?_, hrun, hreply⟩
  have hgenuine : ∀ r : Request, r.env = Env.sample →
      (∀ u ∈ r.message.updateServerMessage, u.portNumber = some 8080) → r.Genuine isLocal := by
    intro r henv hport
    refine ⟨by rw [henv]; decide, by rw [henv]; decide, fun u hu port hp => ?_⟩
    obtain rfl := Option.some_inj.1 ((hport u hu).symm.trans hp)
    decide
  simp only [serverOfBob, List.mem_cons, PoolEvent.serve.injEq, reduceCtorEq, List.not_mem_nil, or_false,
    false_or] at hr
  rcases hr with ⟨-, rfl⟩ | ⟨-, rfl⟩ | ⟨-, rfl⟩ | ⟨-, rfl⟩ | ⟨-, rfl⟩
  · exact hgenuine _ rfl nofun
  · exact hgenuine _ rfl nofun
  · exact hgenuine _ rfl nofun
  · exact hgenuine _ rfl (by rintro u ⟨⟩; rfl)
  · exact hgenuine _ rfl nofun

theorem replies_readable_listedBob : Readable isLocal listedBob :=
  replies_readable isLocal fromTracker_listedBob

end Tracker

/-! ### The client -/

namespace Sercli

open Tracker

variable {isAddress : String → Bool}

theorem not_malformed {x : Exchange}
    (hx : ∀ reply ∈ x.response, ListsServers (Addressed isAddress) reply) : ¬ x.Malformed isAddress := by
  rintro ⟨reply, hreply, -, server, hserver, hbad⟩
  cases hlist : reply.listServersResponse with
  | none =>
    rw [hlist] at hserver
    cases hserver
  | some entries =>
    rw [hlist] at hserver
    obtain ⟨d, ⟨-, haddress⟩, hip, -⟩ := (hx reply hreply).servers entries hlist server hserver
    rw [hip, Option.getD_some, haddress] at hbad
    cases hbad

theorem mem_reply_of_response {x : Exchange} {reply : NodeMessage} (h : reply ∈ x.response) :
    reply ∈ x.reply := by
  unfold Exchange.response at h
  split at h
  · exact h
  · cases h

/-- Where every reply is read the loop is only ended by a null pointer. -/
theorem Network.getAvailableServers_error_iff {lock : NodePtr → Option NodePtr}
    {exchange : NodeDescription → Exchange} {network : Network} {nodes : NodePtr → NodeState}
    (hx : ∀ desc, ∀ reply ∈ (exchange desc).reply, ListsServers (Addressed isAddress) reply) :
    (∃ e, network.getAvailableServers lock isAddress exchange nodes = .error e) ↔
      (∃ it ∈ network.nodeSet.toList, lock it.2 = none) ∨
        ∃ before it node, Asked lock exchange nodes network.nodeSet.toList before it node ∧
          (exchange it.1).Severed := by
  unfold getAvailableServers
  rw [foldlM_query_error_iff]
  simp only [not_malformed fun reply hreply => hx _ reply (mem_reply_of_response hreply), or_false]

end Sercli

namespace NodeClient

open Std Sercli Tracker

variable {κ ξ σ : Type} (lib : Libraries κ ξ σ) (world : Nat → Surroundings κ σ) (d : Dispatch)
  (s : Client κ ξ)

theorem checkNode_eq_other {w : Client κ ξ → Working} {act : NodePtr → Action κ ξ} :
    (checkNode w act s).1 = some .other ↔ ∃ p, (w s).node = some p ∧ (act p s).1 = some .other := by
  simp only [checkNode, attempt]
  cases (w s).node with
  | none => simp
  | some p => simp

theorem checkNetwork_eq_other {w : Client κ ξ → Working} {act : NetworkPtr → Action κ ξ} :
    (checkNetwork w act s).1 = some .other ↔ ∃ q, (w s).network = some q ∧ (act q s).1 = some .other := by
  simp only [checkNetwork, attempt]
  cases (w s).network with
  | none => simp
  | some q => simp

/-- `getSL` ends the program when the query of its node does. -/
theorem getSL_eq_other : (NodeContext.getSL lib world d s).1 = some .other ↔
    ∃ p, s.nodeC.node = some p ∧ ∃ q, s.nodeC.network = some q ∧
      ∃ e, invokeServersList (s.nodes p) (isAddress lib) (s.networks q).networkDesc
        ((world d.line).exchange p) = .error e := by
  unfold NodeContext.getSL
  rw [checkNode_eq_other]
  refine exists_congr fun p => and_congr_right fun _ => ?_
  rw [checkNetwork_eq_other]
  refine exists_congr fun q => and_congr_right fun _ => ?_
  split
  · rename_i n hquery
    rw [hquery]
    exact ⟨nofun, nofun⟩
  · rename_i e hquery
    exact ⟨fun _ => ⟨e, hquery⟩, fun _ => rfl⟩

theorem invokeServersList_error_iff {n : NodeMembers κ ξ} {isAddress : String → Bool}
    {networkDesc : NetworkDescription} {x : Sercli.Exchange} :
    (∃ e, invokeServersList n isAddress networkDesc x = .error e) ↔
      n.isLogged = true ∧ ((exchangeOf n x).Severed ∨ (exchangeOf n x).Malformed isAddress) := by
  rw [← @getServersList_error_iff isAddress networkDesc n.toNodeState (exchangeOf n x)]
  unfold invokeServersList
  cases n.toNodeState.getServersList isAddress networkDesc (exchangeOf n x) with
  | error e => exact iff_of_true ⟨e, rfl⟩ ⟨e, rfl⟩
  | ok r => exact iff_of_false nofun nofun

/-- And `getSl` when one of the network's nodes does. -/
theorem getSl_eq_other : (NetworkContext.getSl lib world d s).1 = some .other ↔
    ∃ q, s.networkC.network = some q ∧ ∃ e, (s.networks q).getAvailableServers s.manager.lock
      (isAddress lib) (NetworkContext.exchanges world d s (s.networks q))
        (fun p => (s.nodes p).toNodeState) = .error e := by
  unfold NetworkContext.getSl
  rw [checkNetwork_eq_other]
  refine exists_congr fun q => and_congr_right fun _ => ?_
  split
  · rename_i e hquery
    exact ⟨fun _ => ⟨e, hquery⟩, fun _ => rfl⟩
  · rename_i found hquery
    rw [hquery]
    exact ⟨nofun, nofun⟩

/-- A network lists a node that is gone. -/
def ListsGone (s : Client κ ξ) (q : NetworkPtr) : Prop :=
  ∃ it ∈ (s.networks q).nodeSet.toList, s.manager.lock it.2 = none

instance (s : Client κ ξ) (q : NetworkPtr) : Decidable (ListsGone s q) :=
  inferInstanceAs (Decidable (∃ it ∈ (s.networks q).nodeSet.toList, s.manager.lock it.2 = none))

/-- The node is logged in, and its connection is closed before the query fetches it. -/
def SeversQuery (s : Client κ ξ) (p : NodePtr) : Prop :=
  (s.nodes p).isLogged = true ∧ (exchangeOf (s.nodes p) ((world d.line).exchange p)).Severed

/-- In the course of a discovery that happens to a node. -/
def SeversDiscovery (s : Client κ ξ) (q : NetworkPtr) : Prop :=
  ∃ before it node, Network.Asked s.manager.lock (NetworkContext.exchanges world d s (s.networks q))
    (fun p => (s.nodes p).toNodeState) (s.networks q).nodeSet.toList before it node ∧
      (NetworkContext.exchanges world d s (s.networks q) it.1).Severed

/-- **A client of trackers.** The query of one node ends the program exactly when its connection is
severed, and the query of a network's nodes when one of them is gone or is severed: no address does. -/
theorem getServers_of_tracker
    (hx : ∀ p, ∀ reply ∈ ((world d.line).exchange p).reply, FromTracker (isAddress lib) reply) :
    ((NodeContext.getSL lib world d s).1 = some .other ↔
        ∃ p, s.nodeC.node = some p ∧ ∃ q, s.nodeC.network = some q ∧ SeversQuery world d s p) ∧
      ((NetworkContext.getSl lib world d s).1 = some .other ↔
        ∃ q, s.networkC.network = some q ∧ (ListsGone s q ∨ SeversDiscovery world d s q)) := by
  constructor
  · rw [getSL_eq_other]
    refine exists_congr fun p => and_congr_right fun _ => exists_congr fun q => and_congr_right fun _ => ?_
    have hread : ¬ (exchangeOf (s.nodes p) ((world d.line).exchange p)).Malformed (isAddress lib) := by
      refine not_malformed fun reply hreply => (hx p reply ?_).lists.1
      exact mem_reply_of_response (x := exchangeOf (s.nodes p) ((world d.line).exchange p)) hreply
    rw [invokeServersList_error_iff, or_iff_left hread]
    rfl
  · rw [getSl_eq_other]
    refine exists_congr fun q => and_congr_right fun _ => Network.getAvailableServers_error_iff ?_
    intro desc reply hreply
    unfold NetworkContext.exchanges at hreply
    split at hreply
    · exact (hx _ reply hreply).lists.1
    · cases hreply

/-- The libraries with a `from_string` that throws. -/
def localLibraries : Libraries Unit Unit (List Item) where
  parseCommandLine := parseShort
  fromString text := if isLocal text then some text else none
  readCertificate _ := none
  certRequest _ _ := ""
  source := ManagerObjects.itemSource
  opened := false

theorem isAddress_localLibraries : isAddress localLibraries = isLocal := by
  funext text
  show (if isLocal text = true then some text else none).isSome = isLocal text
  split
  · rename_i h
    exact h.symm
  · rename_i h
    exact (Bool.eq_false_of_not_eq_true h).symm

/-- Up to the line `10` a node gets a cookie, then the tracker answers with Bob's server, and from the
line `20` on the connections are closed too early. -/
def listingBob (line : Nat) : Surroundings Unit (List Item) where
  key := ()
  exchange _ :=
    { connected := true
      reply := some (if line < 10 then givesCookie else listedBob)
      closed := 20 ≤ line }

/-- A network lists a node that is logged in. -/
def listsNode1 : List String :=
  ["cnd -n node1 -i 127.0.0.1 -P 10", "gnd -n node1", "cd Node", "login", "pr",
    "cnt -n net1 -p chess -A PUBLIC -V LISTED -P CLIENT_ONLY", "gnt -n net1", "cd Network", "addNd"]

/-- Then another node is picked, and the first is removed. -/
def removesNode1 : List String :=
  ["pr", "cnd -n node2 -i 127.0.0.1 -P 10", "gnd -n node2", "rnd -n node1"]

def getServersAt (line : Nat) : Dispatch := ⟨line, [], 1, newClient.arguments⟩

/-- Both queries go well, until the connection is severed, and that of the network until the node is
gone. -/
theorem getServers_of_tracker_removed :
    ∃ s s', run (ProgramLoop.step (dispatcher localLibraries listingBob)) newClient listsNode1 = some s ∧
      run (ProgramLoop.step (dispatcher localLibraries listingBob)) s removesNode1 = some s' ∧
      (NodeContext.getSL localLibraries listingBob (getServersAt 10) s.context).1 ≠ some .other ∧
      (NodeContext.getSL localLibraries listingBob (getServersAt 20) s.context).1 = some .other ∧
      (NetworkContext.getSl localLibraries listingBob (getServersAt 10) s.context).1 ≠ some .other ∧
      (NetworkContext.getSl localLibraries listingBob (getServersAt 10) s'.context).1 = some .other := by
  have hsome : ((run (ProgramLoop.step (dispatcher localLibraries listingBob)) newClient listsNode1).bind
      fun s => (run (ProgramLoop.step (dispatcher localLibraries listingBob)) s removesNode1).map
        fun s' => decide (s.context.nodeC.node = some 0 ∧ s.context.nodeC.network = some 0 ∧
          s.context.networkC.network = some 0 ∧ (s.context.nodes 0).isLogged = true ∧
          ¬ ListsGone s.context 0 ∧ s'.context.networkC.network = some 0 ∧ ListsGone s'.context 0)) =
            some true := by
    decide +kernel
  obtain ⟨s, hrun, hsome⟩ := Option.bind_eq_some_iff.1 hsome
  obtain ⟨s', hrun', heq⟩ := Option.map_eq_some_iff.1 hsome
  obtain ⟨hp, hq, hq₁, hlogged, hlive, hq₂, hgone⟩ := of_decide_eq_true heq
  have hx : ∀ line, 10 ≤ line → ∀ p, ∀ reply ∈ ((listingBob line).exchange p).reply,
      FromTracker (isAddress localLibraries) reply := by
    rintro line hline p reply hreply
    obtain rfl := Option.some_inj.1 hreply
    rw [if_neg (by omega), isAddress_localLibraries]
    exact fromTracker_listedBob
  have hopen : ∀ p, ¬ (exchangeOf (s.context.nodes p) ((listingBob 10).exchange p)).Severed := nofun
  have hearly := getServers_of_tracker localLibraries listingBob (getServersAt 10) s.context (hx 10 le_rfl)
  have hlate := getServers_of_tracker localLibraries listingBob (getServersAt 20) s.context
    (hx 20 (by omega))
  have hafter := getServers_of_tracker localLibraries listingBob (getServersAt 10) s'.context
    (hx 10 le_rfl)
  refine ⟨s, s', hrun, hrun', fun hother => ?_, hlate.1.2 ⟨0, hp, 0, hq, hlogged, ?_, rfl⟩,
    fun hother => ?_, hafter.2.2 ⟨0, hq₂, .inl hgone⟩⟩
  · obtain ⟨p, -, q, -, -, hsevered⟩ := hearly.1.1 hother
    exact hopen p hsevered
  · exact Bool.or_true _
  · obtain ⟨q, hq', hlists | ⟨before, it, node, -, hsevered⟩⟩ := hearly.2.1 hother
    · obtain rfl := Option.some_inj.1 (hq₁.symm.trans hq')
      exact hlive hlists
    · unfold NetworkContext.exchanges at hsevered
      split at hsevered
      · exact hopen _ hsevered
      · exact absurd hsevered.1 nofun

end NodeClient

end Sp2p
