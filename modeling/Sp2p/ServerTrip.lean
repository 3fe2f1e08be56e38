import Sp2p.Tracker.Lease
import Sp2p.Sercli.MessageFactory

/-!
# From a server's registration to the client's list

What UPDATE_SERVER stored, LIST_SERVERS lists and `Node::getServersList` makes of it. The entry of a
user carries the network's name where the user's should be, and the client keeps no port, so nobody's
server comes through: `servers_roundTrip_iff`, which also says when at least the reply is right.
-/

namespace Sp2p

open Protocol Tracker Sercli NodeMessageFactory

/-- The reply has one entry of the user, with the address and the port. -/
def InReply (reply : NodeMessage) (reg : Registration) : Prop :=
  (reply.listServersResponse.getD []).filter (·.username = some reg.user) =
    [⟨some reg.user, some reg.ip, some reg.port⟩]

/-- The client's list has one server of the user, and it is of that network, address and port. -/
def AtClient (servers : List ServerDescription) (networkDesc : NetworkDescription)
    (reg : Registration) : Prop :=
  ∃ server, servers.filter (·.relatedUser = reg.user) = [server] ∧
    server.relatedNetwork = networkDesc.networkName ∧ server.ipAddres = reg.ip ∧
    server.portNumber = some reg.port

/-- The user is called like the network, has its only server, and the address has no white space in
it. -/
structure OnlyNamesake (t : Tables) (networkDesc : NetworkDescription) (nid : Nat)
    (reg : Registration) : Prop where
  name : reg.user = networkDesc.networkName
  address : NoSpace reg.ip
  alone : t.servers.rows.countP (·.networkId = nid) = 1

variable {s : State} {env : Env} {networkDesc : NetworkDescription} {cookie : String} {nid : Nat}

/-- The entry that a row of the network gets in the reply. -/
def rowEntry (networkDesc : NetworkDescription) (row : LinkRow ServerData) : NodeMessage.Server where
  username := some networkDesc.networkName
  ipAddress := some (toStdString row.data.ip.out)
  portNumber := some row.data.port

/-- What the client is told about a network. -/
theorem reply_listServers (hnid : s.db.tables.networkId? networkDesc.networkName = some nid)
    (hok : (handle env (getListServersMessage networkDesc cookie) s).1.isOk) :
    (handle env (getListServersMessage networkDesc cookie) s).1.listServersResponse.getD [] =
      if env.fault 2 then []
      else (s.db.tables.servers.rows.filter (·.networkId = nid)).map (rowEntry networkDesc) := by
  obtain ⟨_, network, hsub, hreply⟩ := handle_listServers_ok rfl hok
  obtain rfl : networkDesc.networkName = network := by
    cases hsub
    rfl
  rw [hreply]
  cases hfault : env.fault 2 with
  | true => rfl
  | false =>
    rw [getServers_eq s.db.valid hnid]
    simp [listServersResponse, serverEntry, rowEntry]

/-- All entries carry the network's name, so a user's entry is the only one, and the user is called
like the network. -/
theorem filter_rowEntry_iff {rows : List (LinkRow ServerData)} {row : LinkRow ServerData}
    {reg : Registration} (hmem : row ∈ rows) (hstored : StoredAs row nid reg) :
    (rows.map (rowEntry networkDesc)).filter (·.username = some reg.user) =
        [⟨some reg.user, some reg.ip, some reg.port⟩] ↔
      reg.user = networkDesc.networkName ∧ NoSpace reg.ip ∧ rows.length = 1 := by
  constructor
  · intro hreply
    have hentry := List.mem_singleton_self (⟨some reg.user, some reg.ip, some reg.port⟩ :
      NodeMessage.Server)
    rw [← hreply, List.mem_filter, List.mem_map] at hentry
    obtain ⟨⟨found, -, hfound⟩, -⟩ := hentry
    have hname : reg.user = networkDesc.networkName :=
      (Option.some_inj.1 (congrArg NodeMessage.Server.username hfound)).symm
    have hall : ∀ entry ∈ rows.map (rowEntry networkDesc),
        decide (entry.username = some networkDesc.networkName) = true := by
      intro entry hentry
      obtain ⟨row', -, rfl⟩ := List.mem_map.1 hentry
      exact decide_eq_true rfl
    rw [hname, List.filter_eq_self.2 hall] at hreply
    have hone := congrArg List.length hreply
    rw [List.length_map, List.length_singleton] at hone
    obtain ⟨row', rfl⟩ := List.length_eq_one_iff.1 hone
    obtain rfl := List.mem_singleton.1 hmem
    rw [List.map_singleton] at hreply
    have haddress := congrArg NodeMessage.Server.ipAddress (List.singleton_inj.1 hreply)
    exact ⟨hname, (toStdString_out_ofText hstored.address).1 (Option.some_inj.1 haddress), hone⟩
  · rintro ⟨hname, haddress, hone⟩
    obtain ⟨row', rfl⟩ := List.length_eq_one_iff.1 hone
    obtain rfl := List.mem_singleton.1 hmem
    rw [hname, ← hstored.port, List.map_singleton, rowEntry,
      (toStdString_out_ofText hstored.address).2 haddress]
    simp

theorem inReply_iff {reg : Registration} {row : LinkRow ServerData}
    (hnid : s.db.tables.networkId? networkDesc.networkName = some nid)
    (hok : (handle env (getListServersMessage networkDesc cookie) s).1.isOk)
    (hrow : row ∈ s.db.tables.servers.rows) (hstored : StoredAs row nid reg) :
    InReply (handle env (getListServersMessage networkDesc cookie) s).1 reg ↔
      env.fault 2 = false ∧ OnlyNamesake s.db.tables networkDesc nid reg := by
  have hmem : row ∈ s.db.tables.servers.rows.filter (·.networkId = nid) :=
    List.mem_filter.2 ⟨hrow, by simpa using hstored.network⟩
  unfold InReply
  rw [reply_listServers hnid hok]
  cases hfault : env.fault 2 with
  | true => simp
  | false =>
    rw [if_neg (by simp), filter_rowEntry_iff hmem hstored, ← List.countP_eq_length_filter]
    constructor
    · rintro ⟨hname, haddress, halone⟩
      exact ⟨rfl, hname, haddress, halone⟩
    · rintro ⟨-, hname, haddress, halone⟩
      exact ⟨hname, haddress, halone⟩

/-- **No registered server comes through to the client; in the reply a server comes through when its
user is called like the network and has its only server.** -/
theorem servers_roundTrip_iff {rs : List Request}
    (hnid : (afterFrom s rs).db.tables.networkId? networkDesc.networkName = some nid)
    (hok : (handle env (getListServersMessage networkDesc cookie) (afterFrom s rs)).1.isOk) :
    ((∀ reg, Registered s rs nid reg →
        InReply (handle env (getListServersMessage networkDesc cookie) (afterFrom s rs)).1 reg ∧
        AtClient (serversOfReply networkDesc
          (handle env (getListServersMessage networkDesc cookie) (afterFrom s rs)).1)
          networkDesc reg) ↔
      ∀ reg, ¬ Registered s rs nid reg) ∧
    ((∀ reg, Registered s rs nid reg →
        InReply (handle env (getListServersMessage networkDesc cookie) (afterFrom s rs)).1 reg) ↔
      ∀ reg, Registered s rs nid reg →
        env.fault 2 = false ∧ OnlyNamesake (afterFrom s rs).db.tables networkDesc nid reg) := by
  refine ⟨⟨fun h reg hreg => ?_, fun h reg hreg => absurd hreg (h reg)⟩, ?_⟩
  · obtain ⟨-, server, -, -, -, hport⟩ := h reg hreg
    cases hport
  · refine forall_congr' fun reg => imp_congr_right fun hreg => ?_
    obtain ⟨row, hrow, hstored⟩ := hreg.exists_row
    exact inReply_iff hnid hok hrow hstored

/-- Bob registers his server. -/
def bobRegisters : Request := ⟨Env.sample, updateBob, rfl⟩

def netDesc : NetworkDescription where
  accessRights := .PUBLIC
  visability := .UNLISTED
  participationRights := .CLIENT_SERVER
  protocolName := ""
  networkName := "net"
  creator := ⟨"bob", ""⟩

theorem servers_roundTrip_iff_bob :
    (∀ reg, Registered bobsNetwork [bobRegisters] 1 reg →
        InReply (handle Env.sample (getListServersMessage netDesc "c00kie")
          (afterFrom bobsNetwork [bobRegisters])).1 reg) ↔
      ∀ reg, Registered bobsNetwork [bobRegisters] 1 reg → Env.sample.fault 2 = false ∧
        OnlyNamesake (afterFrom bobsNetwork [bobRegisters]).db.tables netDesc 1 reg :=
  (servers_roundTrip_iff (s := bobsNetwork) (by decide +kernel) (by decide +kernel)).2

/-- Bob's server is in the reply, as that of a user called "net". -/
theorem server_not_inReply_bob :
    ∃ reg, Registered bobsNetwork [bobRegisters] 1 reg ∧
      (handle Env.sample (getListServersMessage netDesc "c00kie")
        (afterFrom bobsNetwork [bobRegisters])).1.isOk ∧
      ¬ InReply (handle Env.sample (getListServersMessage netDesc "c00kie")
        (afterFrom bobsNetwork [bobRegisters])).1 reg := by
  obtain ⟨hlogin, huser, hnet, hfirst⟩ := state_bobsNetwork
  refine ⟨⟨"bob", "10.0.0.1", 8080⟩, ⟨[], bobRegisters, [], 1, rfl, ?_, ?_⟩, ?_, ?_⟩
  · rw [afterFrom_nil]
    exact ⟨rfl, by decide +kernel, ⟨"c00kie", rfl, hlogin, by decide⟩, huser, hnet, rfl, rfl, hfirst⟩
  · intro part hpart
    obtain rfl := List.prefix_nil.1 hpart
    decide +kernel
  · decide +kernel
  · unfold InReply
    decide +kernel

end Sp2p
