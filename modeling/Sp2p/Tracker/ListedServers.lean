import Sp2p.MessageClasses
import Sp2p.Tracker.Run

/-!
# The servers in a reply

What a reply lists of servers are rows of the servers table, and they come from UPDATE_SERVER requests:
the port from the message, the address from the connection. So what is true of all that is stored is true
of all that is listed. A request that was parsed has a port of 32 bits; hence every reply can be
serialized as it is.
-/

namespace Sp2p.Tracker

open Interleaving Protocol Wire
open NodeMessageFactory

/-- The servers that are stored are such. -/
def ServersAre (D : ServerData → Prop) (s : State) : Prop := ∀ row ∈ s.db.tables.servers.rows, D row.data

/-- What UPDATE_SERVER may store of an address and a port. -/
def Storable (D : ServerData → Prop) (ip : String) (port : Int) : Prop :=
  ∀ addr ttl, BpChar.ofText 20 ip = some addr → D ⟨addr, port, ttl⟩

variable {D : ServerData → Prop}

/-! ### The shared calls -/

/-- What a handler may ask. -/
def StoresServer (D : ServerData → Prop) : Call → Prop
  | .updateServer _ _ _ ip port _ => Storable D ip port
  | _ => True

/-- What it is answered. -/
def AnswersServers (D : ServerData → Prop) : (c : Call) → c.Ans → Prop
  | .getServers _ _, l => ∀ server ∈ l, ∃ d, D d ∧ server.ip = toStdString d.ip.out ∧ server.port = d.port
  | _, _ => True

theorem ServersAre.of_subset {s s' : State} (hs : ServersAre D s)
    (hsub : ∀ row ∈ s'.db.tables.servers.rows, row ∈ s.db.tables.servers.rows) : ServersAre D s' :=
  fun row hrow => hs row (hsub row hrow)

/-- A transaction whose statement brings no server. -/
theorem ServersAre.transacts {fault : Bool} {x : Except SqlError Tables} {s : State}
    {out : DBResponse × State} (hs : ServersAre D s) (h : Transacts fault x s out)
    (hx : ∀ t, x = .ok t → ∀ row ∈ t.servers.rows, row ∈ s.db.tables.servers.rows) :
    ServersAre D out.2 := by
  rcases h with ⟨s', -, hok, -, rfl⟩ | ⟨r, -, -, rfl⟩
  · exact hs.of_subset (hx _ hok)
  · exact hs

theorem servers_deleteUser_subset (t : Tables) (u : String) :
    ∀ row ∈ (t.deleteUser u).servers.rows, row ∈ t.servers.rows := by
  intro row hrow
  unfold Tables.deleteUser at hrow
  split at hrow
  · exact (LinkTable.mem_drop.1 hrow).1
  · exact hrow

/-- The method stores the address and the port that it is given. -/
theorem mem_updateServer {fault : Bool} {network user ip : String} {port ttl : Int} {t : Tables}
    {row : LinkRow ServerData}
    (hrow : row ∈ (PsqlConnector.updateServer fault network user ip port ttl t).2.servers.rows) :
    row ∈ t.servers.rows ∨ ∃ addr, BpChar.ofText 20 ip = some addr ∧ row.data = ⟨addr, port, ttl⟩ := by
  unfold PsqlConnector.updateServer at hrow
  split at hrow
  · exact .inl hrow
  · rename_i addr haddr
    split at hrow
    · exact .inl hrow
    · split at hrow
      · exact .inl hrow
      · rcases PsqlConnector.work_cases false (by decide : DBResponse.notFound ≠ .ok) t
          (t.insertServer network user ⟨addr, port, ttl⟩) with ⟨t', -, hx, hw⟩ | ⟨-, -, hw⟩
        · rw [hw] at hrow
          obtain ⟨u, n, -, -, -, rfl⟩ := Tables.insertServer_eq_ok.1 hx
          rcases LinkTable.mem_push.1 hrow with hold | rfl
          · exact .inl hold
          · exact .inr ⟨addr, haddr, rfl⟩
        · rw [hw] at hrow
          exact .inl hrow

theorem servers_exec (c : Call) (s : State) (hc : StoresServer D c) (hs : ServersAre D s) :
    AnswersServers D c (exec c s).1 ∧ ServersAre D (exec c s).2 := by
  cases c with
  | getServers fault n =>
    refine ⟨fun server hserver => ?_, hs⟩
    have hans : server ∈ PsqlConnector.getServers fault n s.db.tables := hserver
    unfold PsqlConnector.getServers at hans
    split at hans
    · cases hans
    · obtain ⟨row, hrow, rfl⟩ := List.mem_map.1 hans
      exact ⟨row.data, hs row (List.mem_filter.1 hrow).1, rfl, rfl⟩
  | createUser fault l pw =>
    refine ⟨trivial, hs.transacts (exec_createUser fault l pw s) fun t ht => ?_⟩
    obtain ⟨_, _, -, -, -, rfl⟩ := Tables.insertUser_eq_ok.1 ht
    exact fun _ => id
  | removeUser fault l =>
    refine ⟨trivial, hs.transacts (exec_removeUser fault l s) fun t ht => ?_⟩
    cases ht
    exact servers_deleteUser_subset _ l
  | changeUserPassword fault l pw =>
    refine ⟨trivial, hs.transacts (exec_changeUserPassword fault l pw s) fun t ht => ?_⟩
    obtain ⟨_, -, rfl⟩ := Tables.updatePassword_eq_ok.1 ht
    exact fun _ => id
  | addKey fault l n key =>
    refine ⟨trivial, hs.transacts (exec_addKey fault l n key s) fun t ht => ?_⟩
    obtain ⟨_, _, -, -, -, rfl⟩ := Tables.insertKey_eq_ok.1 ht
    exact fun _ => id
  | createInvitation fault l n =>
    refine ⟨trivial, hs.transacts (exec_createInvitation fault l n s) fun t ht => ?_⟩
    obtain ⟨_, _, -, -, -, rfl⟩ := Tables.insertInvitation_eq_ok.1 ht
    exact fun _ => id
  | createNetwork fault n l pub vis part mail proto =>
    refine ⟨trivial, hs.transacts (exec_createNetwork fault n l pub vis part mail proto s) fun t ht => ?_⟩
    intro row hrow
    rwa [(Tables.links_insertNetwork ht).1] at hrow
  | deleteNetwork fault l n =>
    refine ⟨trivial, ?_⟩
    rcases exec_deleteNetwork fault l n s with ⟨row, s', -, -, ht, -, he⟩ | ⟨r, -, he⟩
    · rw [he]
      refine hs.of_subset fun row' hrow' => ?_
      rw [ht] at hrow'
      exact (LinkTable.mem_drop.1 hrow').1
    · rw [he]
      exact hs
  | updateServer fault n u ip port ttl =>
    refine ⟨trivial, fun row hrow => ?_⟩
    simp only [exec, write_tables] at hrow
    rcases mem_updateServer hrow with hold | ⟨addr, haddr, hdata⟩
    · exact hs row hold
    · rw [hdata]
      exact hc addr ttl haddr
  | deleteServer fault n u =>
    refine ⟨trivial, ?_⟩
    rcases exec_deleteServer fault n u s with ⟨s', -, ht, -, he⟩ | ⟨-, he⟩
    · rw [he]
      refine hs.of_subset fun row hrow => ?_
      rw [ht] at hrow
      exact (LinkTable.mem_drop.1 hrow).1
    · rw [he]
      exact hs
  | _ => exact ⟨trivial, hs⟩

/-! ### The handlers -/

/-- The servers in a reply are such, and its seconds are the constant. -/
structure ListsServers (D : ServerData → Prop) (reply : NodeMessage) : Prop where
  servers : ∀ entries ∈ reply.listServersResponse, ∀ entry ∈ entries, ∃ d, D d ∧
    entry.ipAddress = some (toStdString d.ip.out) ∧ entry.portNumber = some d.port
  update : ∀ u ∈ reply.updateServerResponse, u.secondsToUpdate = some SERVER_TTL

/-- The handler stores such servers only, and lists no others. -/
def KeepsServers (D : ServerData → Prop) (h : Handler) : Prop :=
  h.Meets (StoresServer D) (AnswersServers D) (ListsServers D)

variable {env : Env} {m : ClientMessage}

/-- A reply without servers and seconds. -/
theorem listsServers_of_none {reply : NodeMessage} (hservers : reply.listServersResponse = none)
    (hupdate : reply.updateServerResponse = none) : ListsServers D reply where
  servers entries hentries := by
    rw [hservers] at hentries
    cases hentries
  update u hu := by
    rw [hupdate] at hu
    cases hu

theorem keepsServers_pure {reply : NodeMessage} (hservers : reply.listServersResponse = none)
    (hupdate : reply.updateServerResponse = none) : KeepsServers D (pure reply) :=
  listsServers_of_none hservers hupdate

theorem keepsServers_status (r : ResponseType) : KeepsServers D (pure (errorMesage r)) :=
  keepsServers_pure rfl rfl

theorem keepsServers_check {c : Prop} [Decidable c] {r : ResponseType} {h : Handler}
    (hh : KeepsServers D h) : KeepsServers D (if c then pure (errorMesage r) else h) :=
  meets_ite (keepsServers_status r) hh

theorem keepsServers_callShared {c : Call} (hc : StoresServer D c) {k : c.Ans → Handler}
    (hk : ∀ r, AnswersServers D c r → KeepsServers D (k r)) : KeepsServers D (callShared c >>= k) :=
  meets_bind (meets_op hc) hk

theorem keepsServers_authenticated {cookie : String} {k : String → Handler}
    (hk : ∀ login, KeepsServers D (k login)) : KeepsServers D (authenticated cookie k) :=
  keepsServers_callShared (by trivial) fun login _ => keepsServers_check (hk login)

theorem keepsServers_goodCredentials {login password : String} {k : Bool → Handler}
    (hk : ∀ good, KeepsServers D (k good)) : KeepsServers D (goodCredentials env login password >>= k) :=
  keepsServers_callShared (by trivial) fun _ _ => hk _

theorem keepsServers_register : KeepsServers D (handleRegister env m) := by
  unfold handleRegister
  split
  · refine keepsServers_callShared (by trivial) fun r _ => ?_
    cases r with
    | ok => exact keepsServers_check (keepsServers_pure rfl rfl)
    | internalError | notFound | notPermited | notUnique => exact keepsServers_status _
  · exact keepsServers_status _

theorem keepsServers_unregister : KeepsServers D (handleUnregister env m) := by
  unfold handleUnregister
  split
  · refine keepsServers_authenticated fun _ => ?_
    exact keepsServers_callShared (by trivial) fun _ _ => keepsServers_status _
  · exact keepsServers_status _

theorem keepsServers_login : KeepsServers D (handleLogin env m) := by
  unfold handleLogin
  split
  · refine keepsServers_goodCredentials fun good => keepsServers_check ?_
    exact keepsServers_callShared (by trivial) fun _ _ => keepsServers_pure rfl rfl
  · exact keepsServers_status _

theorem keepsServers_logout : KeepsServers D (handleLogout m) := by
  unfold handleLogout
  split
  · exact keepsServers_callShared (by trivial) fun _ _ => keepsServers_status _
  · exact keepsServers_status _

theorem keepsServers_listNetworks : KeepsServers D (handleListNetworks env m) := by
  unfold handleListNetworks
  split
  · refine keepsServers_authenticated fun _ => keepsServers_callShared (by trivial) fun _ _ => ?_
    exact keepsServers_pure rfl rfl
  · exact keepsServers_status _

theorem keepsServers_listMyNetworks : KeepsServers D (handleListMyNetworks env m) := by
  unfold handleListMyNetworks
  split
  · refine keepsServers_authenticated fun _ => keepsServers_callShared (by trivial) fun _ _ => ?_
    exact keepsServers_pure rfl rfl
  · exact keepsServers_status _

/-- The servers of the reply are those that were answered. -/
theorem keepsServers_listServers : KeepsServers D (handleListServers env m) := by
  unfold handleListServers
  split
  · refine keepsServers_authenticated fun _ => ?_
    refine keepsServers_callShared (by trivial) fun _ _ => keepsServers_check ?_
    refine keepsServers_callShared (by trivial) fun _ _ => keepsServers_check ?_
    refine keepsServers_callShared (by trivial) fun l hl => ⟨?_, nofun⟩
    rintro entries ⟨⟩ entry hentry
    obtain ⟨server, hserver, rfl⟩ := List.mem_map.1 hentry
    obtain ⟨d, hd, hip, hport⟩ := hl server hserver
    exact ⟨d, hd, congrArg some hip, congrArg some hport⟩
  · exact keepsServers_status _

theorem keepsServers_createNetwork : KeepsServers D (handleCreateNetwork env m) := by
  unfold handleCreateNetwork
  split
  · refine keepsServers_authenticated fun _ => keepsServers_callShared (by trivial) fun r _ => ?_
    cases r with
    | ok => exact keepsServers_callShared (by trivial) fun _ _ => keepsServers_status _
    | internalError | notFound | notPermited | notUnique => exact keepsServers_status _
  · exact keepsServers_status _

theorem keepsServers_deleteNetwork : KeepsServers D (handleDeleteNetwork env m) := by
  unfold handleDeleteNetwork
  split
  · refine keepsServers_authenticated fun _ => ?_
    refine keepsServers_callShared (by trivial) fun _ _ => keepsServers_check ?_
    exact keepsServers_callShared (by trivial) fun _ _ => keepsServers_status _
  · exact keepsServers_status _

theorem keepsServers_inviteUser : KeepsServers D (handleInviteUser env m) := by
  unfold handleInviteUser
  split
  · refine keepsServers_authenticated fun _ => ?_
    refine keepsServers_callShared (by trivial) fun _ _ => keepsServers_check ?_
    refine keepsServers_callShared (by trivial) fun _ _ => keepsServers_check ?_
    exact keepsServers_callShared (by trivial) fun _ _ => keepsServers_status _
  · exact keepsServers_status _

theorem keepsServers_removeUser : KeepsServers D (handleRemoveUser env m) := by
  unfold handleRemoveUser
  split
  · refine keepsServers_authenticated fun _ => keepsServers_callShared (by trivial) fun _ _ => ?_
    exact keepsServers_callShared (by trivial) fun _ _ => keepsServers_status _
  · exact keepsServers_status _

theorem keepsServers_userInfo : KeepsServers D (handleUserInfo env m) := by
  unfold handleUserInfo
  split
  · refine keepsServers_authenticated fun _ => ?_
    refine keepsServers_callShared (by trivial) fun _ _ => keepsServers_check ?_
    refine keepsServers_callShared (by trivial) fun _ _ => keepsServers_check ?_
    exact keepsServers_callShared (by trivial) fun _ _ => keepsServers_pure rfl rfl
  · exact keepsServers_status _

/-- The address of the connection and the port of the request can be stored. -/
def Publishes (D : ServerData → Prop) (env : Env) (m : ClientMessage) : Prop :=
  ∀ sub ∈ m.updateServerMessage, Storable D env.address (sub.portNumber.getD 0)

theorem keepsServers_updateServer (hm : Publishes D env m) : KeepsServers D (handleUpdateServer env m) := by
  unfold handleUpdateServer
  split
  · rename_i sub hsub
    refine keepsServers_authenticated fun _ => ?_
    refine keepsServers_callShared (by trivial) fun _ _ => keepsServers_check ?_
    refine keepsServers_callShared (by trivial) fun _ _ => keepsServers_check ?_
    refine keepsServers_callShared (by exact hm sub hsub) fun r _ => ?_
    cases r with
    | ok =>
      refine ⟨nofun, ?_⟩
      rintro u ⟨⟩
      rfl
    | internalError | notFound | notPermited | notUnique => exact keepsServers_status _
  · exact keepsServers_status _

theorem keepsServers_stopServer : KeepsServers D (handleStopServer env m) := by
  unfold handleStopServer
  split
  · refine keepsServers_authenticated fun _ => ?_
    refine keepsServers_callShared (by trivial) fun _ _ => keepsServers_check ?_
    exact keepsServers_callShared (by trivial) fun _ _ => keepsServers_status _
  · exact keepsServers_status _

theorem keepsServers_signKey : KeepsServers D (handleSignKey env m) := by
  unfold handleSignKey
  split
  · refine keepsServers_authenticated fun _ => ?_
    refine keepsServers_callShared (by trivial) fun r _ => keepsServers_check ?_
    cases r with
    | ok => exact keepsServers_pure rfl rfl
    | internalError | notFound | notPermited | notUnique => exact keepsServers_status _
  · exact keepsServers_status _

theorem keepsServers_changePassword : KeepsServers D (handleChangePassword env m) := by
  unfold handleChangePassword
  split
  · refine keepsServers_authenticated fun _ => ?_
    refine keepsServers_goodCredentials fun _ => keepsServers_check ?_
    exact keepsServers_callShared (by trivial) fun _ _ => keepsServers_status _
  · exact keepsServers_status _

theorem keepsServers_handleRequest (hm : Publishes D env m) : KeepsServers D (handleRequest env m) := by
  unfold handleRequest
  cases m.requestType with
  | register => exact keepsServers_register
  | unregister => exact keepsServers_unregister
  | login => exact keepsServers_login
  | logout => exact keepsServers_logout
  | listNetworks => exact keepsServers_listNetworks
  | listMyNetworks => exact keepsServers_listMyNetworks
  | listServers => exact keepsServers_listServers
  | createNetwork => exact keepsServers_createNetwork
  | deleteNetwork => exact keepsServers_deleteNetwork
  | inviteUser => exact keepsServers_inviteUser
  | removeUser => exact keepsServers_removeUser
  | userInfo => exact keepsServers_userInfo
  | updateServer => exact keepsServers_updateServer hm
  | stopServer => exact keepsServers_stopServer
  | signKey => exact keepsServers_signKey
  | changePassword => exact keepsServers_changePassword

/-! ### Ports -/

/-- The ports that are stored are of 32 bits. -/
def HasPorts (s : State) : Prop := ServersAre (fun d => IsInt32 d.port) s

theorem inRange_of_listsServers (hD : ∀ d, D d → IsInt32 d.port) {reply : NodeMessage}
    (h : ListsServers D reply) : reply.InRange where
  servers entries hentries entry hentry := by
    obtain ⟨d, hd, -, hport⟩ := h.servers entries hentries entry hentry
    intro port hp
    obtain rfl := Option.some_inj.1 (hport.symm.trans hp)
    exact hD d hd
  update u hu seconds hseconds := by
    obtain rfl := Option.some_inj.1 ((h.update u hu).symm.trans hseconds)
    decide

/-- The port of a request that was parsed. -/
theorem isInt32_port (hm : m.InRange) {sub : ClientMessage.UpdateServer}
    (hsub : sub ∈ m.updateServerMessage) : IsInt32 (sub.portNumber.getD 0) := by
  cases hp : sub.portNumber with
  | none => decide
  | some port => exact hm sub hsub port hp

/-- A step lemma: the reply to a request is in the range, and the table stays so. -/
theorem inRange_handle (env : Env) {m : ClientMessage} (hm : m.InRange) {s : State} (hs : HasPorts s) :
    (handle env m s).1.InRange ∧ HasPorts (handle env m s).2 := by
  obtain ⟨hreply, hnext⟩ := meets_run exec servers_exec
    (keepsServers_handleRequest fun _ hsub _ _ _ => isInt32_port hm hsub) hs
  exact ⟨inRange_of_listsServers (fun _ => id) hreply, hnext⟩

theorem servers_empty : ServersAre D State.empty := nofun

theorem hasPorts_empty : HasPorts State.empty := servers_empty

end Sp2p.Tracker
