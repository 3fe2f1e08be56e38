import Sp2p.Tracker.Outcome
import Sp2p.Sercli.Parser

/-!
# From the tracker's reply to the client

What `handleRequest` builds, `Response::parseIntoOstream` writes and the client's `readMessage` reads.
The writer does not check that the required fields are set and the reader does, so first every reply
of every handler has them: `handle_isInitialized`.
-/

namespace Sp2p

open Interleaving Framing Protocol Tracker Sercli

namespace Tracker

open NodeMessageFactory

/-- `Response::parseIntoOstream`: the size and a partial serialization. -/
def Response.parseIntoOstream (o : ByteOrder) (codec : Codec NodeMessage) (message : NodeMessage) :
    List Byte :=
  codec.frame o message

/-! ### Every reply is complete -/

/-- Whatever the shared objects answer, the handler's reply has its required fields. -/
def Complete (h : Handler) : Prop := h.Returns fun reply => reply.isInitialized = true

variable {env : Env} {m : ClientMessage}

theorem complete_status (r : ResponseType) : Complete (pure (errorMesage r)) := rfl

theorem all_networkEntry (l : List ProtoNetwork) :
    (l.mapIdx fun i n => networkEntry (env.uninitialized i) n).all
      NodeMessage.Network.isInitialized = true := by
  rw [List.all_eq_true]
  intro entry hentry
  obtain ⟨i, hi, rfl⟩ := List.mem_mapIdx.1 hentry
  rfl

theorem all_serverEntry (l : List ProtoServer) :
    (l.map serverEntry).all NodeMessage.Server.isInitialized = true := by
  rw [List.all_eq_true]
  intro entry hentry
  obtain ⟨server, -, rfl⟩ := List.mem_map.1 hentry
  rfl

theorem isInitialized_listNetworksResponse (l : List ProtoNetwork) :
    (listNetworksResponse env l).isInitialized = true := by
  simp only [NodeMessage.isInitialized, listNetworksResponse, Option.all_some, all_networkEntry]
  rfl

theorem isInitialized_listMyNetworksResponse (l : List ProtoNetwork) :
    (listMyNetworksResponse env l).isInitialized = true := by
  simp only [NodeMessage.isInitialized, listMyNetworksResponse, Option.all_some, all_networkEntry]
  rfl

theorem isInitialized_listServersResponse (l : List ProtoServer) :
    (listServersResponse l).isInitialized = true := by
  simp only [NodeMessage.isInitialized, listServersResponse, Option.all_some, all_serverEntry]
  rfl

theorem complete_authenticated {cookie : String} {k : String → Handler}
    (hk : ∀ login, Complete (k login)) : Complete (authenticated cookie k) := by
  refine returns_bind fun login => ?_
  exact returns_ite (complete_status _) (hk login)

/-- After a call of a shared object the answer may be anything. -/
theorem complete_callShared {c : Call} {k : c.Ans → Handler} (hk : ∀ r, Complete (k r)) :
    Complete (callShared c >>= k) :=
  returns_bind hk

/-- A check refuses with a status or lets the handler go on. -/
theorem complete_check {c : Prop} [Decidable c] {r : ResponseType} {h : Handler}
    (hh : Complete h) : Complete (if c then pure (errorMesage r) else h) :=
  returns_ite (complete_status _) hh

theorem complete_register : Complete (handleRegister env m) := by
  unfold handleRegister
  split
  · refine complete_callShared fun r => ?_
    cases r with
    | ok => exact complete_check rfl
    | internalError | notFound | notPermited | notUnique => exact complete_status _
  · exact complete_status _

theorem complete_unregister : Complete (handleUnregister env m) := by
  unfold handleUnregister
  split
  · exact complete_authenticated fun _ => complete_callShared fun _ => complete_status _
  · exact complete_status _

theorem complete_login : Complete (handleLogin env m) := by
  unfold handleLogin
  split
  · exact returns_bind fun _ => complete_check (complete_callShared fun _ => rfl)
  · exact complete_status _

theorem complete_logout : Complete (handleLogout m) := by
  unfold handleLogout
  split
  · exact complete_callShared fun _ => complete_status _
  · exact complete_status _

theorem complete_listNetworks : Complete (handleListNetworks env m) := by
  unfold handleListNetworks
  split
  · refine complete_authenticated fun _ => complete_callShared fun l => ?_
    exact isInitialized_listNetworksResponse l
  · exact complete_status _

theorem complete_listMyNetworks : Complete (handleListMyNetworks env m) := by
  unfold handleListMyNetworks
  split
  · refine complete_authenticated fun _ => complete_callShared fun l => ?_
    exact isInitialized_listMyNetworksResponse l
  · exact complete_status _

theorem complete_listServers : Complete (handleListServers env m) := by
  unfold handleListServers
  split
  · refine complete_authenticated fun _ => ?_
    refine complete_callShared fun _ => complete_check ?_
    refine complete_callShared fun _ => complete_check ?_
    exact complete_callShared fun l => isInitialized_listServersResponse l
  · exact complete_status _

theorem complete_createNetwork : Complete (handleCreateNetwork env m) := by
  unfold handleCreateNetwork
  split
  · refine complete_authenticated fun _ => complete_callShared fun r => ?_
    cases r with
    | ok => exact complete_callShared fun _ => complete_status _
    | internalError | notFound | notPermited | notUnique => exact complete_status _
  · exact complete_status _

theorem complete_deleteNetwork : Complete (handleDeleteNetwork env m) := by
  unfold handleDeleteNetwork
  split
  · refine complete_authenticated fun _ => ?_
    refine complete_callShared fun _ => complete_check ?_
    exact complete_callShared fun _ => complete_status _
  · exact complete_status _

theorem complete_inviteUser : Complete (handleInviteUser env m) := by
  unfold handleInviteUser
  split
  · refine complete_authenticated fun _ => ?_
    refine complete_callShared fun _ => complete_check ?_
    refine complete_callShared fun _ => complete_check ?_
    exact complete_callShared fun _ => complete_status _
  · exact complete_status _

theorem complete_removeUser : Complete (handleRemoveUser env m) := by
  unfold handleRemoveUser
  split
  · refine complete_authenticated fun _ => ?_
    exact complete_callShared fun _ => complete_callShared fun _ => complete_status _
  · exact complete_status _

theorem complete_userInfo : Complete (handleUserInfo env m) := by
  unfold handleUserInfo
  split
  · refine complete_authenticated fun _ => ?_
    refine complete_callShared fun _ => complete_check ?_
    refine complete_callShared fun _ => complete_check ?_
    exact complete_callShared fun _ => rfl
  · exact complete_status _

theorem complete_updateServer : Complete (handleUpdateServer env m) := by
  unfold handleUpdateServer
  split
  · refine complete_authenticated fun _ => ?_
    refine complete_callShared fun _ => complete_check ?_
    refine complete_callShared fun _ => complete_check ?_
    refine complete_callShared fun r => ?_
    cases r with
    | ok => exact rfl
    | internalError | notFound | notPermited | notUnique => exact complete_status _
  · exact complete_status _

theorem complete_stopServer : Complete (handleStopServer env m) := by
  unfold handleStopServer
  split
  · refine complete_authenticated fun _ => ?_
    refine complete_callShared fun _ => complete_check ?_
    exact complete_callShared fun _ => complete_status _
  · exact complete_status _

theorem complete_signKey : Complete (handleSignKey env m) := by
  unfold handleSignKey
  split
  · refine complete_authenticated fun _ => complete_callShared fun r => complete_check ?_
    cases r with
    | ok => exact rfl
    | internalError | notFound | notPermited | notUnique => exact complete_status _
  · exact complete_status _

theorem complete_changePassword : Complete (handleChangePassword env m) := by
  unfold handleChangePassword
  split
  · refine complete_authenticated fun _ => ?_
    refine returns_bind fun _ => complete_check ?_
    exact complete_callShared fun _ => complete_status _
  · exact complete_status _

theorem complete_handleRequest (env : Env) (m : ClientMessage) : Complete (handleRequest env m) := by
  unfold handleRequest
  cases m.requestType with
  | register => exact complete_register
  | unregister => exact complete_unregister
  | login => exact complete_login
  | logout => exact complete_logout
  | listNetworks => exact complete_listNetworks
  | listMyNetworks => exact complete_listMyNetworks
  | listServers => exact complete_listServers
  | createNetwork => exact complete_createNetwork
  | deleteNetwork => exact complete_deleteNetwork
  | inviteUser => exact complete_inviteUser
  | removeUser => exact complete_removeUser
  | userInfo => exact complete_userInfo
  | updateServer => exact complete_updateServer
  | stopServer => exact complete_stopServer
  | signKey => exact complete_signKey
  | changePassword => exact complete_changePassword

theorem handle_isInitialized (env : Env) (m : ClientMessage) (s : State) :
    (handle env m s).1.isInitialized = true :=
  returns_run exec (complete_handleRequest env m) s

end Tracker

/-! ### Delivery -/

/-- **The reply to any request in any state is complete, and is delivered however its bytes are
cut.** -/
theorem reply_delivered (env : Env) (m : ClientMessage) (s : State) (o : ByteOrder)
    (codec : Codec NodeMessage) (size : Nat) {reads : List (List Byte)}
    (hsize : (codec.serialize (handle env m s).1).length < 2 ^ 31)
    (hround : (handle env m s).1.isInitialized = true →
      codec.parse (codec.serialize (handle env m s).1) = some (handle env m s).1)
    (hcut : Cutting size (Response.parseIntoOstream o codec (handle env m s).1) reads) :
    (handle env m s).1.isInitialized = true ∧ Delivers o codec reads (handle env m s).1 := by
  have hinit := handle_isInitialized env m s
  exact ⟨hinit, readMessage_frame (hround hinit) hsize hcut⟩

/-- The format on one message, the bare status `BAD_REQUEST`. -/
def badRequestCodec : Codec NodeMessage where
  serialize m := if m = NodeMessageFactory.badRequestMessage then [0x08, 0xF4, 0x03] else []
  parse bytes :=
    if bytes = [0x08, 0xF4, 0x03] then some NodeMessageFactory.badRequestMessage else none

/-- The answer to an UNREGISTER without its sub-message, cut in the header and in the body. -/
theorem reply_delivered_badRequest :
    (handle Env.sample { request := some .unregister } State.empty).1.isInitialized = true ∧
      Delivers .little badRequestCodec [[3, 0], [0, 0, 0x08, 0xF4], [0x03]]
        (handle Env.sample { request := some .unregister } State.empty).1 :=
  reply_delivered Env.sample { request := some .unregister } State.empty
    .little badRequestCodec 8192 (by decide) (fun _ => by decide) ⟨by decide, by decide, by decide⟩

end Sp2p
