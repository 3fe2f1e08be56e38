import Sp2p.Lib.Descriptor
import Sp2p.Protocol

/-!
# The message classes on the wire

`sp2p_protocol.pb.cc`: for each class its fields with their numbers and types, in the order of the
generated code. The fields that a class does not know are kept by the generated code and read by no
one; here they are dropped.
-/

namespace Sp2p.Protocol

open Framing Wire

variable (W : WireFormat)

/-! ### Enumerations -/

def RequestType.enumType : EnumType RequestType where
  toInt
    | .register => 0
    | .unregister => 1
    | .login => 2
    | .logout => 3
    | .listNetworks => 4
    | .listMyNetworks => 5
    | .listServers => 6
    | .createNetwork => 7
    | .deleteNetwork => 8
    | .inviteUser => 9
    | .removeUser => 10
    | .userInfo => 11
    | .updateServer => 12
    | .stopServer => 13
    | .signKey => 14
    | .changePassword => 15
  ofInt
    | 0 => some .register
    | 1 => some .unregister
    | 2 => some .login
    | 3 => some .logout
    | 4 => some .listNetworks
    | 5 => some .listMyNetworks
    | 6 => some .listServers
    | 7 => some .createNetwork
    | 8 => some .deleteNetwork
    | 9 => some .inviteUser
    | 10 => some .removeUser
    | 11 => some .userInfo
    | 12 => some .updateServer
    | 13 => some .stopServer
    | 14 => some .signKey
    | 15 => some .changePassword
    | _ => none
  ofInt_toInt e := by cases e <;> rfl
  isInt32_toInt e := by cases e <;> decide

def ResponseType.enumType : EnumType ResponseType where
  toInt
    | .ok => 200
    | .internalServerError => 400
    | .badRequest => 500
    | .noPrivilages => 501
    | .notLogged => 502
    | .badCredentials => 503
    | .noSuchUser => 504
    | .noSuchNetwork => 505
    | .badData => 506
    | .alreadyExists => 507
  ofInt
    | 200 => some .ok
    | 400 => some .internalServerError
    | 500 => some .badRequest
    | 501 => some .noPrivilages
    | 502 => some .notLogged
    | 503 => some .badCredentials
    | 504 => some .noSuchUser
    | 505 => some .noSuchNetwork
    | 506 => some .badData
    | 507 => some .alreadyExists
    | _ => none
  ofInt_toInt e := by cases e <;> rfl
  isInt32_toInt e := by cases e <;> decide

def AccessRights.enumType : EnumType AccessRights where
  toInt
    | .pub => 1
    | .priv => 2
  ofInt
    | 1 => some .pub
    | 2 => some .priv
    | _ => none
  ofInt_toInt e := by cases e <;> rfl
  isInt32_toInt e := by cases e <;> decide

def Visiblity.enumType : EnumType Visiblity where
  toInt
    | .listed => 3
    | .unlisted => 4
  ofInt
    | 3 => some .listed
    | 4 => some .unlisted
    | _ => none
  ofInt_toInt e := by cases e <;> rfl
  isInt32_toInt e := by cases e <;> decide

def ParticipationRights.enumType : EnumType ParticipationRights where
  toInt
    | .clientOnly => 5
    | .clientServer => 6
  ofInt
    | 5 => some .clientOnly
    | 6 => some .clientServer
    | _ => none
  ofInt_toInt e := by cases e <;> rfl
  isInt32_toInt e := by cases e <;> decide

/-! ### Client to node -/

namespace ClientMessage

def Register.descriptor : Descriptor W Register :=
  .ofTexts
    [ .scalar 1 1 (.string W) (·.username) fun o m => { m with username := o },
      .scalar 2 1 (.string W) (·.password) fun o m => { m with password := o },
      .scalar 3 1 (.string W) (·.publicKey) fun o m => { m with publicKey := o } ]
    {} (by simp [Ascending, Field.scalar])
    (fun _ => by
      rw [mergeFrom_scalar rfl, mergeFrom_scalar rfl, mergeFrom_scalar rfl, mergeFrom_nil])
    (by simp [Field.scalar, ScalarType.string])

def CookieOnly.descriptor : Descriptor W CookieOnly :=
  .ofTexts
    [ .scalar 1 1 (.string W) (·.cookie) fun o m => { m with cookie := o } ]
    {} (by simp [Ascending, Field.scalar])
    (fun _ => by
      rw [mergeFrom_scalar rfl, mergeFrom_nil])
    (by simp [Field.scalar, ScalarType.string])

def Unregister.descriptor : Descriptor W Unregister := CookieOnly.descriptor W
def Logout.descriptor : Descriptor W Logout := CookieOnly.descriptor W
def ListNetworks.descriptor : Descriptor W ListNetworks := CookieOnly.descriptor W
def ListMyNetworks.descriptor : Descriptor W ListMyNetworks := CookieOnly.descriptor W

def Login.descriptor : Descriptor W Login :=
  .ofTexts
    [ .scalar 1 1 (.string W) (·.username) fun o m => { m with username := o },
      .scalar 2 1 (.string W) (·.password) fun o m => { m with password := o } ]
    {} (by simp [Ascending, Field.scalar])
    (fun _ => by
      rw [mergeFrom_scalar rfl, mergeFrom_scalar rfl, mergeFrom_nil])
    (by simp [Field.scalar, ScalarType.string])

def ListServers.descriptor : Descriptor W ListServers :=
  .ofTexts
    [ .scalar 1 1 (.string W) (·.cookie) fun o m => { m with cookie := o },
      .scalar 2 1 (.string W) (·.networkName) fun o m => { m with networkName := o } ]
    {} (by simp [Ascending, Field.scalar])
    (fun _ => by
      rw [mergeFrom_scalar rfl, mergeFrom_scalar rfl, mergeFrom_nil])
    (by simp [Field.scalar, ScalarType.string])

def CreateNetwork.descriptor : Descriptor W CreateNetwork :=
  .ofTexts
    [ .scalar 1 1 (.string W) (·.cookie) fun o m => { m with cookie := o },
      .scalar 2 1 (.string W) (·.networkName) fun o m => { m with networkName := o },
      .scalar 3 1 (.enum W AccessRights.enumType) (·.accessRights) fun o m => { m with accessRights := o },
      .scalar 4 1 (.enum W Visiblity.enumType) (·.visibility) fun o m => { m with visibility := o },
      .scalar 5 1 (.enum W ParticipationRights.enumType) (·.participationRights) fun o m =>
        { m with participationRights := o },
      .scalar 6 1 (.string W) (·.creatorEmail) fun o m => { m with creatorEmail := o },
      .scalar 7 1 (.string W) (·.protocolName) fun o m => { m with protocolName := o } ]
    {} (by simp [Ascending, Field.scalar])
    (fun _ => by
      rw [mergeFrom_scalar rfl, mergeFrom_scalar rfl, mergeFrom_scalar rfl, mergeFrom_scalar rfl,
        mergeFrom_scalar rfl, mergeFrom_scalar rfl, mergeFrom_scalar rfl, mergeFrom_nil])
    (by simp [Field.scalar, ScalarType.string, ScalarType.enum])

def DeleteNetwork.descriptor : Descriptor W DeleteNetwork :=
  .ofTexts
    [ .scalar 1 1 (.string W) (·.cookie) fun o m => { m with cookie := o },
      .scalar 2 1 (.string W) (·.name) fun o m => { m with name := o } ]
    {} (by simp [Ascending, Field.scalar])
    (fun _ => by
      rw [mergeFrom_scalar rfl, mergeFrom_scalar rfl, mergeFrom_nil])
    (by simp [Field.scalar, ScalarType.string])

def UserOfNetwork.descriptor : Descriptor W UserOfNetwork :=
  .ofTexts
    [ .scalar 1 1 (.string W) (·.cookie) fun o m => { m with cookie := o },
      .scalar 2 1 (.string W) (·.username) fun o m => { m with username := o },
      .scalar 3 1 (.string W) (·.networkName) fun o m => { m with networkName := o } ]
    {} (by simp [Ascending, Field.scalar])
    (fun _ => by
      rw [mergeFrom_scalar rfl, mergeFrom_scalar rfl, mergeFrom_scalar rfl, mergeFrom_nil])
    (by simp [Field.scalar, ScalarType.string])

def InviteUser.descriptor : Descriptor W InviteUser := UserOfNetwork.descriptor W
def RemoveUser.descriptor : Descriptor W RemoveUser := UserOfNetwork.descriptor W
def UserInfo.descriptor : Descriptor W UserInfo := UserOfNetwork.descriptor W

def UpdateServer.InRange (m : UpdateServer) : Prop := ∀ port ∈ m.portNumber, IsInt32 port

def UpdateServer.descriptor : Descriptor W UpdateServer where
  fields :=
    [ .scalar 1 1 (.string W) (·.cookie) fun o m => { m with cookie := o },
      .scalar 2 1 (.string W) (·.networkName) fun o m => { m with networkName := o },
      .scalar 3 1 (.int32 W) (·.portNumber) fun o m => { m with portNumber := o } ]
  empty := {}
  InRange := UpdateServer.InRange
  ascending := by simp [Ascending, Field.scalar]
  mergeFrom_empty _ := by
    rw [mergeFrom_scalar rfl, mergeFrom_scalar rfl, mergeFrom_scalar rfl, mergeFrom_nil]
  inRange_empty := nofun
  inRange_values hm := by
    simp only [List.forall_mem_cons]
    refine ⟨fun _ _ => trivial, fun _ _ => trivial, fun v hv => ?_, nofun⟩
    exact hm v (Option.mem_toList.1 hv)
  inRange_read := by
    simp only [List.forall_mem_cons]
    refine ⟨Field.keeps_scalar fun _ _ _ hm => hm, Field.keeps_scalar fun _ _ _ hm => hm,
      Field.keeps_scalar fun v _ hv _ => ?_, nofun⟩
    rintro port ⟨⟩
    exact hv

def StopServer.descriptor : Descriptor W StopServer :=
  .ofTexts
    [ .scalar 1 1 (.string W) (·.cookie) fun o m => { m with cookie := o },
      .scalar 2 1 (.string W) (·.networkName) fun o m => { m with networkName := o } ]
    {} (by simp [Ascending, Field.scalar])
    (fun _ => by
      rw [mergeFrom_scalar rfl, mergeFrom_scalar rfl, mergeFrom_nil])
    (by simp [Field.scalar, ScalarType.string])

def SignKey.descriptor : Descriptor W SignKey :=
  .ofTexts
    [ .scalar 1 1 (.string W) (·.cookie) fun o m => { m with cookie := o },
      .scalar 2 1 (.string W) (·.publicKey) fun o m => { m with publicKey := o },
      .scalar 3 1 (.string W) (·.networkName) fun o m => { m with networkName := o } ]
    {} (by simp [Ascending, Field.scalar])
    (fun _ => by
      rw [mergeFrom_scalar rfl, mergeFrom_scalar rfl, mergeFrom_scalar rfl, mergeFrom_nil])
    (by simp [Field.scalar, ScalarType.string])

def ChangePassword.descriptor : Descriptor W ChangePassword :=
  .ofTexts
    [ .scalar 1 1 (.string W) (·.cookie) fun o m => { m with cookie := o },
      .scalar 2 1 (.string W) (·.oldPassword) fun o m => { m with oldPassword := o },
      .scalar 3 1 (.string W) (·.newPassword) fun o m => { m with newPassword := o } ]
    {} (by simp [Ascending, Field.scalar])
    (fun _ => by
      rw [mergeFrom_scalar rfl, mergeFrom_scalar rfl, mergeFrom_scalar rfl, mergeFrom_nil])
    (by simp [Field.scalar, ScalarType.string])

/-- The port is the only integer of a request. -/
def InRange (m : ClientMessage) : Prop := ∀ u ∈ m.updateServerMessage, u.InRange

/-- Another message than `UpdateServer` has no integers. -/
theorem keeps_inRange {N : Type} {d : Descriptor W N} {number tagSize : Nat}
    {get : ClientMessage → Option N} {put : Option N → ClientMessage → ClientMessage}
    {h : TagSize number tagSize} (hd : ∀ v, d.InRange v)
    (hput : ∀ o m, (put o m).updateServerMessage = m.updateServerMessage) :
    (Field.message number tagSize d get put h).Keeps InRange := by
  refine Field.keeps_message (fun _ _ v _ => hd v) fun v m _ hm => ?_
  rw [InRange, hput]
  exact hm

def descriptor : Descriptor W ClientMessage where
  fields :=
    [ .scalar 1 1 (.enum W RequestType.enumType) (·.request) fun o m => { m with request := o },
      .message 2 1 (Register.descriptor W) (·.registerMessage) fun o m => { m with registerMessage := o },
      .message 3 1 (Unregister.descriptor W) (·.unregisterMessage) fun o m =>
        { m with unregisterMessage := o },
      .message 4 1 (Login.descriptor W) (·.loginMessage) fun o m => { m with loginMessage := o },
      .message 5 1 (Logout.descriptor W) (·.logoutMessage) fun o m => { m with logoutMessage := o },
      .message 6 1 (ListNetworks.descriptor W) (·.listNetworksMessage) fun o m =>
        { m with listNetworksMessage := o },
      .message 7 1 (ListMyNetworks.descriptor W) (·.listMyNetworksMessage) fun o m =>
        { m with listMyNetworksMessage := o },
      .message 8 1 (ListServers.descriptor W) (·.listServersMessage) fun o m =>
        { m with listServersMessage := o },
      .message 9 1 (CreateNetwork.descriptor W) (·.createNetworkMessage) fun o m =>
        { m with createNetworkMessage := o },
      .message 10 1 (DeleteNetwork.descriptor W) (·.deleteNetworkMessage) fun o m =>
        { m with deleteNetworkMessage := o },
      .message 11 1 (InviteUser.descriptor W) (·.inviteUserMessage) fun o m =>
        { m with inviteUserMessage := o },
      .message 12 1 (RemoveUser.descriptor W) (·.removeUserMessage) fun o m =>
        { m with removeUserMessage := o },
      .message 13 1 (UserInfo.descriptor W) (·.userInfoMessage) fun o m => { m with userInfoMessage := o },
      .message 14 1 (UpdateServer.descriptor W) (·.updateServerMessage) fun o m =>
        { m with updateServerMessage := o },
      .message 15 1 (StopServer.descriptor W) (·.stopServerMessage) fun o m =>
        { m with stopServerMessage := o },
      .message 16 2 (SignKey.descriptor W) (·.signKeyMessage) fun o m => { m with signKeyMessage := o },
      .message 17 2 (ChangePassword.descriptor W) (·.changePasswordMessage) fun o m =>
        { m with changePasswordMessage := o } ]
  empty := {}
  InRange := InRange
  ascending := by simp [Ascending, Field.scalar, Field.message]
  mergeFrom_empty _ := by
    rw [mergeFrom_scalar rfl]
    iterate 16 rw [mergeFrom_message rfl rfl]
    rfl
  inRange_empty := nofun
  inRange_values hm := by
    simp only [List.forall_mem_cons]
    refine ⟨fun _ _ => trivial, fun _ _ => trivial, fun _ _ => trivial, fun _ _ => trivial,
      fun _ _ => trivial, fun _ _ => trivial, fun _ _ => trivial, fun _ _ => trivial,
      fun _ _ => trivial, fun _ _ => trivial, fun _ _ => trivial, fun _ _ => trivial,
      fun _ _ => trivial, fun v hv => ?_, fun _ _ => trivial, fun _ _ => trivial,
      fun _ _ => trivial, nofun⟩
    exact hm v (Option.mem_toList.1 hv)
  inRange_read := by
    simp only [List.forall_mem_cons]
    refine ⟨Field.keeps_scalar fun _ _ _ hm => hm, ?_, ?_, ?_, ?_, ?_, ?_, ?_, ?_, ?_, ?_, ?_, ?_,
      Field.keeps_message (fun _ hm => hm) (fun u _ hu _ => ?_), ?_, ?_, ?_, nofun⟩
    case refine_13 =>
      rintro u' ⟨⟩
      exact hu
    all_goals exact keeps_inRange W (fun _ => trivial) fun _ _ => rfl

end ClientMessage

/-! ### Node to client -/

namespace NodeMessage

def Register.descriptor : Descriptor W Register :=
  .ofTexts
    [ .scalar 1 1 (.string W) (·.userCertificate) fun o m => { m with userCertificate := o },
      .scalar 2 1 (.string W) (·.nodeCertificate) fun o m => { m with nodeCertificate := o } ]
    {} (by simp [Ascending, Field.scalar])
    (fun _ => by
      rw [mergeFrom_scalar rfl, mergeFrom_scalar rfl, mergeFrom_nil])
    (by simp [Field.scalar, ScalarType.string])

def Login.descriptor : Descriptor W Login :=
  .ofTexts
    [ .scalar 1 1 (.string W) (·.cookie) fun o m => { m with cookie := o },
      .scalar 2 1 (.string W) (·.nodeCertificate) fun o m => { m with nodeCertificate := o } ]
    {} (by simp [Ascending, Field.scalar])
    (fun _ => by
      rw [mergeFrom_scalar rfl, mergeFrom_scalar rfl, mergeFrom_nil])
    (by simp [Field.scalar, ScalarType.string])

def Network.descriptor : Descriptor W Network :=
  .ofTexts
    [ .scalar 1 1 (.string W) (·.name) fun o m => { m with name := o },
      .scalar 2 1 (.string W) (·.creatorName) fun o m => { m with creatorName := o },
      .scalar 3 1 (.string W) (·.creatorEmail) fun o m => { m with creatorEmail := o },
      .scalar 4 1 (.enum W AccessRights.enumType) (·.accessRights) fun o m => { m with accessRights := o },
      .scalar 5 1 (.enum W ParticipationRights.enumType) (·.participationRights) fun o m =>
        { m with participationRights := o },
      .scalar 6 1 (.string W) (·.protocolName) fun o m => { m with protocolName := o } ]
    {} (by simp [Ascending, Field.scalar])
    (fun _ => by
      rw [mergeFrom_scalar rfl, mergeFrom_scalar rfl, mergeFrom_scalar rfl, mergeFrom_scalar rfl,
        mergeFrom_scalar rfl, mergeFrom_scalar rfl, mergeFrom_nil])
    (by simp [Field.scalar, ScalarType.string, ScalarType.enum])

/-- A list of networks as a message, that of `ListNetworks` and of `ListMyNetworks`. -/
def networkList : Descriptor W (List Network) where
  fields := [.repeatedMessage 1 1 (Network.descriptor W) id fun v l => l ++ [v]]
  empty := []
  InRange _ := True
  ascending := List.pairwise_singleton _ _
  mergeFrom_empty l := by
    rw [mergeFrom_repeatedMessage, mergeFrom_nil]
    simp [← List.flatMap_def]
  inRange_empty := trivial
  inRange_values _ := by
    simp only [List.forall_mem_cons]
    exact ⟨fun _ _ => trivial, nofun⟩
  inRange_read _ _ _ _ _ _ _ _ := trivial

def ListNetworks.descriptor : Descriptor W (List Network) := networkList W
def ListMyNetworks.descriptor : Descriptor W (List Network) := networkList W

def Server.InRange (s : Server) : Prop := ∀ port ∈ s.portNumber, IsInt32 port

def Server.descriptor : Descriptor W Server where
  fields :=
    [ .scalar 1 1 (.string W) (·.username) fun o m => { m with username := o },
      .scalar 2 1 (.string W) (·.ipAddress) fun o m => { m with ipAddress := o },
      .scalar 3 1 (.int32 W) (·.portNumber) fun o m => { m with portNumber := o } ]
  empty := {}
  InRange := Server.InRange
  ascending := by simp [Ascending, Field.scalar]
  mergeFrom_empty _ := by
    rw [mergeFrom_scalar rfl, mergeFrom_scalar rfl, mergeFrom_scalar rfl, mergeFrom_nil]
  inRange_empty := nofun
  inRange_values hm := by
    simp only [List.forall_mem_cons]
    refine ⟨fun _ _ => trivial, fun _ _ => trivial, fun v hv => ?_, nofun⟩
    exact hm v (Option.mem_toList.1 hv)
  inRange_read := by
    simp only [List.forall_mem_cons]
    refine ⟨Field.keeps_scalar fun _ _ _ hm => hm, Field.keeps_scalar fun _ _ _ hm => hm,
      Field.keeps_scalar fun v _ hv _ => ?_, nofun⟩
    rintro port ⟨⟩
    exact hv

def ListServers.descriptor : Descriptor W (List Server) where
  fields := [.repeatedMessage 1 1 (Server.descriptor W) id fun v l => l ++ [v]]
  empty := []
  InRange l := ∀ s ∈ l, s.InRange
  ascending := List.pairwise_singleton _ _
  mergeFrom_empty l := by
    rw [mergeFrom_repeatedMessage, mergeFrom_nil]
    simp [← List.flatMap_def]
  inRange_empty := nofun
  inRange_values hm := by
    simp only [List.forall_mem_cons]
    exact ⟨hm, nofun⟩
  inRange_read := by
    simp only [List.forall_mem_cons]
    refine ⟨Field.keeps_repeatedMessage fun v l hv hl s hs => ?_, nofun⟩
    rcases List.mem_append.1 hs with hold | hnew
    · exact hl s hold
    · rw [List.mem_singleton.1 hnew]
      exact hv

def UserInfo.descriptor : Descriptor W UserInfo :=
  .ofTexts
    [ .scalar 1 1 (.string W) (·.userPublicKey) fun o m => { m with userPublicKey := o } ]
    {} (by simp [Ascending, Field.scalar])
    (fun _ => by
      rw [mergeFrom_scalar rfl, mergeFrom_nil])
    (by simp [Field.scalar, ScalarType.string])

def UpdateServer.InRange (m : UpdateServer) : Prop := ∀ seconds ∈ m.secondsToUpdate, IsInt32 seconds

def UpdateServer.descriptor : Descriptor W UpdateServer where
  fields := [.scalar 1 1 (.int32 W) (·.secondsToUpdate) fun o _ => { secondsToUpdate := o }]
  empty := {}
  InRange := UpdateServer.InRange
  ascending := List.pairwise_singleton _ _
  mergeFrom_empty _ := by
    rw [mergeFrom_scalar rfl, mergeFrom_nil]
  inRange_empty := nofun
  inRange_values hm := by
    simp only [List.forall_mem_cons]
    refine ⟨fun v hv => ?_, nofun⟩
    exact hm v (Option.mem_toList.1 hv)
  inRange_read := by
    simp only [List.forall_mem_cons]
    refine ⟨Field.keeps_scalar fun v _ hv _ => ?_, nofun⟩
    rintro seconds ⟨⟩
    exact hv

def SignKey.descriptor : Descriptor W SignKey :=
  .ofTexts
    [ .scalar 1 1 (.string W) (·.userCertificate) fun o m => { m with userCertificate := o } ]
    {} (by simp [Ascending, Field.scalar])
    (fun _ => by
      rw [mergeFrom_scalar rfl, mergeFrom_nil])
    (by simp [Field.scalar, ScalarType.string])

/-- The ports of the servers and the seconds to the next update. -/
structure InRange (m : NodeMessage) : Prop where
  servers : ∀ l ∈ m.listServersResponse, ∀ s ∈ l, s.InRange
  update : ∀ u ∈ m.updateServerResponse, u.InRange

/-- Another message than `ListServers` and `UpdateServer` has no integers. -/
theorem keeps_inRange {N : Type} {d : Descriptor W N} {number tagSize : Nat}
    {get : NodeMessage → Option N} {put : Option N → NodeMessage → NodeMessage}
    {h : TagSize number tagSize} (hd : ∀ v, d.InRange v)
    (hservers : ∀ o m, (put o m).listServersResponse = m.listServersResponse)
    (hupdate : ∀ o m, (put o m).updateServerResponse = m.updateServerResponse) :
    (Field.message number tagSize d get put h).Keeps InRange := by
  refine Field.keeps_message (fun _ _ v _ => hd v) fun v m _ hm => ⟨?_, ?_⟩
  · rw [hservers]
    exact hm.servers
  · rw [hupdate]
    exact hm.update

def descriptor : Descriptor W NodeMessage where
  fields :=
    [ .scalar 1 1 (.enum W ResponseType.enumType) (·.responseType) fun o m => { m with responseType := o },
      .message 2 1 (Register.descriptor W) (·.registerResponse) fun o m => { m with registerResponse := o },
      .message 3 1 (Login.descriptor W) (·.loginResponse) fun o m => { m with loginResponse := o },
      .message 5 1 (ListNetworks.descriptor W) (·.listNetworksResponse) fun o m =>
        { m with listNetworksResponse := o },
      .message 6 1 (ListMyNetworks.descriptor W) (·.listMyNetworksResponse) fun o m =>
        { m with listMyNetworksResponse := o },
      .message 7 1 (ListServers.descriptor W) (·.listServersResponse) fun o m =>
        { m with listServersResponse := o },
      .message 13 1 (UserInfo.descriptor W) (·.userInfoResponse) fun o m => { m with userInfoResponse := o },
      .message 14 1 (UpdateServer.descriptor W) (·.updateServerResponse) fun o m =>
        { m with updateServerResponse := o },
      .message 16 2 (SignKey.descriptor W) (·.signKeyResponse) fun o m => { m with signKeyResponse := o } ]
  empty := {}
  InRange := InRange
  ascending := by simp [Ascending, Field.scalar, Field.message]
  mergeFrom_empty _ := by
    rw [mergeFrom_scalar rfl]
    iterate 8 rw [mergeFrom_message rfl rfl]
    rfl
  inRange_empty := ⟨nofun, nofun⟩
  inRange_values hm := by
    simp only [List.forall_mem_cons]
    refine ⟨fun _ _ => trivial, fun _ _ => trivial, fun _ _ => trivial, fun _ _ => trivial,
      fun _ _ => trivial, fun v hv => ?_, fun _ _ => trivial, fun v hv => ?_, fun _ _ => trivial,
      nofun⟩
    · exact hm.servers v (Option.mem_toList.1 hv)
    · exact hm.update v (Option.mem_toList.1 hv)
  inRange_read := by
    simp only [List.forall_mem_cons]
    refine ⟨Field.keeps_scalar fun _ _ _ hm => ⟨hm.servers, hm.update⟩, ?_, ?_, ?_, ?_,
      Field.keeps_message (fun _ hm => hm.servers) (fun l _ hl hm => ⟨?_, hm.update⟩), ?_,
      Field.keeps_message (fun _ hm => hm.update) (fun u _ hu hm => ⟨hm.servers, ?_⟩), ?_, nofun⟩
    case refine_5 =>
      rintro l' ⟨⟩
      exact hl
    case refine_7 =>
      rintro u' ⟨⟩
      exact hu
    all_goals exact keeps_inRange W (fun _ => trivial) (fun _ _ => rfl) fun _ _ => rfl

end NodeMessage

end Sp2p.Protocol
