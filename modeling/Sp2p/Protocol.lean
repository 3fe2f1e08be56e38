import Mathlib.Logic.Basic

/-!
# The protocol messages

`ClientMessage` and `NodeMessage` of `sp2p_protocol.proto`, as the generated classes hold them: every
field is present or absent, whether or not the file calls it required. A getter of an absent field
gives the field's default (`getD`), and `isInitialized` says that no required field is missing,
which is what `ParseFromIstream` demands of the bytes it accepts.
-/

namespace Sp2p.Protocol

inductive RequestType
  | register | unregister | login | logout | listNetworks | listMyNetworks | listServers
  | createNetwork | deleteNetwork | inviteUser | removeUser | userInfo | updateServer | stopServer
  | signKey | changePassword
  deriving DecidableEq, Repr

inductive ResponseType
  | ok | internalServerError | badRequest | noPrivilages | notLogged | badCredentials | noSuchUser
  | noSuchNetwork | badData | alreadyExists
  deriving DecidableEq, Repr

inductive AccessRights
  | pub | priv
  deriving DecidableEq, Repr

inductive Visiblity
  | listed | unlisted
  deriving DecidableEq, Repr

inductive ParticipationRights
  | clientOnly | clientServer
  deriving DecidableEq, Repr

/-! ### Client to node -/

namespace ClientMessage

structure Register where
  username : Option String := none
  password : Option String := none
  publicKey : Option String := none
  deriving DecidableEq, Repr

structure Login where
  username : Option String := none
  password : Option String := none
  deriving DecidableEq, Repr

/-- The messages with a cookie and nothing else: `Unregister`, `Logout`, `ListNetworks` and
`ListMyNetworks`. -/
structure CookieOnly where
  cookie : Option String := none
  deriving DecidableEq, Repr

abbrev Unregister := CookieOnly
abbrev Logout := CookieOnly
abbrev ListNetworks := CookieOnly
abbrev ListMyNetworks := CookieOnly

structure ListServers where
  cookie : Option String := none
  networkName : Option String := none
  deriving DecidableEq, Repr

structure CreateNetwork where
  cookie : Option String := none
  networkName : Option String := none
  accessRights : Option AccessRights := none
  visibility : Option Visiblity := none
  participationRights : Option ParticipationRights := none
  creatorEmail : Option String := none
  protocolName : Option String := none
  deriving DecidableEq, Repr

structure DeleteNetwork where
  cookie : Option String := none
  name : Option String := none
  deriving DecidableEq, Repr

/-- The messages naming a user of a network: `InviteUser`, `RemoveUser` and `UserInfo`. -/
structure UserOfNetwork where
  cookie : Option String := none
  username : Option String := none
  networkName : Option String := none
  deriving DecidableEq, Repr

abbrev InviteUser := UserOfNetwork
abbrev RemoveUser := UserOfNetwork
abbrev UserInfo := UserOfNetwork

structure UpdateServer where
  cookie : Option String := none
  networkName : Option String := none
  portNumber : Option Int := none
  deriving DecidableEq, Repr

structure StopServer where
  cookie : Option String := none
  networkName : Option String := none
  deriving DecidableEq, Repr

structure SignKey where
  cookie : Option String := none
  publicKey : Option String := none
  networkName : Option String := none
  deriving DecidableEq, Repr

structure ChangePassword where
  cookie : Option String := none
  oldPassword : Option String := none
  newPassword : Option String := none
  deriving DecidableEq, Repr

end ClientMessage

structure ClientMessage where
  request : Option RequestType := none
  registerMessage : Option ClientMessage.Register := none
  unregisterMessage : Option ClientMessage.Unregister := none
  loginMessage : Option ClientMessage.Login := none
  logoutMessage : Option ClientMessage.Logout := none
  listNetworksMessage : Option ClientMessage.ListNetworks := none
  listMyNetworksMessage : Option ClientMessage.ListMyNetworks := none
  listServersMessage : Option ClientMessage.ListServers := none
  createNetworkMessage : Option ClientMessage.CreateNetwork := none
  deleteNetworkMessage : Option ClientMessage.DeleteNetwork := none
  inviteUserMessage : Option ClientMessage.InviteUser := none
  removeUserMessage : Option ClientMessage.RemoveUser := none
  userInfoMessage : Option ClientMessage.UserInfo := none
  updateServerMessage : Option ClientMessage.UpdateServer := none
  stopServerMessage : Option ClientMessage.StopServer := none
  signKeyMessage : Option ClientMessage.SignKey := none
  changePasswordMessage : Option ClientMessage.ChangePassword := none
  deriving DecidableEq, Repr

namespace ClientMessage

/-- `request()`: the first enumerator when the field is absent. -/
def requestType (m : ClientMessage) : RequestType := m.request.getD .register

/-- No required field is missing, in the message or in a sub-message that is present. -/
def isInitialized (m : ClientMessage) : Bool :=
  m.request.isSome &&
  m.registerMessage.all (fun r => r.username.isSome && r.password.isSome && r.publicKey.isSome) &&
  m.unregisterMessage.all (·.cookie.isSome) &&
  m.loginMessage.all (fun r => r.username.isSome && r.password.isSome) &&
  m.logoutMessage.all (·.cookie.isSome) &&
  m.listNetworksMessage.all (·.cookie.isSome) &&
  m.listMyNetworksMessage.all (·.cookie.isSome) &&
  m.listServersMessage.all (fun r => r.cookie.isSome && r.networkName.isSome) &&
  m.createNetworkMessage.all (fun r => r.cookie.isSome && r.networkName.isSome &&
    r.accessRights.isSome && r.visibility.isSome && r.participationRights.isSome) &&
  m.deleteNetworkMessage.all (fun r => r.cookie.isSome && r.name.isSome) &&
  m.inviteUserMessage.all (fun r => r.cookie.isSome && r.username.isSome && r.networkName.isSome) &&
  m.removeUserMessage.all (fun r => r.cookie.isSome && r.username.isSome && r.networkName.isSome) &&
  m.userInfoMessage.all (fun r => r.cookie.isSome && r.username.isSome && r.networkName.isSome) &&
  m.updateServerMessage.all (fun r => r.cookie.isSome && r.networkName.isSome &&
    r.portNumber.isSome) &&
  m.stopServerMessage.all (fun r => r.cookie.isSome && r.networkName.isSome) &&
  m.signKeyMessage.all (fun r => r.cookie.isSome && r.publicKey.isSome) &&
  m.changePasswordMessage.all (fun r => r.cookie.isSome && r.oldPassword.isSome)

/-- The cookie in the sub-message belonging to the request type: `none` when that sub-message is
absent, and for REGISTER and LOGIN, which carry none. -/
def cookie (m : ClientMessage) : Option String :=
  match m.requestType with
  | .register | .login => none
  | .unregister => m.unregisterMessage.map (·.cookie.getD "")
  | .logout => m.logoutMessage.map (·.cookie.getD "")
  | .listNetworks => m.listNetworksMessage.map (·.cookie.getD "")
  | .listMyNetworks => m.listMyNetworksMessage.map (·.cookie.getD "")
  | .listServers => m.listServersMessage.map (·.cookie.getD "")
  | .createNetwork => m.createNetworkMessage.map (·.cookie.getD "")
  | .deleteNetwork => m.deleteNetworkMessage.map (·.cookie.getD "")
  | .inviteUser => m.inviteUserMessage.map (·.cookie.getD "")
  | .removeUser => m.removeUserMessage.map (·.cookie.getD "")
  | .userInfo => m.userInfoMessage.map (·.cookie.getD "")
  | .updateServer => m.updateServerMessage.map (·.cookie.getD "")
  | .stopServer => m.stopServerMessage.map (·.cookie.getD "")
  | .signKey => m.signKeyMessage.map (·.cookie.getD "")
  | .changePassword => m.changePasswordMessage.map (·.cookie.getD "")

end ClientMessage

/-! ### Node to client -/

namespace NodeMessage

structure Register where
  userCertificate : Option String := none
  nodeCertificate : Option String := none
  deriving DecidableEq, Repr

structure Login where
  cookie : Option String := none
  nodeCertificate : Option String := none
  deriving DecidableEq, Repr

/-- An entry of `ListNetworks` and of `ListMyNetworks`. -/
structure Network where
  name : Option String := none
  creatorName : Option String := none
  creatorEmail : Option String := none
  accessRights : Option AccessRights := none
  participationRights : Option ParticipationRights := none
  protocolName : Option String := none
  deriving DecidableEq, Repr

structure Server where
  username : Option String := none
  ipAddress : Option String := none
  portNumber : Option Int := none
  deriving DecidableEq, Repr

structure UserInfo where
  userPublicKey : Option String := none
  deriving DecidableEq, Repr

structure UpdateServer where
  secondsToUpdate : Option Int := none
  deriving DecidableEq, Repr

structure SignKey where
  userCertificate : Option String := none
  deriving DecidableEq, Repr

def Network.isInitialized (n : Network) : Bool :=
  n.name.isSome && n.creatorName.isSome && n.accessRights.isSome && n.participationRights.isSome

def Server.isInitialized (s : Server) : Bool :=
  s.username.isSome && s.ipAddress.isSome && s.portNumber.isSome

end NodeMessage

structure NodeMessage where
  responseType : Option ResponseType := none
  registerResponse : Option NodeMessage.Register := none
  loginResponse : Option NodeMessage.Login := none
  listNetworksResponse : Option (List NodeMessage.Network) := none
  listMyNetworksResponse : Option (List NodeMessage.Network) := none
  listServersResponse : Option (List NodeMessage.Server) := none
  userInfoResponse : Option NodeMessage.UserInfo := none
  updateServerResponse : Option NodeMessage.UpdateServer := none
  signKeyResponse : Option NodeMessage.SignKey := none
  deriving DecidableEq, Repr

namespace NodeMessage

def isInitialized (m : NodeMessage) : Bool :=
  m.responseType.isSome &&
  m.registerResponse.all (fun r => r.userCertificate.isSome && r.nodeCertificate.isSome) &&
  m.loginResponse.all (·.cookie.isSome) &&
  m.listNetworksResponse.all (·.all Network.isInitialized) &&
  m.listMyNetworksResponse.all (·.all Network.isInitialized) &&
  m.listServersResponse.all (·.all Server.isInitialized) &&
  m.userInfoResponse.all (·.userPublicKey.isSome) &&
  m.updateServerResponse.all (·.secondsToUpdate.isSome) &&
  m.signKeyResponse.all (·.userCertificate.isSome)

/-- The reply says `OK`. -/
def isOk (m : NodeMessage) : Prop := m.responseType = some .ok

instance (m : NodeMessage) : Decidable m.isOk := inferInstanceAs (Decidable (_ = _))

/-- The reply carries this status and none of the data sub-messages. -/
def IsStatus (r : ResponseType) (m : NodeMessage) : Prop := m = { responseType := some r }

end NodeMessage

end Sp2p.Protocol
