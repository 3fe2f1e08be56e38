import Sp2p.Protocol
import Sp2p.Sercli.Manager

/-!
# Messages and descriptions

`message_factory.cpp`: the requests a node sends, from the descriptions the client works with, and
the descriptions it makes of the entries in a reply. `Node` hands the entries of a reply on one by
one, in their order.
-/

namespace Sp2p.Sercli

open Protocol NetworkDescription

/-- An address is its text. There is no port in a description. -/
structure ServerDescription where
  relatedUser : String
  relatedNetwork : String
  ipAddres : String
  deriving DecidableEq

/-- The port a description gives. -/
def ServerDescription.portNumber (_ : ServerDescription) : Option Int := none

/-! ### Requests -/

def getListNetworksMessage (cookie : String) : ClientMessage where
  request := some .listNetworks
  listNetworksMessage := some ⟨some cookie⟩

def getListMyNetworksMessage (cookie : String) : ClientMessage where
  request := some .listMyNetworks
  listMyNetworksMessage := some ⟨some cookie⟩

def getListServersMessage (networkDesc : NetworkDescription) (cookie : String) : ClientMessage where
  request := some .listServers
  listServersMessage := some ⟨some cookie, some networkDesc.networkName⟩

def getCreateNetworkMessage (networkDesc : NetworkDescription) (cookie : String) :
    ClientMessage where
  request := some .createNetwork
  createNetworkMessage := some {
    cookie := some cookie
    creatorEmail := some networkDesc.creator.email
    networkName := some networkDesc.networkName
    protocolName := some networkDesc.protocolName
    accessRights := some (match networkDesc.accessRights with
      | .PRIVATE => .priv
      | .PUBLIC => .pub)
    participationRights := some (match networkDesc.participationRights with
      | .CLIENT_ONLY => .clientOnly
      | .CLIENT_SERVER => .clientServer)
    visibility := some (match networkDesc.visability with
      | .LISTED => .listed
      | .UNLISTED => .unlisted) }

def getLoginMessage (username password : String) : ClientMessage where
  request := some .login
  loginMessage := some ⟨some username, some password⟩

def getLogoutMessage (cookie : String) : ClientMessage where
  request := some .logout
  logoutMessage := some ⟨some cookie⟩

def getRegisterUserMessage (myUser : MyUser) (pkcs10Request : String) : ClientMessage where
  request := some .register
  registerMessage := some ⟨some myUser.username, some myUser.password, some pkcs10Request⟩

/-- The old password is the one that the node has. -/
def getChangePasswordMessage (myUser : MyUser) (newPassword cookie : String) : ClientMessage where
  request := some .changePassword
  changePasswordMessage := some {
    cookie := some cookie
    oldPassword := some myUser.password
    newPassword := some newPassword }

def getDeleteNetworkMessage (networkDesc : NetworkDescription) (cookie : String) : ClientMessage where
  request := some .deleteNetwork
  deleteNetworkMessage := some ⟨some cookie, some networkDesc.networkName⟩

def getInviteUserMessage (networkDesc : NetworkDescription) (user : User) (cookie : String) :
    ClientMessage where
  request := some .inviteUser
  inviteUserMessage := some ⟨some cookie, some user.username, some networkDesc.networkName⟩

def getUpdateServerMessage (networkDesc : NetworkDescription) (port : Int) (cookie : String) :
    ClientMessage where
  request := some .updateServer
  updateServerMessage := some ⟨some cookie, some networkDesc.networkName, some port⟩

def getStopServerMessage (networkDesc : NetworkDescription) (cookie : String) : ClientMessage where
  request := some .stopServer
  stopServerMessage := some ⟨some cookie, some networkDesc.networkName⟩

def getUserInfoMessage (networkDesc : NetworkDescription) (username cookie : String) :
    ClientMessage where
  request := some .userInfo
  userInfoMessage := some ⟨some cookie, some username, some networkDesc.networkName⟩

def getSignKeyMessage (pkcs10Request : String) (networkDesc : Option NetworkDescription)
    (cookie : String) : ClientMessage where
  request := some .signKey
  signKeyMessage := some ⟨some cookie, some pkcs10Request, networkDesc.map (·.networkName)⟩

/-- `Botan::X509_Cert_Options`, as far as it is set. -/
structure X509CertOptions where
  commonName : String
  email : String
  organization : String
  orgUnit : String
  country : String

/-- What `Node::signKey` sends once it is past `beforeMessage` and has a private key; `pem` is the
request Botan makes of the options. `none` is the null pointer it dereferences. -/
def Node.signKeyRequest (node : Node) (pem : X509CertOptions → String)
    (networkDesc : Option NetworkDescription) (cookie : String) : Option ClientMessage := do
  let desc ← networkDesc
  let opts : X509CertOptions :=
    { commonName := node.myUser.username
      email := node.myUser.email
      organization := node.nodeDesc.nodeName
      orgUnit := desc.networkName
      country := "Pl" }
  return getSignKeyMessage (pem opts) networkDesc cookie

/-! ### Replies -/

/-- Nothing assigns `visability`; it is whatever was there. The creator's name goes into both fields
of `User`. -/
def getNetworkDescriptionFromProto (visability : Visibility) (network : NodeMessage.Network) :
    NetworkDescription where
  networkName := network.name.getD ""
  creator := ⟨network.creatorName.getD "", network.creatorName.getD ""⟩
  protocolName := network.protocolName.getD ""
  participationRights := match network.participationRights.getD .clientOnly with
    | .clientOnly => .CLIENT_ONLY
    | .clientServer => .CLIENT_SERVER
  accessRights := match network.accessRights.getD .pub with
    | .pub => .PUBLIC
    | .priv => .PRIVATE
  visability

def getServerDescriptionFromProto (server : NodeMessage.Server) (networkDesc : NetworkDescription) :
    ServerDescription where
  relatedUser := server.username.getD ""
  relatedNetwork := networkDesc.networkName
  ipAddres := server.ipAddress.getD ""

/-- The list in the result of `Node::getServersList`, from the reply. -/
def serversOfReply (networkDesc : NetworkDescription) (response : NodeMessage) :
    List ServerDescription :=
  (response.listServersResponse.getD []).map fun server =>
    getServerDescriptionFromProto server networkDesc

/-- The lists in the results of `Node::getNetworksList` and `Node::getMyNetworks`; `visability` is
what each description happens to hold. -/
def networksOfReply (visability : Nat → Visibility) (response : NodeMessage) :
    List NetworkDescription :=
  (response.listNetworksResponse.getD []).mapIdx fun i network =>
    getNetworkDescriptionFromProto (visability i) network

def myNetworksOfReply (visability : Nat → Visibility) (response : NodeMessage) :
    List NetworkDescription :=
  (response.listMyNetworksResponse.getD []).mapIdx fun i network =>
    getNetworkDescriptionFromProto (visability i) network

end Sp2p.Sercli
