import Sp2p.Lib.Framing
import Sp2p.Lib.Interleaving
import Sp2p.Protocol
import Sp2p.Tracker.PsqlConnector
import Sp2p.Tracker.SessionControler

/-!
# The request handlers

`RequestHandler::handleRequest` and its sixteen handlers, as programs over the two objects all pool
threads share: the database connector and the session store. Each call of one of these is atomic
(`Call`, `exec`); everything else a handler does is its own. `handle` runs a request alone.

What a request draws from outside is its `Env`: the failures of its transactions in order, the
string its LOGIN gets from the generator, its clock, Botan, the client's address, and the memory
where `ProtoNetwork::publicity` is never assigned.
-/

namespace Sp2p.Tracker

open Interleaving Protocol
open Framing (toInt32)

/-- The state the requests act on. -/
structure State where
  db : Database
  sessions : SessionControler

/-- The tracker before its first request. -/
def State.empty : State := ⟨Database.empty, SessionControler.empty⟩

/-! ### The shared calls -/

inductive Call
  | getLogin (cookie : String)
  | login (login cookie : String) (now : Int)
  | logout (cookie : String)
  | createUser (fault : Bool) (login password : String)
  | removeUser (fault : Bool) (login : String)
  | changeUserPassword (fault : Bool) (login newPassword : String)
  | userExists (fault : Bool) (login : String)
  | getPassHash (fault : Bool) (login : String)
  | getUserInfo (fault : Bool) (login network : String)
  | addKey (fault : Bool) (login network key : String)
  | createInvitation (fault : Bool) (login networkName : String)
  | createNetwork (fault : Bool) (networkName ownerLogin : String)
      (publicity visible participable : Bool) (creatorMail protocolName : String)
  | deleteNetwork (fault : Bool) (login name : String)
  | getAllNetworks (fault : Bool) (login : String)
  | getUserNetworks (fault : Bool) (login : String)
  | networkExists (fault : Bool) (name : String)
  | canSeeNetwork (fault : Bool) (networkName login : String)
  | canAddServer (fault : Bool) (login networkName : String)
  | updateServer (fault : Bool) (network user ip : String) (port ttl : Int)
  | deleteServer (fault : Bool) (network user : String)
  | getServers (fault : Bool) (networkName : String)

/-- What each call answers. -/
abbrev Call.Ans : Call → Type
  | .getLogin _ | .getPassHash .. | .getUserInfo .. => String
  | .login .. => Unit
  | .logout _ | .userExists .. | .networkExists .. | .canSeeNetwork .. | .canAddServer .. => Bool
  | .getAllNetworks .. | .getUserNetworks .. => List ProtoNetwork
  | .getServers .. => List ProtoServer
  | .createUser .. | .removeUser .. | .changeUserPassword .. | .addKey .. | .createInvitation ..
  | .createNetwork .. | .deleteNetwork .. | .updateServer .. | .deleteServer .. => DBResponse

/-- The calls on the shared objects. -/
abbrev shared : Signature := ⟨Call, Call.Ans⟩

/-- A call of a connector method that writes. -/
def State.write (s : State) (f : Tables → DBResponse × Tables)
    (hf : (f s.db.tables).2.Valid) : DBResponse × State :=
  ((f s.db.tables).1, { s with db := ⟨(f s.db.tables).2, hf⟩ })

open PsqlConnector Tables in
/-- What each call answers, and the state it leaves. -/
def exec : Exec shared State
  | .getLogin cookie, s => (s.sessions.getLogin cookie, s)
  | .login l cookie now, s => ((), { s with sessions := s.sessions.login l cookie now })
  | .logout cookie, s =>
    ((s.sessions.logout cookie).1, { s with sessions := (s.sessions.logout cookie).2 })
  | .createUser fault l pw, s => s.write (createUser fault l pw)
      (valid_work s.db.valid (by decide) fun _ h => s.db.valid.insertUser h)
  | .removeUser fault l, s => s.write (removeUser fault l)
      (valid_work s.db.valid (by decide) fun _ h => by cases h; exact s.db.valid.deleteUser l)
  | .changeUserPassword fault l pw, s => s.write (changeUserPassword fault l pw)
      (valid_work s.db.valid (by decide) fun _ h => s.db.valid.updatePassword h)
  | .userExists fault l, s => (userExists fault l s.db.tables, s)
  | .getPassHash fault l, s => (getPassHash fault l s.db.tables, s)
  | .getUserInfo fault l n, s => (getUserInfo fault l n s.db.tables, s)
  | .addKey fault l n key, s => s.write (addKey fault l n key)
      (valid_work s.db.valid (by decide) fun _ h => s.db.valid.insertKey h)
  | .createInvitation fault l n, s => s.write (createInvitation fault l n)
      (valid_work s.db.valid (by decide) fun _ h => s.db.valid.insertInvitation h)
  | .createNetwork fault n l pub vis part mail proto, s =>
      s.write (createNetwork fault n l pub vis part mail proto)
        (valid_work s.db.valid (by decide) fun _ h => s.db.valid.insertNetwork h)
  | .deleteNetwork fault l n, s => s.write (deleteNetwork fault l n)
      (valid_deleteNetwork s.db.valid fault l n)
  | .getAllNetworks fault l, s => (getAllNetworks fault l s.db.tables, s)
  | .getUserNetworks fault l, s => (getUserNetworks fault l s.db.tables, s)
  | .networkExists fault n, s => (networkExists fault n s.db.tables, s)
  | .canSeeNetwork fault n l, s => (canSeeNetwork fault n l s.db.tables, s)
  | .canAddServer fault l n, s => (canAddServer fault l n s.db.tables, s)
  | .updateServer fault n l ip port ttl, s => s.write (updateServer fault n l ip port ttl)
      (valid_updateServer s.db.valid fault n l ip port ttl)
  | .deleteServer fault n l, s => s.write (deleteServer fault n l)
      (valid_deleteServer s.db.valid fault n l)
  | .getServers fault n, s => (getServers fault n s.db.tables, s)

/-- What one request draws from outside the tracker's state. -/
structure Env where
  /-- Whether the `k`-th transaction of the request fails. -/
  fault : Nat → Bool := fun _ => false
  /-- `getRandomString(COOKIE_LEN)` as this request's LOGIN gets it. -/
  randomString : String := ""
  /-- `currTimeInMS()`. -/
  currTimeInMS : Int := 0
  generateBcrypt : String → String
  checkBcrypt : String → String → Bool
  /-- The PEM text of the certificate for a PKCS10 request; `none` when Botan throws. -/
  signRequest : String → Option String
  nodeCert : String := ""
  /-- `address_.to_string()`. -/
  address : String := ""
  /-- What the never assigned `publicity` of the `k`-th listed network happens to hold. -/
  uninitialized : Nat → Bool := fun _ => false

/-- `utils::signCertyficate`. -/
def Env.signCertyficate (env : Env) (request : String) : String := (env.signRequest request).getD ""

/-- An environment to run requests in: no call fails, a hash is the password behind a prefix, and
every text but the empty one is a PKCS10 request. -/
def Env.sample : Env where
  randomString := "c00kie"
  generateBcrypt pw := "$2a$10$" ++ pw
  checkBcrypt pw hash := hash = "$2a$10$" ++ pw
  signRequest request := if request = "" then none else some "-----BEGIN CERTIFICATE-----"
  address := "10.0.0.1"

/-- `consts::SERVER_TTL`. -/
def SERVER_TTL : Int := 1000 * 60 * 30

/-! ### The replies -/

namespace NodeMessageFactory

def errorMesage (resp : ResponseType) : NodeMessage := { responseType := some resp }

def badRequestMessage : NodeMessage := errorMesage .badRequest

def registerResponse (userCertificate nodeCertificate : String) : NodeMessage where
  responseType := some .ok
  registerResponse := some ⟨some userCertificate, some nodeCertificate⟩

def loginResponse (cookie certificate : String) : NodeMessage where
  responseType := some .ok
  loginResponse := some ⟨some cookie, some certificate⟩

def userInfoResponse (userCertificate : String) : NodeMessage where
  responseType := some .ok
  userInfoResponse := some ⟨some userCertificate⟩

def updateServerResponse (secondsToUpdate : Int) : NodeMessage where
  responseType := some .ok
  updateServerResponse := some ⟨some secondsToUpdate⟩

def signKeyResponse (userCertificate : String) : NodeMessage where
  responseType := some .ok
  signKeyResponse := some ⟨some userCertificate⟩

/-- One entry of `listNetworksResponse` and `listMyNetworksResponse`; `garbage` is read where
`publicity` was never set. -/
def networkEntry (garbage : Bool) (n : ProtoNetwork) : NodeMessage.Network where
  name := some n.name
  creatorEmail := some n.creatorEmail
  creatorName := some n.ownerName
  accessRights := some (if n.publicity.getD garbage then .pub else .priv)
  participationRights := some (if n.participable then .clientServer else .clientOnly)
  protocolName := some n.protocolName

def listNetworksResponse (env : Env) (l : List ProtoNetwork) : NodeMessage where
  responseType := some .ok
  listNetworksResponse := some (l.mapIdx fun i n => networkEntry (env.uninitialized i) n)

def listMyNetworksResponse (env : Env) (l : List ProtoNetwork) : NodeMessage where
  responseType := some .ok
  listMyNetworksResponse := some (l.mapIdx fun i n => networkEntry (env.uninitialized i) n)

/-- The username of an entry is taken from `getNetworkName()`. -/
def serverEntry (s : ProtoServer) : NodeMessage.Server where
  ipAddress := some s.ip
  portNumber := some s.port
  username := some s.networkName

def listServersResponse (l : List ProtoServer) : NodeMessage where
  responseType := some .ok
  listServersResponse := some (l.map serverEntry)

end NodeMessageFactory

/-! ### The handlers -/

open NodeMessageFactory

abbrev Handler := Prog shared NodeMessage

/-- A call of a shared object, inside a handler. -/
abbrev callShared (c : Call) : Prog shared c.Ans := Prog.op (S := shared) c

/-- What a handler answers to a database response other than `OK`; they differ in the answer to
`NOT_FOUND`. -/
def dbError (notFound : ResponseType) : DBResponse → ResponseType
  | .ok => .ok
  | .internalError => .internalServerError
  | .notFound => notFound
  | .notPermited => .noPrivilages
  | .notUnique => .alreadyExists

/-- The rest of a handler after the lookup of the session: `NOT_LOGGED` unless it has a login. -/
def authenticated (cookie : String) (k : String → Handler) : Handler :=
  callShared (.getLogin cookie) >>= fun (login : String) =>
    if login = "" then pure (errorMesage .notLogged) else k login

def goodCredentials (env : Env) (login password : String) : Prog shared Bool :=
  callShared (.getPassHash (env.fault 0) login) >>= fun (hash : String) =>
    pure (env.checkBcrypt password hash)

variable (env : Env) (m : ClientMessage)

def handleRegister : Handler :=
  match m.registerMessage with
  | some ⟨some login, some pass, some publicKey⟩ =>
    callShared (.createUser (env.fault 0) login (env.generateBcrypt pass)) >>= fun (r : DBResponse) =>
      match r with
      | .ok =>
        let signedKey := env.signCertyficate publicKey
        if signedKey = "" then pure (errorMesage .badRequest)
        else pure (registerResponse signedKey env.nodeCert)
      | r => pure (errorMesage (dbError .noSuchUser r))
  | _ => pure badRequestMessage

def handleUnregister : Handler :=
  match m.unregisterMessage with
  | some ⟨some cookie⟩ =>
    authenticated cookie fun login =>
      callShared (.removeUser (env.fault 0) login) >>= fun (r : DBResponse) =>
        pure (errorMesage (dbError .noSuchUser r))
  | _ => pure badRequestMessage

def handleLogin : Handler :=
  match m.loginMessage with
  | some ⟨some login, some pass⟩ =>
    goodCredentials env login pass >>= fun goodPass =>
      if goodPass = false then pure (errorMesage .badCredentials)
      else
        callShared (.login login env.randomString env.currTimeInMS) >>= fun (_ : Unit) =>
          pure (loginResponse env.randomString "notimplementedyet")
  | _ => pure badRequestMessage

def handleLogout : Handler :=
  match m.logoutMessage with
  | some ⟨some cookie⟩ =>
    callShared (.logout cookie) >>= fun (done : Bool) =>
      pure (errorMesage (if done then .ok else .notLogged))
  | _ => pure badRequestMessage

def handleListNetworks : Handler :=
  match m.listNetworksMessage with
  | some ⟨some cookie⟩ =>
    authenticated cookie fun login =>
      callShared (.getAllNetworks (env.fault 0) login) >>= fun (l : List ProtoNetwork) =>
        pure (listNetworksResponse env l)
  | _ => pure badRequestMessage

def handleListMyNetworks : Handler :=
  match m.listMyNetworksMessage with
  | some ⟨some cookie⟩ =>
    authenticated cookie fun login =>
      callShared (.getUserNetworks (env.fault 0) login) >>= fun (l : List ProtoNetwork) =>
        pure (listMyNetworksResponse env l)
  | _ => pure badRequestMessage

def handleListServers : Handler :=
  match m.listServersMessage with
  | some ⟨some cookie, some network⟩ =>
    authenticated cookie fun login =>
      callShared (.networkExists (env.fault 0) network) >>= fun (found : Bool) =>
        if found = false then pure (errorMesage .noSuchNetwork)
        else callShared (.canSeeNetwork (env.fault 1) network login) >>= fun (allowed : Bool) =>
          if allowed = false then pure (errorMesage .noPrivilages)
          else callShared (.getServers (env.fault 2) network) >>= fun (l : List ProtoServer) =>
            pure (listServersResponse l)
  | _ => pure badRequestMessage

def handleCreateNetwork : Handler :=
  match m.createNetworkMessage with
  | some ⟨some cookie, some name, some access, some vis, some part, creatorEmail, protocolName⟩ =>
    authenticated cookie fun login =>
      callShared (.createNetwork (env.fault 0) name login (access = .pub) (vis = .listed)
        (part = .clientServer) (creatorEmail.getD "") (protocolName.getD "")) >>=
        fun (r : DBResponse) =>
          match r with
          | .ok =>
            callShared (.createInvitation (env.fault 1) login name) >>= fun (_ : DBResponse) =>
              pure (errorMesage .ok)
          | r => pure (errorMesage (dbError .noSuchUser r))
  | _ => pure badRequestMessage

def handleDeleteNetwork : Handler :=
  match m.deleteNetworkMessage with
  | some ⟨some cookie, some name⟩ =>
    authenticated cookie fun login =>
      callShared (.networkExists (env.fault 0) name) >>= fun (found : Bool) =>
        if found = false then pure (errorMesage .noSuchNetwork)
        else callShared (.deleteNetwork (env.fault 1) login name) >>= fun (r : DBResponse) =>
          pure (errorMesage (dbError .noSuchNetwork r))
  | _ => pure badRequestMessage

def handleInviteUser : Handler :=
  match m.inviteUserMessage with
  | some ⟨some cookie, some invitedLogin, some network⟩ =>
    authenticated cookie fun _ =>
      callShared (.networkExists (env.fault 0) network) >>= fun (found : Bool) =>
        if found = false then pure (errorMesage .noSuchNetwork)
        else callShared (.userExists (env.fault 1) invitedLogin) >>= fun (known : Bool) =>
          if known = false then pure (errorMesage .noSuchUser)
          else callShared (.createInvitation (env.fault 2) invitedLogin network) >>=
            fun (r : DBResponse) => pure (errorMesage (dbError .noSuchNetwork r))
  | _ => pure badRequestMessage

/-- The session goes whatever the removal answered. -/
def handleRemoveUser : Handler :=
  match m.removeUserMessage with
  | some sub =>
    authenticated (sub.cookie.getD "") fun login =>
      callShared (.removeUser (env.fault 0) login) >>= fun (r : DBResponse) =>
        callShared (.logout (sub.cookie.getD "")) >>= fun (_ : Bool) =>
          pure (errorMesage (dbError .noSuchUser r))
  | none => pure badRequestMessage

def handleUserInfo : Handler :=
  match m.userInfoMessage with
  | some sub =>
    authenticated (sub.cookie.getD "") fun _ =>
      callShared (.userExists (env.fault 0) (sub.username.getD "")) >>= fun (known : Bool) =>
        if known = false then pure (errorMesage .noSuchUser)
        else callShared (.networkExists (env.fault 1) (sub.networkName.getD "")) >>=
          fun (found : Bool) =>
            if found = false then pure (errorMesage .noSuchNetwork)
            else callShared (.getUserInfo (env.fault 2) (sub.username.getD "")
              (sub.networkName.getD "")) >>= fun (key : String) => pure (userInfoResponse key)
  | none => pure badRequestMessage

/-- The sum `currTimeInMS() + SERVER_TTL` is passed as an `int`. -/
def handleUpdateServer : Handler :=
  match m.updateServerMessage with
  | some sub =>
    authenticated (sub.cookie.getD "") fun login =>
      callShared (.networkExists (env.fault 0) (sub.networkName.getD "")) >>= fun (found : Bool) =>
        if found = false then pure (errorMesage .noSuchNetwork)
        else callShared (.canAddServer (env.fault 1) login (sub.networkName.getD "")) >>=
          fun (allowed : Bool) =>
            if allowed = false then pure (errorMesage .noPrivilages)
            else callShared (.updateServer (env.fault 2) (sub.networkName.getD "") login env.address
              (sub.portNumber.getD 0) (toInt32 (env.currTimeInMS + SERVER_TTL))) >>=
              fun (r : DBResponse) =>
                match r with
                | .ok => pure (updateServerResponse SERVER_TTL)
                | r => pure (errorMesage (dbError .noSuchUser r))
  | none => pure badRequestMessage

def handleStopServer : Handler :=
  match m.stopServerMessage with
  | some sub =>
    authenticated (sub.cookie.getD "") fun login =>
      callShared (.networkExists (env.fault 0) (sub.networkName.getD "")) >>= fun (found : Bool) =>
        if found = false then pure (errorMesage .noSuchNetwork)
        else callShared (.deleteServer (env.fault 1) (sub.networkName.getD "") login) >>=
          fun (r : DBResponse) => pure (errorMesage (dbError .badRequest r))
  | none => pure badRequestMessage

/-- The key is stored before the signature is looked at. -/
def handleSignKey : Handler :=
  match m.signKeyMessage with
  | some sub =>
    authenticated (sub.cookie.getD "") fun login =>
      let signedCert := env.signCertyficate (sub.publicKey.getD "")
      callShared (.addKey (env.fault 0) login (sub.networkName.getD "") signedCert) >>=
        fun (r : DBResponse) =>
          if signedCert = "" then pure (errorMesage .badRequest)
          else match r with
            | .ok => pure (signKeyResponse signedCert)
            | r => pure (errorMesage (dbError .noSuchUser r))
  | none => pure (errorMesage .internalServerError)

def handleChangePassword : Handler :=
  match m.changePasswordMessage with
  | some sub =>
    authenticated (sub.cookie.getD "") fun login =>
      goodCredentials env login (sub.oldPassword.getD "") >>= fun good =>
        if good = false then pure (errorMesage .badCredentials)
        else callShared (.changeUserPassword (env.fault 1) login
          (env.generateBcrypt (sub.newPassword.getD ""))) >>= fun (r : DBResponse) =>
            pure (errorMesage (dbError .noSuchUser r))
  | none => pure badRequestMessage

def handleRequest : Handler :=
  match m.requestType with
  | .register => handleRegister env m
  | .unregister => handleUnregister env m
  | .login => handleLogin env m
  | .logout => handleLogout m
  | .listNetworks => handleListNetworks env m
  | .listMyNetworks => handleListMyNetworks env m
  | .listServers => handleListServers env m
  | .createNetwork => handleCreateNetwork env m
  | .deleteNetwork => handleDeleteNetwork env m
  | .inviteUser => handleInviteUser env m
  | .removeUser => handleRemoveUser env m
  | .userInfo => handleUserInfo env m
  | .updateServer => handleUpdateServer env m
  | .stopServer => handleStopServer env m
  | .signKey => handleSignKey env m
  | .changePassword => handleChangePassword env m

/-- The reply to a request handled alone, and the state it leaves. -/
def handle (s : State) : NodeMessage × State := (handleRequest env m).run exec s

end Sp2p.Tracker
