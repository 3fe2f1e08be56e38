import Sp2p.Sercli.MessageFactory

/-!
# The operations of a node

An operation of `Node` checks whether it may begin, sends one request, waits for the reply and updates
the cookie, `is_logged` and `my_user` by it. `NodeState.begin` is what it does before it waits,
`NodeState.receive` what the reply does. Between the two nothing of the node changes, unless a reply to
an `asyncUpdateServer` comes in.

Outcomes of others are inputs here: whether there is a connection, a private key, and a certificate
that Botan can read. What an operation returns besides its error is left out.
-/

namespace Sp2p.Sercli

open Protocol

inductive NodeError
  | ok | isActive | noConnection | internalServerError | badRequest | noPrivilages | badCredentials
  | notLogged | noSuchUser | noSuchNetwork | badData | alreadyExists | badServerResponse | sendError
  | other
  deriving DecidableEq

def getDefaultError : ResponseType → NodeError
  | .ok => .ok
  | .badCredentials => .badCredentials
  | .badRequest => .badRequest
  | .noPrivilages => .noPrivilages
  | .noSuchUser => .noSuchUser
  | .noSuchNetwork => .noSuchNetwork
  | .badData => .badData
  | .internalServerError => .internalServerError
  | .alreadyExists => .alreadyExists
  | .notLogged => .other

/-- A request that a node sends: no required field is missing. -/
structure Outgoing where
  message : ClientMessage
  initialized : message.isInitialized = true

/-- A request of a user who is logged in: any but REGISTER and LOGIN. -/
def Outgoing.Authenticated (o : Outgoing) : Prop :=
  o.message.requestType ≠ .register ∧ o.message.requestType ≠ .login

/-- The operations with their arguments. `pem` is the request that Botan makes of the options. -/
inductive NodeCall
  | logIn
  | logOut
  | registerUser (pem : X509CertOptions → String)
  | changePassword (newPassword : String)
  | getUserInfo (networkDesc : NetworkDescription) (username : String)
  | inviteUser (networkDesc : NetworkDescription) (user : User)
  | getNetworksList
  | getMyNetworks
  | getServersList (networkDesc : NetworkDescription)
  | registerNetwork (networkDesc : NetworkDescription)
  | deleteNetwork (networkDesc : NetworkDescription)
  | updateServer (networkDesc : NetworkDescription) (port : Int)
  | asyncUpdateServer (networkDesc : NetworkDescription) (port : Int)
  | stopServer (networkDesc : NetworkDescription)
  /-- The pointer to the description must not be null. -/
  | signKey (pem : X509CertOptions → String) (networkDesc : NetworkDescription)

/-- The call returns when its request is sent. -/
def NodeCall.isAsync : NodeCall → Bool
  | .asyncUpdateServer _ _ => true
  | _ => false

/-- The operations that return `OTHER` when the node has no private key. -/
def NodeCall.needsKey : NodeCall → Bool
  | .registerUser _ | .signKey _ _ => true
  | _ => false

/-- The type of the request of a call. -/
def NodeCall.requestType : NodeCall → RequestType
  | .logIn => .login
  | .logOut => .logout
  | .registerUser _ => .register
  | .changePassword _ => .changePassword
  | .getUserInfo _ _ => .userInfo
  | .inviteUser _ _ => .inviteUser
  | .getNetworksList => .listNetworks
  | .getMyNetworks => .listMyNetworks
  | .getServersList _ => .listServers
  | .registerNetwork _ => .createNetwork
  | .deleteNetwork _ => .deleteNetwork
  | .updateServer _ _ | .asyncUpdateServer _ _ => .updateServer
  | .stopServer _ => .stopServer
  | .signKey _ _ => .signKey

/-- A node with the cookie and `is_logged` of its connection. -/
structure NodeState extends Node where
  cookie : String := ""
  isLogged : Bool := false

namespace NodeState

/-- `setUser` of a node that is not active. -/
def setUser (n : NodeState) (user : MyUser) : NodeState :=
  { n with myUser := user, cookie := "", isLogged := false }

/-- `connected` says whether the connection is active or can be made. -/
def beforeMessage (n : NodeState) (connected : Bool) : NodeError :=
  if n.isLogged = false then .notLogged
  else if connected then .ok
  else .noConnection

/-- The request of an operation. -/
def request (n : NodeState) : NodeCall → Outgoing
  | .logIn => ⟨getLoginMessage n.myUser.username n.myUser.password, rfl⟩
  | .logOut => ⟨getLogoutMessage n.cookie, rfl⟩
  | .registerUser pem =>
    let opts : X509CertOptions :=
      { commonName := n.myUser.username
        email := n.myUser.email
        organization := n.nodeDesc.nodeName
        orgUnit := ""
        country := "Pl" }
    ⟨getRegisterUserMessage n.myUser (pem opts), rfl⟩
  | .changePassword newPassword => ⟨getChangePasswordMessage n.myUser newPassword n.cookie, rfl⟩
  | .getUserInfo networkDesc username => ⟨getUserInfoMessage networkDesc username n.cookie, rfl⟩
  | .inviteUser networkDesc user => ⟨getInviteUserMessage networkDesc user n.cookie, rfl⟩
  | .getNetworksList => ⟨getListNetworksMessage n.cookie, rfl⟩
  | .getMyNetworks => ⟨getListMyNetworksMessage n.cookie, rfl⟩
  | .getServersList networkDesc => ⟨getListServersMessage networkDesc n.cookie, rfl⟩
  | .registerNetwork networkDesc => ⟨getCreateNetworkMessage networkDesc n.cookie, rfl⟩
  | .deleteNetwork networkDesc => ⟨getDeleteNetworkMessage networkDesc n.cookie, rfl⟩
  | .updateServer networkDesc port | .asyncUpdateServer networkDesc port =>
    ⟨getUpdateServerMessage networkDesc port n.cookie, rfl⟩
  | .stopServer networkDesc => ⟨getStopServerMessage networkDesc n.cookie, rfl⟩
  | .signKey pem networkDesc =>
    let opts : X509CertOptions :=
      { commonName := n.myUser.username
        email := n.myUser.email
        organization := n.nodeDesc.nodeName
        orgUnit := networkDesc.networkName
        country := "Pl" }
    ⟨getSignKeyMessage (pem opts) (some networkDesc) n.cookie, rfl⟩

/-- The request is sent, or the operation returns at once. -/
def send (n : NodeState) (hasKey : Bool) (c : NodeCall) : Except NodeError Outgoing :=
  if c.needsKey ∧ hasKey = false then .error .other
  else .ok (n.request c)

/-- What an operation does up to its request; an error is what it returns at once. -/
def begin (n : NodeState) (connected hasKey : Bool) (c : NodeCall) : Except NodeError Outgoing :=
  match c with
  | .logIn =>
    if n.isLogged then .error .ok
    else if connected then n.send hasKey c
    else .error .noConnection
  | .registerUser _ =>
    if n.myUser.isRegistered then .error .ok
    else if connected then n.send hasKey c
    else .error .noConnection
  | _ =>
    match n.beforeMessage connected with
    | .ok => n.send hasKey c
    | error => .error error

/-- What a reply of another type does in most operations: `NOT_LOGGED` falls through to the default. -/
def receiveDefault (n : NodeState) (r : ResponseType) : NodeError × NodeState :=
  (getDefaultError r, if r = .notLogged then { n with isLogged := false } else n)

/-- What the reply does, and what the operation returns. `readable` says whether the certificates in
the reply are such that Botan takes them. -/
def receive (n : NodeState) (readable : Bool) (response : NodeMessage) (c : NodeCall) :
    NodeError × NodeState :=
  let r := response.responseType.getD .ok
  match c with
  | .logIn =>
    if r = .ok then
      match response.loginResponse.bind (·.cookie) with
      | some cookie =>
        (.ok, { n with cookie, isLogged := true, myUser := { n.myUser with isRegistered := true } })
      | none => (.badServerResponse, n)
    else (getDefaultError r, n)
  | .logOut =>
    match r with
    | .ok => (.ok, { n with isLogged := false, cookie := "" })
    | .notLogged => (.ok, { n with isLogged := false })
    | r => (getDefaultError r, n)
  | .registerUser _ =>
    if r = .ok then
      (if readable then .ok else .badServerResponse,
        { n with myUser := { n.myUser with isRegistered := true } })
    else n.receiveDefault r
  | .changePassword newPassword =>
    if r = .ok then (.ok, { n with myUser := { n.myUser with password := newPassword } })
    else n.receiveDefault r
  | .signKey _ _ =>
    if r = .ok then (if readable then .ok else .badServerResponse, n)
    else n.receiveDefault r
  | _ => n.receiveDefault r

/-! ### What the operations keep -/

variable {n : NodeState} {c : NodeCall}

theorem requestType_request (n : NodeState) (c : NodeCall) :
    (n.request c).message.requestType = c.requestType := by
  cases c <;> rfl

/-- Every authenticated request has a cookie, the node's. -/
theorem cookie_request (h : (n.request c).Authenticated) :
    (n.request c).message.cookie = some n.cookie := by
  cases c with
  | registerUser pem => exact absurd rfl h.1
  | logIn => exact absurd rfl h.2
  | _ => rfl

/-- An operation sends its own request, and before a LOGIN only a REGISTER or a LOGIN. -/
theorem begin_eq_ok {connected hasKey : Bool} {o : Outgoing} (h : n.begin connected hasKey c = .ok o) :
    o = n.request c ∧ (o.Authenticated → n.isLogged = true) := by
  have hsend : n.send hasKey c = .ok o → o = n.request c := by
    intro h
    unfold send at h
    split at h
    · cases h
    · exact (Except.ok.inj h).symm
  unfold begin at h
  split at h
  · split at h
    · cases h
    · split at h
      · obtain rfl := hsend h
        exact ⟨rfl, fun hauth => absurd rfl hauth.2⟩
      · cases h
  · split at h
    · cases h
    · split at h
      · obtain rfl := hsend h
        exact ⟨rfl, fun hauth => absurd rfl hauth.1⟩
      · cases h
  · split at h
    · rename_i hbefore
      refine ⟨hsend h, fun _ => ?_⟩
      cases hlogged : n.isLogged with
      | true => rfl
      | false => simp [beforeMessage, hlogged] at hbefore
    · cases h

/-- `logOut` does not return `OK` before it has a reply. -/
theorem begin_logOut {connected hasKey : Bool} : n.begin connected hasKey .logOut ≠ .error .ok := by
  have hbegin : n.begin connected hasKey .logOut =
      match n.beforeMessage connected with
      | .ok => n.send hasKey .logOut
      | error => .error error := rfl
  have hsend : n.send hasKey .logOut = .ok (n.request .logOut) := by
    unfold send
    rw [if_neg (by simp [NodeCall.needsKey])]
  rw [hbegin, hsend]
  split
  · nofun
  · rename_i hne
    intro h
    exact hne (Except.error.inj h)

/-- The session is the same, or it has ended and its cookie is still there. -/
structure SameSession (n n' : NodeState) : Prop where
  cookie : n'.cookie = n.cookie
  username : n'.myUser.username = n.myUser.username
  isLogged : n'.isLogged = true → n.isLogged = true

theorem sameSession_default (n : NodeState) (r : ResponseType) :
    SameSession n (n.receiveDefault r).2 := by
  unfold receiveDefault
  dsimp only
  split
  · exact ⟨rfl, rfl, nofun⟩
  · exact ⟨rfl, rfl, id⟩

theorem myUser_default (n : NodeState) (r : ResponseType) :
    (n.receiveDefault r).2.myUser = n.myUser := by
  unfold receiveDefault
  dsimp only
  split
  · rfl
  · rfl

/-- The requests of the node stay the same as well. -/
theorem request_default (n : NodeState) (r : ResponseType) (c : NodeCall) :
    (n.receiveDefault r).2.request c = n.request c := by
  unfold receiveDefault
  dsimp only
  split
  · cases c <;> rfl
  · rfl

/-- Replies to other operations than `logIn` and `logOut` do not start a session or change the cookie. -/
theorem sameSession_receive (n : NodeState) (readable : Bool) (response : NodeMessage)
    (hin : c ≠ .logIn) (hout : c ≠ .logOut) : SameSession n (n.receive readable response c).2 := by
  unfold receive
  cases c with
  | logIn => exact absurd rfl hin
  | logOut => exact absurd rfl hout
  | registerUser | changePassword | signKey =>
    dsimp only
    split
    · exact ⟨rfl, rfl, id⟩
    · exact sameSession_default n _
  | _ => exact sameSession_default n _

/-- What the reply to `logIn` does: there is a new session, or nothing changes. -/
theorem receive_logIn (n : NodeState) (readable : Bool) (response : NodeMessage) :
    (∃ cookie, response.loginResponse.bind (·.cookie) = some cookie ∧
      (n.receive readable response .logIn).2 = { n with
        cookie, isLogged := true, myUser := { n.myUser with isRegistered := true } }) ∨
      (n.receive readable response .logIn).2 = n := by
  unfold receive
  dsimp only
  split
  · split
    · rename_i cookie hcookie
      exact .inl ⟨cookie, hcookie, rfl⟩
    · exact .inr rfl
  · exact .inr rfl

/-- `logOut` returns `OK` when the reply is `OK` or `NOT_LOGGED`, and ends the session then. -/
theorem receive_logOut (n : NodeState) (readable : Bool) (response : NodeMessage) :
    let out := n.receive readable response .logOut
    (out.1 = .ok ∧ out.2.isLogged = false ∧
      (response.responseType.getD .ok = .ok ∨ response.responseType.getD .ok = .notLogged)) ∨
      (out.1 ≠ .ok ∧ out.2 = n) := by
  unfold receive
  cases response.responseType.getD .ok with
  | ok => exact .inl ⟨rfl, rfl, .inl rfl⟩
  | notLogged => exact .inl ⟨rfl, rfl, .inr rfl⟩
  | _ => exact .inr ⟨nofun, rfl⟩

/-- Only `changePassword` changes the password, when the reply is `OK`. -/
theorem password_receive (n : NodeState) (readable : Bool) (response : NodeMessage) (c : NodeCall) :
    (n.receive readable response c).2.myUser.password =
      match c with
      | .changePassword newPassword =>
        if response.responseType.getD .ok = .ok then newPassword else n.myUser.password
      | _ => n.myUser.password := by
  cases c with
  | logIn =>
    rcases receive_logIn n readable response with ⟨cookie, -, hn⟩ | hn
    · rw [hn]
    · rw [hn]
  | logOut =>
    unfold receive
    cases response.responseType.getD .ok <;> rfl
  | changePassword newPassword =>
    unfold receive
    dsimp only
    split
    · rfl
    · rw [myUser_default]
  | registerUser | signKey =>
    unfold receive
    dsimp only
    split
    · rfl
    · rw [myUser_default]
  | _ =>
    show (n.receiveDefault _).2.myUser.password = _
    rw [myUser_default]

/-- No reply changes the name of the user. -/
theorem username_receive (n : NodeState) (readable : Bool) (response : NodeMessage) (c : NodeCall) :
    (n.receive readable response c).2.myUser.username = n.myUser.username := by
  by_cases hin : c = .logIn
  · subst hin
    rcases receive_logIn n readable response with ⟨cookie, -, hn⟩ | hn
    · rw [hn]
    · rw [hn]
  · by_cases hout : c = .logOut
    · subst hout
      unfold receive
      cases response.responseType.getD .ok <;> rfl
    · exact (sameSession_receive n readable response hin hout).username

end NodeState

end Sp2p.Sercli
