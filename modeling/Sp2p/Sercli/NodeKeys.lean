import Sp2p.Sercli.NodeCalls

/-!
# Keys and certificates of a node

The members of `Node` beside those of `NodeState`: the private keys and certificates of the user, by
themselves and for networks, and the certificates of the node itself. Replies to `registerUser` and
`signKey` file certificates, and the client files keys and certificates through the references that
the getters return. What a key or a certificate is, and which texts are certificates, is Botan's.

`receive_faithful_iff` is about error replies, which all operations after `logIn` leave to
`getDefaultError`: it has no entry for `NOT_LOGGED`. `setUser_leavesNothing_iff` is about a change of
the user, where `net_keys` is not cleared.
-/

namespace Sp2p.Sercli

open Protocol

/-- The `ElementStore` of a private key. -/
structure PrivateKeyStore (κ : Type) where
  name : String
  filename : String
  key : κ

structure CertificateStore (ξ : Type) where
  name : String
  filename : String
  certificate : ξ

structure NodeException where
  message : String
  deriving DecidableEq

/-- A node with all its members; of the connection what `isActive` says. -/
structure NodeMembers (κ ξ : Type) extends NodeState where
  privateKeys : List (PrivateKeyStore κ) := []
  freeCerts : List (CertificateStore ξ) := []
  netCerts : Std.ExtTreeMap NetworkDescription (CertificateStore ξ) := ∅
  netKeys : Std.ExtTreeMap NetworkDescription (PrivateKeyStore κ) := ∅
  nodeCerts : List (CertificateStore ξ) := []
  isActive : Bool := false

/-- What the client does to a node. -/
inductive NodeEvent (κ ξ : Type)
  /-- A reply to an operation. -/
  | reply (c : NodeCall) (response : NodeMessage)
  /-- `getMyKeys().push_back(key)`. -/
  | addKey (key : PrivateKeyStore κ)
  /-- `getNetworkKeys()[network_desc] = key`. -/
  | addNetworkKey (networkDesc : NetworkDescription) (key : PrivateKeyStore κ)
  /-- `getNodeCerts().push_back(cert)`. -/
  | addNodeCert (cert : CertificateStore ξ)
  /-- `getNetworkCerts()[network_desc] = cert`. -/
  | addNetworkCert (networkDesc : NetworkDescription) (cert : CertificateStore ξ)
  | connect
  | stopConnections
  | setUser (user : MyUser)
  | setNewDescription (nodeDesc : NodeDescription)

/-- A key for a network is filed. -/
def NodeEvent.filesNetworkKey {κ ξ : Type} : NodeEvent κ ξ → Bool
  | .addNetworkKey _ _ => true
  | _ => false

/-- The operations that send the cookie and wait for the reply, but for `logOut`. -/
def NodeCall.isAuthenticated : NodeCall → Bool
  | .logIn | .logOut | .registerUser _ | .asyncUpdateServer _ _ => false
  | _ => true

/-- The error of the same name. -/
def NodeError.named : ResponseType → NodeError
  | .ok => .ok
  | .internalServerError => .internalServerError
  | .badRequest => .badRequest
  | .noPrivilages => .noPrivilages
  | .notLogged => .notLogged
  | .badCredentials => .badCredentials
  | .noSuchUser => .noSuchUser
  | .noSuchNetwork => .noSuchNetwork
  | .badData => .badData
  | .alreadyExists => .alreadyExists

namespace NodeMembers

variable {κ ξ : Type}

/-- `Node(node_desc, connection_manager, user)`. -/
def new (nodeDesc : NodeDescription) (user : MyUser) : NodeMembers κ ξ where
  nodeDesc := nodeDesc
  myUser := user

def setUser (n : NodeMembers κ ξ) (user : MyUser) : Except NodeException Unit × NodeMembers κ ξ :=
  if n.isActive then (.error ⟨"Node is active at the moment"⟩, n)
  else (.ok (),
    { n with
      toNodeState := n.toNodeState.setUser user
      freeCerts := []
      netCerts := ∅
      privateKeys := [] })

def setNewDescription (n : NodeMembers κ ξ) (nodeDesc : NodeDescription) :
    Except NodeException Unit × NodeMembers κ ξ :=
  if n.isActive then (.error ⟨"Node is active at the moment"⟩, n)
  else (.ok (), { n with nodeDesc := nodeDesc })

/-- Whether Botan takes the certificates that the operation reads in the reply. -/
def readable (readCertificate : String → Option ξ) (response : NodeMessage) : NodeCall → Bool
  | .registerUser _ =>
    let registered := response.registerResponse.getD {}
    (readCertificate (registered.userCertificate.getD "")).isSome &&
      (readCertificate (registered.nodeCertificate.getD "")).isSome
  | .signKey _ _ =>
    (readCertificate ((response.signKeyResponse.getD {}).userCertificate.getD "")).isSome
  | _ => true

/-- The certificates in a reply that is `OK` are filed, when all of them can be read. -/
def file (readCertificate : String → Option ξ) (response : NodeMessage) (c : NodeCall)
    (n : NodeMembers κ ξ) : NodeMembers κ ξ :=
  match c with
  | .registerUser _ =>
    let registered := response.registerResponse.getD {}
    match readCertificate (registered.userCertificate.getD ""),
      readCertificate (registered.nodeCertificate.getD "") with
    | some my, some node =>
      let myName := n.nodeDesc.nodeName ++ "." ++ toString n.freeCerts.length ++ ".pem"
      let certName := n.nodeDesc.nodeName ++ "." ++ toString n.nodeCerts.length ++ ".pem"
      { n with
        nodeCerts := n.nodeCerts ++ [⟨certName, certName, node⟩]
        freeCerts := n.freeCerts ++ [⟨myName, myName, my⟩] }
    | _, _ => n
  | .signKey _ networkDesc =>
    match readCertificate ((response.signKeyResponse.getD {}).userCertificate.getD "") with
    | some certificate =>
      let name := n.nodeDesc.nodeName ++ "." ++ networkDesc.networkName
      { n with
        netCerts := TreeMap.assign n.netCerts networkDesc ⟨name, name ++ ".pem", certificate⟩ }
    | none => n
  | _ => n

/-- What the reply does, and what the operation returns. -/
def receive (readCertificate : String → Option ξ) (response : NodeMessage) (c : NodeCall)
    (n : NodeMembers κ ξ) : NodeError × NodeMembers κ ξ :=
  let (error, state) := n.toNodeState.receive (readable readCertificate response c) response c
  let n' := { n with toNodeState := state }
  (error, if response.responseType.getD .ok = .ok then n'.file readCertificate response c else n')

/-- Whether there is a key for the operation; only `registerUser` looks whether it can be used. -/
def hasKey (n : NodeMembers κ ξ) (keyUsable : Bool) : NodeCall → Bool
  | .registerUser _ => !n.privateKeys.isEmpty && keyUsable
  | _ => !n.privateKeys.isEmpty

/-- The operation comes to its request. `connected` says whether a connection can be made. -/
def sends (n : NodeMembers κ ξ) (c : NodeCall) (connected keyUsable : Bool) : Bool :=
  match n.toNodeState.begin (n.isActive || connected) (n.hasKey keyUsable c) c with
  | .ok _ => true
  | .error _ => false

/-- An operation with its reply, `none` for a `SendException`, and what it returns. It is connected when
it finds that there is no key. -/
def perform (readCertificate : String → Option ξ) (n : NodeMembers κ ξ) (c : NodeCall)
    (connected keyUsable : Bool) (reply : Option NodeMessage) : NodeError × NodeMembers κ ξ :=
  match n.toNodeState.begin (n.isActive || connected) (n.hasKey keyUsable c) c with
  | .error error => (error, { n with isActive := n.isActive || error = .other })
  | .ok _ =>
    match reply with
    | some response => { n with isActive := true }.receive readCertificate response c
    | none => (.sendError, { n with isActive := true })

/-- Keys and certificates are filed where there is none of the name, and else put in its place. -/
def step (readCertificate : String → Option ξ) (n : NodeMembers κ ξ) : NodeEvent κ ξ → NodeMembers κ ξ
  | .reply c response => (n.receive readCertificate response c).2
  | .addKey key => { n with privateKeys := n.privateKeys ++ [key] }
  | .addNetworkKey networkDesc key =>
    { n with netKeys := TreeMap.assign n.netKeys networkDesc key }
  | .addNodeCert cert => { n with nodeCerts := n.nodeCerts ++ [cert] }
  | .addNetworkCert networkDesc cert =>
    { n with netCerts := TreeMap.assign n.netCerts networkDesc cert }
  | .connect => { n with isActive := true }
  | .stopConnections => { n with isActive := false }
  | .setUser user => (n.setUser user).2
  | .setNewDescription nodeDesc => (n.setNewDescription nodeDesc).2

/-- The node after these events. -/
def after (readCertificate : String → Option ξ) (n : NodeMembers κ ξ) (events : List (NodeEvent κ ξ)) :
    NodeMembers κ ξ :=
  events.foldl (step readCertificate) n

variable {readCertificate : String → Option ξ} {response : NodeMessage} {c : NodeCall}
  {n : NodeMembers κ ξ}

/-! ### Error replies -/

/-- The error is that of the reply; `is_logged` is false when the reply is `NOT_LOGGED` and otherwise as
it was, and so is everything else. -/
structure ReportsFaithfully (r : ResponseType) (n : NodeMembers κ ξ)
    (out : NodeError × NodeMembers κ ξ) : Prop where
  error : out.1 = .named r
  isLogged : out.2.isLogged = if r = .notLogged then false else n.isLogged
  rest : { out.2 with isLogged := n.isLogged } = n

/-- An operation of `NodeState` takes the default branch. -/
theorem receive_eq_default {s : NodeState} (readable : Bool) (hc : c.isAuthenticated = true)
    (hr : response.responseType.getD .ok ≠ .ok) :
    s.receive readable response c = s.receiveDefault (response.responseType.getD .ok) := by
  unfold NodeState.receive
  cases c with
  | logIn | logOut | registerUser | asyncUpdateServer => cases hc
  | changePassword | signKey =>
    dsimp only
    rw [if_neg hr]
  | _ => rfl

theorem receive_error (hc : c.isAuthenticated = true) (hr : response.responseType.getD .ok ≠ .ok) :
    n.receive readCertificate response c =
      (getDefaultError (response.responseType.getD .ok),
        if response.responseType.getD .ok = .notLogged then { n with isLogged := false } else n) := by
  unfold receive
  rw [receive_eq_default _ hc hr]
  dsimp only
  rw [if_neg hr]
  unfold NodeState.receiveDefault
  split
  · rfl
  · rfl

/-- All but `NOT_LOGGED` have their own entry. -/
theorem getDefaultError_eq_named {r : ResponseType} : getDefaultError r = .named r ↔ r ≠ .notLogged := by
  cases r <;> decide

/-- **An error reply is reported faithfully, and changes nothing else, exactly when it is not
`NOT_LOGGED`.** -/
theorem receive_faithful_iff (readCertificate : String → Option ξ) (response : NodeMessage)
    (c : NodeCall) (n : NodeMembers κ ξ) (hc : c.isAuthenticated = true)
    (hr : response.responseType.getD .ok ≠ .ok) :
    ReportsFaithfully (response.responseType.getD .ok) n (n.receive readCertificate response c) ↔
      response.responseType.getD .ok ≠ .notLogged := by
  rw [receive_error hc hr, ← getDefaultError_eq_named]
  refine ⟨ReportsFaithfully.error, fun herror => ⟨herror, ?_, ?_⟩⟩
  · split
    · rfl
    · rfl
  · split
    · rfl
    · rfl

/-- A node of alice, who is logged in. -/
def aliceNode : NodeMembers Unit Unit where
  nodeDesc := ⟨"127.0.0.1", "node", 18080⟩
  myUser := { username := "alice", password := "secret" }
  cookie := "c00kie"
  isLogged := true

theorem receive_faithful_badRequest :
    ReportsFaithfully .badRequest aliceNode
      (aliceNode.receive (fun _ => none) { responseType := some .badRequest } .getNetworksList) :=
  (receive_faithful_iff (fun _ => none) { responseType := some .badRequest } .getNetworksList aliceNode
    rfl (by decide)).2 (by decide)

/-- The session is over, and the caller is told `OTHER`. -/
theorem receive_unfaithful_notLogged :
    (aliceNode.receive (fun _ => none) { responseType := some .notLogged } .getNetworksList).1 = .other ∧
      (aliceNode.receive (fun _ => none) { responseType := some .notLogged } .getNetworksList).2.isLogged =
        false ∧
      ¬ ReportsFaithfully .notLogged aliceNode
        (aliceNode.receive (fun _ => none) { responseType := some .notLogged } .getNetworksList) := by
  refine ⟨rfl, rfl, fun h => ?_⟩
  have herror : NodeError.other = .notLogged := h.error
  cases herror

/-! ### A change of the user -/

/-- The user is changed, and what was there of another is as in a new node. -/
def SwitchesCleanly (n : NodeMembers κ ξ) (user : MyUser) : Prop :=
  n.setUser user = (.ok (), { (new n.nodeDesc user : NodeMembers κ ξ) with nodeCerts := n.nodeCerts })

theorem setUser_of_active (h : n.isActive = true) (user : MyUser) :
    n.setUser user = (.error ⟨"Node is active at the moment"⟩, n) := if_pos h

/-- All is as in a new node but the keys for networks, which stay. -/
theorem setUser_of_inactive (h : n.isActive = false) (user : MyUser) :
    n.setUser user = (.ok (), { (new n.nodeDesc user : NodeMembers κ ξ) with
      nodeCerts := n.nodeCerts, netKeys := n.netKeys }) := by
  obtain ⟨state, privateKeys, freeCerts, netCerts, netKeys, nodeCerts, isActive⟩ := n
  obtain rfl : isActive = false := h
  rfl

theorem switchesCleanly_iff (h : n.isActive = false) (user : MyUser) :
    SwitchesCleanly n user ↔ n.netKeys = ∅ := by
  unfold SwitchesCleanly
  rw [setUser_of_inactive h, Prod.mk.injEq]
  constructor
  · rintro ⟨-, hn⟩
    exact congrArg netKeys hn
  · intro hkeys
    rw [hkeys]
    exact ⟨rfl, rfl⟩

theorem file_keeps (n : NodeMembers κ ξ) :
    (n.file readCertificate response c).toNodeState = n.toNodeState ∧
      (n.file readCertificate response c).netKeys = n.netKeys := by
  unfold file
  split
  · dsimp only
    split
    · exact ⟨rfl, rfl⟩
    · exact ⟨rfl, rfl⟩
  · split
    · exact ⟨rfl, rfl⟩
    · exact ⟨rfl, rfl⟩
  · exact ⟨rfl, rfl⟩

/-- The cookie, `is_logged` and `my_user` are those of `NodeState`. -/
theorem receive_toNodeState (n : NodeMembers κ ξ) :
    (n.receive readCertificate response c).2.toNodeState =
      (n.toNodeState.receive (readable readCertificate response c) response c).2 := by
  unfold receive
  dsimp only
  split
  · rw [(file_keeps _).1]
  · rfl

theorem netKeys_receive (n : NodeMembers κ ξ) :
    (n.receive readCertificate response c).2.netKeys = n.netKeys := by
  unfold receive
  dsimp only
  split
  · rw [(file_keeps _).2]
  · rfl

theorem netKeys_setUser (n : NodeMembers κ ξ) (user : MyUser) : (n.setUser user).2.netKeys = n.netKeys := by
  unfold setUser
  split
  · rfl
  · rfl

theorem netKeys_setNewDescription (n : NodeMembers κ ξ) (nodeDesc : NodeDescription) :
    (n.setNewDescription nodeDesc).2.netKeys = n.netKeys := by
  unfold setNewDescription
  split
  · rfl
  · rfl

/-- A key for a network is never removed. -/
theorem netKeys_step (e : NodeEvent κ ξ) :
    (n.step readCertificate e).netKeys = ∅ ↔ n.netKeys = ∅ ∧ e.filesNetworkKey = false := by
  cases e with
  | addNetworkKey networkDesc key =>
    have hmem : networkDesc ∈ TreeMap.assign n.netKeys networkDesc key := by
      rw [Std.ExtTreeMap.mem_iff_isSome_getElem?, TreeMap.getElem?_assign,
        if_pos Std.ReflCmp.compare_self]
      rfl
    constructor
    · intro hempty
      replace hempty : TreeMap.assign n.netKeys networkDesc key = ∅ := hempty
      rw [hempty] at hmem
      exact absurd hmem Std.ExtTreeMap.not_mem_empty
    · rintro ⟨-, hfiles⟩
      cases hfiles
  | reply c response =>
    show (n.receive readCertificate response c).2.netKeys = ∅ ↔ _
    rw [netKeys_receive]
    exact (and_iff_left rfl).symm
  | setUser user =>
    show (n.setUser user).2.netKeys = ∅ ↔ _
    rw [netKeys_setUser]
    exact (and_iff_left rfl).symm
  | setNewDescription nodeDesc =>
    show (n.setNewDescription nodeDesc).2.netKeys = ∅ ↔ _
    rw [netKeys_setNewDescription]
    exact (and_iff_left rfl).symm
  | _ => exact (and_iff_left rfl).symm

theorem netKeys_after (events : List (NodeEvent κ ξ)) :
    (n.after readCertificate events).netKeys = ∅ ↔
      n.netKeys = ∅ ∧ ∀ e ∈ events, e.filesNetworkKey = false := by
  induction events generalizing n with
  | nil => simp [after]
  | cons e events ih =>
    rw [after, List.foldl_cons, ← after, ih, netKeys_step, List.forall_mem_cons, and_assoc]

/-- **A change of the user leaves nothing behind exactly when there is no key for a network, that is when
none was ever filed; an active node refuses it.** -/
theorem setUser_leavesNothing_iff (readCertificate : String → Option ξ) (nodeDesc : NodeDescription)
    (first user : MyUser) (events : List (NodeEvent κ ξ)) {n : NodeMembers κ ξ}
    (hn : (new nodeDesc first).after readCertificate events = n) :
    (n.isActive = true → n.setUser user = (.error ⟨"Node is active at the moment"⟩, n)) ∧
      (n.isActive = false → (SwitchesCleanly n user ↔ n.netKeys = ∅)) ∧
      (n.netKeys = ∅ ↔ ∀ e ∈ events, e.filesNetworkKey = false) := by
  refine ⟨fun h => setUser_of_active h user, fun h => switchesCleanly_iff h user, ?_⟩
  rw [← hn, netKeys_after]
  exact and_iff_right rfl

def bob : MyUser where
  username := "bob"
  password := "pass"

def den : NetworkDescription where
  accessRights := .PRIVATE
  visability := .UNLISTED
  participationRights := .CLIENT_SERVER
  protocolName := ""
  networkName := "den"
  creator := {}

/-- Alice makes a key for herself, and bob takes the node over. -/
theorem setUser_leavesNothing_bob :
    SwitchesCleanly ((new aliceNode.nodeDesc aliceNode.myUser : NodeMembers Unit Unit).after
      (fun _ => none) [.addKey ⟨"node", "node.pem", ()⟩]) bob := by
  obtain ⟨-, hswitch, hkeys⟩ := setUser_leavesNothing_iff (κ := Unit) (fun _ => (none : Option Unit))
    aliceNode.nodeDesc aliceNode.myUser bob [.addKey ⟨"node", "node.pem", ()⟩] rfl
  apply (hswitch rfl).2
  apply hkeys.2
  intro e he
  rw [List.mem_singleton.1 he]
  rfl

/-- She makes one for her network, and it is still there when bob has the node. -/
theorem setUser_leaves_networkKey :
    (((new aliceNode.nodeDesc aliceNode.myUser : NodeMembers Unit Unit).after (fun _ => none)
      [.addNetworkKey den ⟨"node.den", "node.den.pem", ()⟩]).setUser bob).2.netKeys[den]?.map (·.name) =
        some "node.den" ∧
      ¬ SwitchesCleanly ((new aliceNode.nodeDesc aliceNode.myUser : NodeMembers Unit Unit).after
        (fun _ => none) [.addNetworkKey den ⟨"node.den", "node.den.pem", ()⟩]) bob := by
  have hkey : (((new aliceNode.nodeDesc aliceNode.myUser : NodeMembers Unit Unit).after (fun _ => none)
      [.addNetworkKey den ⟨"node.den", "node.den.pem", ()⟩]).setUser bob).2.netKeys[den]?.map (·.name) =
        some "node.den" := by
    decide +kernel
  refine ⟨hkey, fun hclean => ?_⟩
  rw [hclean] at hkey
  cases hkey

end NodeMembers
end Sp2p.Sercli
