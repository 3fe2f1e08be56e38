import Sp2p.NodeClient.KeyFiles
import Sp2p.NodeClient.Options
import Sp2p.Sercli.DataManager
import Sp2p.Sercli.Discovery

/-!
# The contexts of the client

The commands of the client are the handlers of four contexts: the root, `Sp2p`, which works on the
manager, and below it `Node` and `Network`, which work on one node and one network that were picked
before. What was picked is an object and not a name, and the contexts have their own pointers to it.

Objects are behind pointers here, networks too, so that a network that the manager has removed is still
there for the context that works with it. What is printed is left out. A handler that ends the program,
by an exception that the loop does not catch or by a null pointer, throws `other`.
-/

namespace Sp2p.NodeClient

open Std Protocol Sercli

/-! ### Nodes -/

/-- The connection of the node is there, or the operation has made it. -/
def reached (error : NodeError) : Bool := error ≠ .notLogged ∧ error ≠ .noConnection

section Nodes

variable {κ ξ : Type} (n : NodeMembers κ ξ)

def exchangeOf (x : Exchange) : Exchange := { x with connected := n.isActive || x.connected }

/-- An operation and what it returns. `none` is the null pointer that it gets for a connection which is
closed before it sends. -/
def invoke (readCertificate : String → Option ξ) (c : NodeCall) (x : Exchange) (keyUsable : Bool) :
    Option (NodeError × NodeMembers κ ξ) :=
  if n.sends c x.connected keyUsable ∧ x.closed then none
  else some (n.perform readCertificate c x.connected keyUsable x.reply)

def invokeServersList (isAddress : String → Bool) (networkDesc : NetworkDescription) (x : Exchange) :
    Except Interrupted (NodeMembers κ ξ) :=
  (n.toNodeState.getServersList isAddress networkDesc (exchangeOf n x)).map fun ((error, _), state) =>
    { n with toNodeState := state, isActive := n.isActive || reached error }

end Nodes

/-! ### Objects -/

/-- The maps of the manager, what is behind the pointers, and the first addresses not in use. -/
structure Objects (κ ξ : Type) where
  nodesMap : ExtTreeMap NodeDescription NodePtr := ∅
  networksMap : ExtTreeMap NetworkDescription NetworkPtr := ∅
  nodes : NodePtr → NodeMembers κ ξ := fun _ => .new ⟨"", "", 0⟩ .default
  networks : NetworkPtr → Network := fun _ =>
    { networkDesc := ⟨.PUBLIC, .LISTED, .CLIENT_ONLY, "", "", {}⟩ }
  nextNode : NodePtr := 0
  nextNetwork : NetworkPtr := 0

/-- What a node is looked up by, in the overloads of the manager. -/
abbrev NodeKey := NodeDescription ⊕ String

abbrev NetworkKey := NetworkDescription ⊕ String

namespace Objects

variable {κ ξ σ : Type} (o : Objects κ ξ)

/-- The manager as its callers see it; `held` says which nodes they own. -/
def manager (held : NodePtr → Bool) : Manager where
  nodesMap := o.nodesMap
  networksMap := o.networksMap.map fun _ q => o.networks q
  heap p := (o.nodes p).toNode
  next := o.nextNode
  held := held

def setNode (p : NodePtr) (n : NodeMembers κ ξ) : Objects κ ξ :=
  { o with nodes := Function.update o.nodes p n }

def setNetwork (q : NetworkPtr) (network : Network) : Objects κ ξ :=
  { o with networks := Function.update o.networks q network }

/-- `new Node`, put into the map under its description. -/
def addNode (n : NodeMembers κ ξ) : Objects κ ξ :=
  { o with
    nodes := Function.update o.nodes o.nextNode n
    nextNode := o.nextNode + 1
    nodesMap := TreeMap.assign o.nodesMap n.nodeDesc o.nextNode }

def addNetwork (network : Network) : Objects κ ξ :=
  { o with
    networks := Function.update o.networks o.nextNetwork network
    nextNetwork := o.nextNetwork + 1
    networksMap := TreeMap.assign o.networksMap network.networkDesc o.nextNetwork }

def createNode (desc : NodeDescription) (user : MyUser) : Except Thrown (Objects κ ξ) :=
  if desc ∈ o.nodesMap then .error (.nodeException "Node with such description already exists")
  else .ok (o.addNode (.new desc user))

def createNetwork (desc : NetworkDescription) : Except Thrown (Objects κ ξ) :=
  if desc ∈ o.networksMap then .error (.networkException "Network with such description already exists")
  else .ok (o.addNetwork { networkDesc := desc })

/-- The entry of the map that a node is found in. -/
def nodeEntry : NodeKey → Option (NodeDescription × NodePtr)
  | .inl desc => (o.nodesMap[desc]?).map fun p => (desc, p)
  | .inr nodeName => o.nodesMap.toList.find? fun nodePair => nodePair.1.nodeName = nodeName

def networkEntry : NetworkKey → Option (NetworkDescription × NetworkPtr)
  | .inl desc => (o.networksMap[desc]?).map fun q => (desc, q)
  | .inr networkName => o.networksMap.toList.find? fun networkPair =>
    networkPair.1.networkName = networkName

def getNode (key : NodeKey) : Except Thrown NodePtr :=
  match o.nodeEntry key with
  | some entry => .ok entry.2
  | none => .error (.nodeException "No such node")

def removeNode (key : NodeKey) : Except Thrown (Objects κ ξ) :=
  match o.nodeEntry key with
  | some entry => .ok { o with nodesMap := o.nodesMap.erase entry.1 }
  | none => .error (.nodeException "No such node")

/-- By name it is a `NodeException` as well. -/
def getNetwork (key : NetworkKey) : Except Thrown NetworkPtr :=
  match o.networkEntry key, key with
  | some entry, _ => .ok entry.2
  | none, .inl _ => .error (.networkException "No such network")
  | none, .inr _ => .error (.nodeException "No such network")

def removeNetwork (key : NetworkKey) : Except Thrown (Objects κ ξ) :=
  match o.networkEntry key with
  | some entry => .ok { o with networksMap := o.networksMap.erase entry.1 }
  | none => .error (.networkException "No such network")

/-- `opened` says whether the log takes records of level debug: the one of `disconnect` throws. -/
def stopConnections (opened : Bool) (p : NodePtr) : Option Thrown × Objects κ ξ :=
  if (o.nodes p).isActive then
    if opened then (some .other, o) else (none, o.setNode p { o.nodes p with isActive := false })
  else (none, o)

/-- The loop of `stopAll`. -/
def stopEach (opened : Bool) : List NodePtr → Objects κ ξ → Option Thrown × Objects κ ξ
  | [], o => (none, o)
  | p :: ps, o =>
    match o.stopConnections opened p with
    | (none, o) => stopEach opened ps o
    | (some thrown, o) => (some thrown, o)

def stopAll (opened : Bool) : Option Thrown × Objects κ ξ :=
  stopEach opened (o.nodesMap.toList.map Prod.snd) o

def clear (opened : Bool) : Option Thrown × Objects κ ξ :=
  match o.stopAll opened with
  | (none, o) => (none, { o with nodesMap := ∅, networksMap := ∅ })
  | (some thrown, o) => (some thrown, o)

section Load

variable (src : AbstractSource σ)

/-- The objects that are left, and what is left of the file unless the loop threw. -/
def loadNodes : Nat → Objects κ ξ → σ → Objects κ ξ × Option σ
  | 0, o, file => (o, some file)
  | n + 1, o, file =>
    match src.node file with
    | some (node, file) => loadNodes n (o.addNode (.new node.nodeDesc node.myUser)) file
    | none => (o, none)

/-- A network is put into the map before its nodes are read. -/
def loadNetworks : Nat → Objects κ ξ → σ → Objects κ ξ × Option σ
  | 0, o, file => (o, some file)
  | n + 1, o, file =>
    match src.network file with
    | none => (o, none)
    | some (desc, file) =>
      match src.nodes file with
      | none => (o.addNetwork { networkDesc := desc }, none)
      | some (descs, file) =>
        match associateKnown (o.manager fun _ => false) { networkDesc := desc } descs with
        | (network, true) => loadNetworks n (o.addNetwork network) file
        | (network, false) => (o.addNetwork network, none)

/-- What `loadState` does after `clear`. `source` is what `getSource` gives, `none` when it throws. -/
def loadFile (source : Option σ) : Objects κ ξ × Option σ :=
  match source.bind src.count with
  | none => (o, none)
  | some (nc, file) =>
    match loadNodes src nc.toNat o file with
    | (o, none) => (o, none)
    | (o, some file) =>
      match src.count file with
      | none => (o, none)
      | some (nc, file) => loadNetworks src nc.toNat o file

/-- The `DataException` is none of those that the loop catches. -/
def loadState (opened : Bool) (source : Option σ) : Option Thrown × Objects κ ξ :=
  match o.clear opened with
  | (none, o) =>
    (if (o.loadFile src source).2.isSome then none else some .other, (o.loadFile src source).1)
  | (some thrown, o) => (some thrown, o)

end Load

end Objects

/-! ### The client -/

inductive ContextName
  | mainApp
  | sp2p
  | node
  | network
  deriving DecidableEq

def ContextName.text : ContextName → String
  | .mainApp => "MainApp"
  | .sp2p => "Sp2p"
  | .node => "Node"
  | .network => "Network"

def ContextName.parentContext : ContextName → Option ContextName
  | .mainApp => none
  | .sp2p => some .mainApp
  | .node | .network => some .sp2p

/-- In the order of the map. -/
def ContextName.nestedContexts : ContextName → List ContextName
  | .mainApp => [.sp2p]
  | .sp2p => [.network, .node]
  | .node | .network => []

/-- The working node and network of a context. -/
structure Working where
  node : Option NodePtr := none
  network : Option NetworkPtr := none
  deriving DecidableEq

/-- The contexts with what they share. `current` is `current_node` and `current_network` of `Sp2p`; `saved`
is what has been written by `saveState`. -/
structure Client (κ ξ : Type) extends Objects κ ξ where
  dataManager : DataManager
  currentContext : ContextName := .sp2p
  current : Working := {}
  nodeC : Working := {}
  networkC : Working := {}
  saved : List (Sink × List Item) := []

/-- The other libraries, and how the log is set up. `certRequest` is what Botan makes of a key, and
`fromString` gives the text that an address is archived as. -/
structure Libraries (κ ξ σ : Type) where
  parseCommandLine : OptionsDescription → List String → Except String VariablesMap
  fromString : String → Option String
  readCertificate : String → Option ξ
  certRequest : κ → X509CertOptions → String
  source : AbstractSource σ
  opened : Bool

/-- What happens around the client from one line to the next. `ended` are the nodes whose connections
end, `exchange` is what comes of a request, `key` what `generatePrivateKey` gives and `file` what opening
the data file does. -/
structure Surroundings (κ σ : Type) where
  ended : List NodePtr := []
  exchange : NodePtr → Exchange := fun _ => { connected := false, reply := none }
  keyUsable : Bool := true
  key : κ
  file : Option σ := none
  stateWritten : Bool := true
  storesWritten : Bool := true

namespace Client

variable {κ ξ : Type} (s : Client κ ξ)

/-- A shared pointer of a context owns the node. -/
def held (p : NodePtr) : Bool :=
  s.current.node = some p ∨ s.nodeC.node = some p ∨ s.networkC.node = some p

def manager : Manager := s.toObjects.manager s.held

def setNode (p : NodePtr) (n : NodeMembers κ ξ) : Client κ ξ :=
  { s with toObjects := s.toObjects.setNode p n }

def setNetwork (q : NetworkPtr) (network : Network) : Client κ ξ :=
  { s with toObjects := s.toObjects.setNetwork q network }

def endConnections (ended : List NodePtr) : Client κ ξ :=
  { s with nodes := fun p => { s.nodes p with isActive := (s.nodes p).isActive && p ∉ ended } }

end Client

/-- What a command does, and what it throws. -/
abbrev Action (κ ξ : Type) := Client κ ξ → Option Thrown × Client κ ξ

section Handlers

variable {κ ξ σ : Type}

/-- What comes first may throw, and then nothing has been done. -/
def attempt {α : Type} (first : Client κ ξ → Except Thrown α) (act : α → Action κ ξ) : Action κ ξ :=
  fun s =>
    match first s with
    | .error thrown => (some thrown, s)
    | .ok a => act a s

/-- The arguments are read before anything is done; `none` is where the help has been printed. -/
def reading {α : Type} (arguments : Except Thrown (Option α)) (act : α → Action κ ξ) : Action κ ξ :=
  attempt (fun _ => arguments) fun
    | none => fun s => (none, s)
    | some a => act a

/-- A call of the manager that does nothing when it throws. -/
def onManager (f : Objects κ ξ → Except Thrown (Objects κ ξ)) : Action κ ξ :=
  attempt (fun s => f s.toObjects) fun o s => (none, { s with toObjects := o })

/-- A call that may throw when it has done something. -/
def onObjects (f : Objects κ ξ → Option Thrown × Objects κ ξ) : Action κ ξ := fun s =>
  ((f s.toObjects).1, { s with toObjects := (f s.toObjects).2 })

def checkNode (w : Client κ ξ → Working) (act : NodePtr → Action κ ξ) : Action κ ξ :=
  attempt (fun s => match (w s).node with
    | some p => .ok p
    | none => .error (.nodeException "No working node set")) act

def checkNetwork (w : Client κ ξ → Working) (act : NetworkPtr → Action κ ξ) : Action κ ξ :=
  attempt (fun s => match (w s).network with
    | some q => .ok q
    | none => .error (.networkException "No working network set")) act

/-! ### Context -/

namespace Context

/-- `current`, `list`, `print`, `help` and `flush`. -/
def prints : Handler (Client κ ξ) := fun _ s => (none, s)

def pr : Handler (Client κ ξ) := fun _ s =>
  match s.currentContext.parentContext with
  | some parent => (none, { s with currentContext := parent })
  | none => (some (.commandException "No parent exists for current context"), s)

def cd : Handler (Client κ ξ) := fun d s =>
  if d.argc ≤ 1 then (some (.commandException "No child name given"), s)
  else match d.arg 1 with
    | none => (some .other, s)
    | some child =>
      match s.currentContext.nestedContexts.find? fun c => c.text = child with
      | some c => (none, { s with currentContext := c })
      | none => (some (.commandException ("No child with given name: " ++ child)), s)

def exit : Handler (Client κ ξ) := fun _ s => (some .exitException, s)

def handlers : List (String × Handler (Client κ ξ)) :=
  [("current", prints), ("pr", pr), ("cd", cd), ("list", prints), ("exit", exit), ("print", prints),
    ("help", prints), ("flush", prints)]

end Context

variable (lib : Libraries κ ξ σ) (world : Nat → Surroundings κ σ)

/-- `po::store(po::parse_command_line(argc, argv, opts), vm)`. -/
def store (opts : OptionsDescription) (d : Dispatch) : Except Thrown VariablesMap :=
  match d.args with
  | none => .error .other
  | some args =>
    match lib.parseCommandLine opts args with
    | .ok vm => .ok vm
    | .error what => .error (.programOption what)

/-- `address::from_string`, whose `system_error` is not caught. -/
def address (text : String) : Except Thrown String :=
  match lib.fromString text with
  | some ipAddress => .ok ipAddress
  | none => .error .other

def isAddress (text : String) : Bool := (lib.fromString text).isSome

/-! ### NodeContext -/

namespace NodeContext

/-- `pnd`, `user`, `ia`, `il` and `ir`. -/
def showNode : Handler (Client κ ξ) := fun _ => checkNode Client.nodeC fun _ s => (none, s)

def pnt : Handler (Client κ ξ) := fun _ => checkNetwork Client.nodeC fun _ s => (none, s)

/-- The arguments of `setU`. -/
def newUser (d : Dispatch) : Except Thrown (Option MyUser) := do
  let vm ← store lib suOpts d
  if vm.count "help" then return none
  let username ← vm.required VariableValue.string? "username" "username required"
  let password ← vm.required VariableValue.string? "password" "password required"
  let isRegistered ← vm.optional VariableValue.bool? "registered"
  let email ← vm.optional VariableValue.string? "email"
  return some ⟨⟨username, email.getD ""⟩, password, isRegistered.getD false⟩

def setU : Handler (Client κ ξ) := fun d =>
  checkNode Client.nodeC fun node => reading (newUser lib d) fun user s =>
    match (s.nodes node).setUser user with
    | (.error e, _) => (some (.nodeException e.message), s)
    | (.ok (), n) => (none, s.setNode node n)

/-- An operation of the node, and what the command makes of what it returns. -/
def call (d : Dispatch) (node : NodePtr) (c : NodeCall) (act : NodeError → Option Thrown) :
    Action κ ξ := fun s =>
  match invoke (s.nodes node) lib.readCertificate c ((world d.line).exchange node)
      (world d.line).keyUsable with
  | some (error, n) => (act error, s.setNode node n)
  | none => (some .other, s)

/-- `login`, `logout`, `getNL` and `getMN`. -/
def nodeCall (c : NodeCall) : Handler (Client κ ξ) := fun d =>
  checkNode Client.nodeC fun node => call lib world d node c fun _ => none

def login : Handler (Client κ ξ) := nodeCall lib world .logIn

def logout : Handler (Client κ ξ) := nodeCall lib world .logOut

def getNL : Handler (Client κ ξ) := nodeCall lib world .getNetworksList

def getMN : Handler (Client κ ξ) := nodeCall lib world .getMyNetworks

/-- The request is made with the first key of the node, and not made when there is none. -/
def registerCall (n : NodeMembers κ ξ) : NodeCall :=
  .registerUser (match n.privateKeys.head? with
    | some store => lib.certRequest store.key
    | none => fun _ => "")

/-- The last key and certificate are written to their directories. -/
def register : Handler (Client κ ξ) := fun d =>
  checkNode Client.nodeC fun node s =>
    call lib world d node (registerCall lib (s.nodes node)) (fun error =>
      if error = .ok ∧ (world d.line).storesWritten = false then some .other else none) s

/-- The arguments of `cp`. -/
def newPassword (d : Dispatch) : Except Thrown (Option String) := do
  let vm ← store lib cpOpts d
  if vm.count "help" then return none
  return some (← vm.required VariableValue.string? "password" "Password required")

def cp : Handler (Client κ ξ) := fun d =>
  checkNode Client.nodeC fun node => reading (newPassword lib d) fun password =>
    call lib world d node (.changePassword password) fun error =>
      if error = .ok then none else some (.nodeError (nodeErrorText error))

/-- `regNet`, `delNet` and `ss`. -/
def networkCall (c : NetworkDescription → NodeCall) : Handler (Client κ ξ) := fun d =>
  checkNode Client.nodeC fun node => checkNetwork Client.nodeC fun network s =>
    call lib world d node (c (s.networks network).networkDesc) (fun _ => none) s

def regNet : Handler (Client κ ξ) := networkCall lib world .registerNetwork

def delNet : Handler (Client κ ξ) := networkCall lib world .deleteNetwork

def ss : Handler (Client κ ξ) := networkCall lib world .stopServer

/-- The same with arguments. -/
def networkCallWith {α : Type} (arguments : Dispatch → Except Thrown (Option α))
    (c : NetworkDescription → α → NodeCall) : Handler (Client κ ξ) := fun d =>
  checkNode Client.nodeC fun node => checkNetwork Client.nodeC fun network =>
    reading (arguments d) fun a s =>
      call lib world d node (c (s.networks network).networkDesc a) (fun _ => none) s

/-- The arguments of `getU` and `invite`, which go on after the help. -/
def username (opts : OptionsDescription) (d : Dispatch) : Except Thrown (Option String) := do
  let vm ← store lib opts d
  return some (← vm.required VariableValue.string? "username" "Username required")

def getU : Handler (Client κ ξ) := networkCallWith lib world (username lib getUOpts) .getUserInfo

def invite : Handler (Client κ ξ) :=
  networkCallWith lib world (username lib inviteOpts) fun networkDesc username =>
    .inviteUser networkDesc { username }

/-- The arguments of `ups`. -/
def port (d : Dispatch) : Except Thrown (Option UInt16) := do
  let vm ← store lib upsOpts d
  if vm.count "help" then return none
  return some (← vm.required VariableValue.uint16? "port" "Port required")

def ups : Handler (Client κ ξ) :=
  networkCallWith lib world (port lib) fun networkDesc port => .updateServer networkDesc port.toNat

def getSL : Handler (Client κ ξ) := fun d =>
  checkNode Client.nodeC fun node => checkNetwork Client.nodeC fun network s =>
    match invokeServersList (s.nodes node) (isAddress lib) (s.networks network).networkDesc
        ((world d.line).exchange node) with
    | .ok n => (none, s.setNode node n)
    | .error _ => (some .other, s)

def stop : Handler (Client κ ξ) := fun _ =>
  checkNode Client.nodeC fun node => onObjects fun o => o.stopConnections lib.opened node

/-- The arguments of `gk`: the name of the network. -/
def keyNetwork (d : Dispatch) : Except Thrown (Option (Option String)) := do
  let vm ← store lib gkOpts d
  if vm.count "help" then return none
  let _ ← vm.required VariableValue.string? "password" "No password given"
  return some (← vm.optional VariableValue.string? "network")

/-- The key is filed with the node and then written. -/
def fileKey (d : Dispatch) (node : NodePtr) (net : Option NetworkDescription) : Action κ ξ := fun s =>
  (if (world d.line).storesWritten then none else some .other,
    s.setNode node ((s.nodes node).step lib.readCertificate
      (NodeClient.gk (s.nodes node).nodeDesc (world d.line).key net)))

def gk : Handler (Client κ ξ) := fun d =>
  checkNode Client.nodeC fun node => reading (keyNetwork lib d) fun
    | some networkName =>
      attempt (fun s => s.getNetwork (.inr networkName)) fun net s =>
        fileKey lib world d node (some (s.networks net).networkDesc) s
    | none => fileKey lib world d node none

/-- The arguments of `sk`. -/
def signNetwork (d : Dispatch) : Except Thrown (Option String) := do
  let vm ← store lib skOpts d
  if vm.count "help" then return none
  return some (← vm.required VariableValue.string? "network" "Network name required")

/-- `map.find`, with what the handler throws. -/
def networkKey (n : NodeMembers κ ξ) (networkDesc : NetworkDescription) :
    Except Thrown (PrivateKeyStore κ) :=
  match n.netKeys[networkDesc]? with
  | some key => .ok key
  | none => .error (.commandException "No private key for given network")

def sk : Handler (Client κ ξ) := fun d =>
  checkNode Client.nodeC fun node => reading (signNetwork lib d) fun networkName =>
    attempt (fun s => s.getNetwork (.inr networkName)) fun net =>
      attempt (fun s => networkKey (s.nodes node) (s.networks net).networkDesc) fun key s =>
        call lib world d node (.signKey (lib.certRequest key.key) (s.networks net).networkDesc)
          (fun error =>
            if error = .ok then if (world d.line).storesWritten then none else some .other
            else some (.nodeError (nodeErrorText error))) s

def handlers : List (String × Handler (Client κ ξ)) :=
  [("pnd", showNode), ("pnt", pnt), ("setU", setU lib), ("login", login lib world),
    ("logout", logout lib world), ("register", register lib world), ("cp", cp lib world),
    ("user", showNode), ("getU", getU lib world), ("invite", invite lib world),
    ("getNL", getNL lib world), ("getMN", getMN lib world), ("getSL", getSL lib world),
    ("ia", showNode), ("il", showNode), ("ir", showNode), ("regNet", regNet lib world),
    ("delNet", delNet lib world), ("ups", ups lib world), ("ss", ss lib world), ("stop", stop lib),
    ("help", Context.prints), ("gk", gk lib world), ("sk", sk lib world)]

end NodeContext

/-! ### NetworkContext -/

namespace NetworkContext

/-- `pnt` and `getNds`. -/
def showNetwork : Handler (Client κ ξ) := fun _ => checkNetwork Client.networkC fun _ s => (none, s)

def pnd : Handler (Client κ ξ) := fun _ => checkNode Client.networkC fun _ s => (none, s)

def addNd : Handler (Client κ ξ) := fun _ =>
  checkNode Client.networkC fun node => checkNetwork Client.networkC fun network s =>
    (none, s.setNetwork network ((s.networks network).associateNode (s.nodes node).nodeDesc node))

def delNd : Handler (Client κ ξ) := fun _ =>
  checkNode Client.networkC fun node => checkNetwork Client.networkC fun network s =>
    (none, s.setNetwork network ((s.networks network).detachNode (s.nodes node).nodeDesc))

/-- What comes of the query of the node in this entry. -/
def exchanges (d : Dispatch) (s : Client κ ξ) (network : Network) (desc : NodeDescription) : Exchange :=
  match network.nodeSet[desc]? with
  | some node => exchangeOf (s.nodes node) ((world d.line).exchange node)
  | none => { connected := false, reply := none }

/-- Where a query ends the program, what was done by others before it is not kept here. -/
def getSl : Handler (Client κ ξ) := fun d => checkNetwork Client.networkC fun network s =>
  match (s.networks network).getAvailableServers s.manager.lock (isAddress lib)
      (exchanges world d s (s.networks network)) fun p => (s.nodes p).toNodeState with
  | .error _ => (some .other, s)
  | .ok found =>
    (none, { s with nodes := fun p => { s.nodes p with
      toNodeState := found.nodes p
      isActive := (s.nodes p).isActive || found.asked.any fun a => a.1 = p && reached a.2.1 } })

def ia : Handler (Client κ ξ) := fun _ => checkNetwork Client.networkC fun network s =>
  (none, s.setNetwork network
    ((s.networks network).isActive s.manager.lock fun p => (s.nodes p).isActive).2)

def handlers : List (String × Handler (Client κ ξ)) :=
  [("pnt", showNetwork), ("pnd", pnd), ("addNd", addNd), ("delNd", delNd), ("getNds", showNetwork),
    ("getSl", getSl lib world), ("ia", ia)]

end NetworkContext

/-! ### Sp2pContext -/

namespace Sp2pContext

/-- The node becomes that of all contexts. -/
def setNode (node : NodePtr) (s : Client κ ξ) : Client κ ξ :=
  { s with
    nodeC := { s.nodeC with node := some node }
    networkC := { s.networkC with node := some node }
    current := { s.current with node := some node } }

def setNetwork (network : NetworkPtr) (s : Client κ ξ) : Client κ ξ :=
  { s with
    networkC := { s.networkC with network := some network }
    nodeC := { s.nodeC with network := some network }
    current := { s.current with network := some network } }

/-- The arguments of `cnd`. -/
def newNode (d : Dispatch) : Except Thrown (Option (NodeDescription × MyUser)) := do
  let vm ← store lib createNode d
  if vm.count "help" then return none
  let nodeName ← vm.required VariableValue.string? "name" "Node name required"
  let port ← vm.required VariableValue.uint16? "port" "Port required"
  let ipAddress ← address lib (← vm.required VariableValue.string? "ip-address" "IP address requiered")
  match ← vm.optional VariableValue.string? "username" with
  | some username =>
    let password ← vm.required VariableValue.string? "password" "User requires password"
    let isRegistered ← vm.optional VariableValue.bool? "registered"
    let email ← vm.optional VariableValue.string? "email"
    return some (⟨ipAddress, nodeName, port⟩,
      ⟨⟨username, email.getD ""⟩, password, isRegistered.getD false⟩)
  | none => return some (⟨ipAddress, nodeName, port⟩, .default)

def cnd : Handler (Client κ ξ) := fun d =>
  reading (newNode lib d) fun (desc, user) => onManager fun o => o.createNode desc user

/-- The arguments of `gnd` and `rnd`. -/
def nodeKey (opts : OptionsDescription) (d : Dispatch) : Except Thrown (Option NodeKey) := do
  let vm ← store lib opts d
  if vm.count "help" then return none
  let nodeName ← vm.required VariableValue.string? "name" "Node name required"
  let port ← vm.optional VariableValue.uint16? "port"
  let text ← vm.optional VariableValue.string? "ip-address"
  match port, text with
  | some port, some text => return some (.inl ⟨← address lib text, nodeName, port⟩)
  | none, some text =>
    let _ ← address lib text
    return some (.inr nodeName)
  | _, none => return some (.inr nodeName)

def gnd : Handler (Client κ ξ) := fun d =>
  reading (nodeKey lib getNode d) fun key =>
    attempt (fun s => s.getNode key) fun node s => (none, setNode node s)

def rnd : Handler (Client κ ξ) := fun d =>
  reading (nodeKey lib removeNode d) fun key => onManager fun o => o.removeNode key

def pnd : Handler (Client κ ξ) := Context.prints

/-- The arguments of `cnt`. -/
def newNetwork (d : Dispatch) : Except Thrown (Option NetworkDescription) := do
  let vm ← store lib createNetwork d
  if vm.count "help" then return none
  let networkName ← vm.required VariableValue.string? "name" "Network name required"
  let protocolName ← vm.required VariableValue.string? "protocol" "Protocol name required"
  let access ← accessRights
    (← vm.required VariableValue.string? "access_rights" "Access Rights required")
  let visability ← visibility (← vm.required VariableValue.string? "visibility" "Visibility required")
  let participation ← participationRights
    (← vm.required VariableValue.string? "participation" "Participation Rights required")
  return some ⟨access, visability, participation, protocolName, networkName, {}⟩

def cnt : Handler (Client κ ξ) := fun d =>
  reading (newNetwork lib d) fun desc => onManager fun o => o.createNetwork desc

/-- The arguments of `gnt` and `rnt`. There is no option `port` and none that is called `Visibility`. -/
def networkKey (opts : OptionsDescription) (d : Dispatch) : Except Thrown (Option NetworkKey) := do
  let vm ← store lib opts d
  if vm.count "help" then return none
  let networkName ← vm.required VariableValue.string? "name" "Node name required"
  let protocolName ← if vm.count "port" then (vm.valueAs VariableValue.string? "protocol").map some
    else pure none
  let access ← match ← vm.optional VariableValue.string? "access_rights" with
    | some text => (accessRights text).map some
    | none => pure none
  let visability ← if vm.count "visibility" then do
      let text ← vm.valueAs VariableValue.string? "Visibility"
      (visibility text).map some
    else pure none
  let participation ← match ← vm.optional VariableValue.string? "participation" with
    | some text => (participationRights text).map some
    | none => pure none
  match protocolName, access, visability, participation with
  | some protocolName, some access, some visability, some participation =>
    return some (.inl ⟨access, visability, participation, protocolName, networkName, {}⟩)
  | _, _, _, _ => return some (.inr networkName)

def gnt : Handler (Client κ ξ) := fun d =>
  reading (networkKey lib getNetwork d) fun key =>
    attempt (fun s => s.getNetwork key) fun network s => (none, setNetwork network s)

def rnt : Handler (Client κ ξ) := fun d =>
  reading (networkKey lib removeNetwork d) fun key => onManager fun o => o.removeNetwork key

def pnt : Handler (Client κ ξ) := Context.prints

/-- The filename of `save` and `load`, which is not taken without a password. -/
def filename (opts : OptionsDescription) (message : String) (d : Dispatch) :
    Except Thrown (Option (Option String)) := do
  let vm ← store lib opts d
  if vm.count "help" then return none
  match ← vm.optional VariableValue.string? "filename" with
  | some filename =>
    let _ ← vm.required VariableValue.string? "password" message
    return some (some filename)
  | none => return some none

def setDataFile (destFile : Option String) (s : Client κ ξ) : Client κ ξ :=
  match destFile with
  | some file => { s with dataManager := s.dataManager.setDataFile file }
  | none => s

/-- After the state the keys and certificates of all nodes are written. -/
def save : Handler (Client κ ξ) := fun d =>
  reading (filename lib saveState "Filename requires password to encode" d) fun destFile s =>
    let s := setDataFile destFile s
    match s.dataManager.getSink with
    | .error _ => (some .other, s)
    | .ok sink =>
      if (world d.line).stateWritten then
        (if (world d.line).storesWritten then none else some .other,
          { s with saved := s.saved ++ [(sink, s.manager.saveState)] })
      else (some .other, s)

/-- What `getSource` gives; `file` is what opening the file does. -/
def source (file : Option σ) (s : Client κ ξ) : Option σ :=
  match s.dataManager.getSource with
  | .error _ => none
  | .ok _ => file

def loadFrom (file : Option σ) : Action κ ξ := fun s =>
  onObjects (fun o => o.loadState lib.source lib.opened (source file s)) s

def load : Handler (Client κ ξ) := fun d =>
  reading (filename lib loadState "Filename requires password to decode" d) fun sourceFile s =>
    loadFrom lib (world d.line).file (setDataFile sourceFile s)

def clear : Handler (Client κ ξ) := fun _ => onObjects fun o => o.clear lib.opened

def handlers : List (String × Handler (Client κ ξ)) :=
  [("cnd", cnd lib), ("gnd", gnd lib), ("rnd", rnd lib), ("pnd", pnd), ("cnt", cnt lib), ("gnt", gnt lib),
    ("rnt", rnt lib), ("pnt", pnt), ("save", save lib world), ("load", load lib world),
    ("priv_dir", Context.prints), ("pub_dir", Context.prints), ("cert_dir", Context.prints),
    ("clear", clear lib)]

end Sp2pContext

/-- The handlers of a context: its own before the basic ones. -/
def handlers : ContextName → List (String × Handler (Client κ ξ))
  | .mainApp => Context.handlers
  | .sp2p => Sp2pContext.handlers lib world ++ Context.handlers
  | .node => NodeContext.handlers lib world ++ Context.handlers
  | .network => NetworkContext.handlers lib world ++ Context.handlers

/-- `RootContext::operator[]`. A connection may have ended when the handler is called. -/
def dispatcher (s : Client κ ξ) (command : String) : Option (Handler (Client κ ξ)) :=
  ((handlers lib world s.currentContext).find? fun h => h.1 = command).map fun h d s =>
    h.2 d (s.endConnections (world d.line).ended)

/-! ### The constructor of Sp2pContext -/

/-- What the constructor finds. `file` is `none` when there is no data file, the names are those of the
configuration, and the lists are the files of its directories, `none` where there is no directory. -/
structure Startup (κ ξ σ : Type) where
  dataFile : String
  password : String
  file : Option (Option σ) := none
  nodeName : Option String := none
  networkName : Option String := none
  privKeys : Option (List String)
  pubKeysRead : Bool := true
  certs : Option (List String)
  loadKey : String → Option κ
  loadCert : String → Option ξ

/-- What `scanForPrivKeys` and `scanForCerts` attach; `none` is an exception of theirs. -/
def attach (found : List (NodePtr × NodeEvent κ ξ) × Option ScanException) (s : Client κ ξ) :
    Option (Client κ ξ) :=
  match found with
  | (its, none) => some (its.foldl
      (fun s it => s.setNode it.1 ((s.nodes it.1).step lib.readCertificate it.2)) s)
  | (_, some _) => none

/-- The node of the configuration, or the network; an empty name is none. -/
def pick {α : Type} (name : Option String) (find : String → Client κ ξ → Except Thrown α)
    (set : α → Client κ ξ → Client κ ξ) (s : Client κ ξ) : Option (Client κ ξ) :=
  match name.filter (· ≠ "") with
  | none => some s
  | some name =>
    match find name s with
    | .ok a => some (set a s)
    | .error _ => none

/-- The data file is loaded when there is one. -/
def loadAtStart (file : Option (Option σ)) (s : Client κ ξ) : Option (Client κ ξ) :=
  match file with
  | none => some s
  | some file =>
    match Sp2pContext.loadFrom lib file s with
    | (none, s) => some s
    | (some _, _) => none

/-- `none` is an exception, which ends the program before the loop. -/
def start (startup : Startup κ ξ σ) : Option (Client κ ξ) := do
  let s : Client κ ξ :=
    { dataManager := ⟨.CryptDataManager startup.password, startup.dataFile⟩ }
  let s ← loadAtStart lib startup.file s
  let s ← pick startup.nodeName (fun name s => s.getNode (.inr name)) Sp2pContext.setNode s
  let s ← pick startup.networkName (fun name s => s.getNetwork (.inr name)) Sp2pContext.setNetwork s
  let s ← attach lib (scanForPrivKeys s.manager startup.loadKey (← startup.privKeys)) s
  if startup.pubKeysRead then attach lib (scanForCerts s.manager startup.loadCert (← startup.certs)) s
  else none

end Handlers

end Sp2p.NodeClient
